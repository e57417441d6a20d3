import Mathlib.Data.List.DropRight
import Mathlib.Data.List.Induction
import Mathlib.Data.List.TakeDrop
import Mathlib.Data.List.TakeWhile
import RollupTx.Token.Basic

/-!
# Decimal text of amounts

Rendering an amount of `d` decimals writes the digits of its integer part, then a point and its
fraction's digits without trailing zeros; parsing reads such text back. This module proves the
two inverse to each other. A rendered amount is the normal numeral of its value
(`NormalNumeral`): the integer part has no leading zero unless it is `0`, the fraction no
trailing zero, and the point is written exactly when the amount is not a whole number of
tokens; the message form adds `.0` exactly where the plain form has no point. Parsing either form
gives the amount back (`parse_render`, `parse_renderPoint`), and the amount of any accepted text
renders as that text's normal form (`render_of_parse`). `Token.decimal_text_round_trip`
collects these for a token's conversions.

The arithmetic runs on digit lists: `digitsValue` reads a list of ASCII digits, and the core
lemma `digits_digitsValue` says that writing that value back gives the list without its leading
zeros, or `0`.
-/

namespace RollupTx.Decimal

theorem digitsValue_eq_ofDigitChars (cs : List Char) :
    digitsValue cs = Nat.ofDigitChars 10 cs 0 := by
  simp only [digitsValue, Nat.ofDigitChars_eq_foldl, Nat.mul_comm]
  rfl

theorem digitsValue_append (a b : List Char) :
    digitsValue (a ++ b) = digitsValue a * 10 ^ b.length + digitsValue b := by
  rw [digitsValue_eq_ofDigitChars, Nat.ofDigitChars_append, Nat.ofDigitChars_eq_ofDigitChars_zero,
    ← digitsValue_eq_ofDigitChars, ← digitsValue_eq_ofDigitChars, Nat.mul_comm]

@[simp] theorem digitsValue_nil : digitsValue [] = 0 := rfl

@[simp] theorem digitsValue_singleton (c : Char) : digitsValue [c] = c.toNat - 48 := by
  simp [digitsValue]

theorem digitsValue_cons (c : Char) (cs : List Char) :
    digitsValue (c :: cs) = (c.toNat - 48) * 10 ^ cs.length + digitsValue cs := by
  rw [← List.singleton_append, digitsValue_append, digitsValue_singleton]

@[simp] theorem digitsValue_digits (n : Nat) : digitsValue (digits n) = n := by
  rw [digitsValue_eq_ofDigitChars, digits, Nat.ofDigitChars_ten_toDigits]

@[simp] theorem digitsValue_replicate_zero (k : Nat) :
    digitsValue (List.replicate k '0') = 0 := by
  rw [digitsValue_eq_ofDigitChars, Nat.ofDigitChars_replicate_zero, Nat.mul_zero]

@[simp] theorem allDigits_append (a b : List Char) :
    allDigits (a ++ b) = (allDigits a && allDigits b) := by
  simp [allDigits]

theorem allDigits_iff {cs : List Char} : allDigits cs ↔ ∀ c ∈ cs, c.isDigit := by
  simp [allDigits]

theorem digit_sub_lt_ten {c : Char} (h : c.isDigit) : c.toNat - 48 < 10 := by
  have := Char.isDigit_iff_toNat.1 h
  simp at this
  omega

theorem digitsValue_lt {cs : List Char} (h : allDigits cs) : digitsValue cs < 10 ^ cs.length := by
  induction cs with
  | nil => simp
  | cons c cs ih =>
    simp only [allDigits, List.all_cons, Bool.and_eq_true] at h
    have hc := digit_sub_lt_ten h.1
    have hrest := ih h.2
    have hlead : (c.toNat - 48) * 10 ^ cs.length ≤ 9 * 10 ^ cs.length :=
      Nat.mul_le_mul_right _ (by omega)
    rw [digitsValue_cons, List.length_cons, Nat.pow_succ]
    omega

theorem digitsValue_eq_zero_iff {cs : List Char} (h : allDigits cs) :
    digitsValue cs = 0 ↔ ∀ c ∈ cs, c = '0' := by
  induction cs with
  | nil => simp
  | cons c cs ih =>
    simp only [allDigits, List.all_cons, Bool.and_eq_true] at h
    have hc := Char.isDigit_iff_toNat.1 h.1
    simp only [Char.reduceToNat] at hc
    rw [digitsValue_cons, List.forall_mem_cons, ← ih h.2, Nat.add_eq_zero_iff, Nat.mul_eq_zero]
    have hzero : c.toNat - 48 = 0 ↔ c = '0' := by
      constructor
      · intro h0
        exact Char.toNat_inj.1 (by simp; omega)
      · rintro rfl
        rfl
    simp [hzero, Nat.pow_eq_zero]

theorem allDigits_digits (n : Nat) : allDigits (digits n) :=
  allDigits_iff.2 fun _ hc => Nat.isDigit_of_mem_toDigits (by decide) (by decide) hc

theorem digits_ne_nil (n : Nat) : digits n ≠ [] := Nat.toDigits_ne_nil

theorem digits_digit {c : Char} (h : c.isDigit) : digits (c.toNat - 48) = [c] := by
  have hc := Char.isDigit_iff_toNat.1 h
  simp only [Char.reduceToNat] at hc
  rw [digits, Nat.toDigits_of_lt_base (by omega)]
  congr 1
  rw [← Char.toNat_inj, Nat.toNat_digitChar_of_lt_ten (by omega)]
  omega

theorem digits_digitsValue_of_head {cs : List Char} (h : allDigits cs) (hne : cs ≠ [])
    (hhead : cs.head? ≠ some '0') : digits (digitsValue cs) = cs := by
  induction cs using List.reverseRecOn with
  | nil => exact absurd rfl hne
  | append_singleton init c ih =>
    rw [allDigits_append] at h
    simp only [Bool.and_eq_true, allDigits, List.all_cons, List.all_nil, Bool.and_true] at h
    rcases init with _ | ⟨c₀, rest⟩
    · simpa using digits_digit h.2
    · -- the first digits are written as themselves, and the last digit follows them
      have hinit : digits (digitsValue (c₀ :: rest)) = c₀ :: rest :=
        ih h.1 (List.cons_ne_nil _ _) (by simpa using hhead)
      have hpos : 0 < digitsValue (c₀ :: rest) := by
        rcases Nat.eq_zero_or_pos (digitsValue (c₀ :: rest)) with h0 | h0
        · rw [h0] at hinit
          simp only [digits, Nat.toDigits_zero, List.cons.injEq] at hinit
          simp [← hinit.1] at hhead
        · exact h0
      rw [digitsValue_append, digitsValue_singleton, List.length_singleton, Nat.pow_one, digits,
        Nat.mul_comm, ← Nat.toDigits_append_toDigits (by decide) hpos (digit_sub_lt_ten h.2)]
      rw [digits] at hinit
      rw [hinit, ← digits, digits_digit h.2]

theorem digitsValue_dropWhile_zero (cs : List Char) :
    digitsValue (cs.dropWhile (· = '0')) = digitsValue cs := by
  conv_rhs => rw [← List.takeWhile_append_dropWhile (p := (· = '0')) (l := cs)]
  have hzeros : digitsValue (cs.takeWhile (· = '0')) = 0 := by
    rw [digitsValue_eq_ofDigitChars]
    have hrep : cs.takeWhile (· = '0') = List.replicate (cs.takeWhile (· = '0')).length '0' :=
      List.eq_replicate_iff.2 ⟨rfl, fun c hc => by simpa using List.mem_takeWhile_imp hc⟩
    rw [hrep, Nat.ofDigitChars_replicate_zero, Nat.mul_zero]
  rw [digitsValue_append, hzeros, Nat.zero_mul, Nat.zero_add]

/-- Writing back the value of digits gives them without leading zeros, or `0`. -/
theorem digits_digitsValue {cs : List Char} (h : allDigits cs) :
    digits (digitsValue cs) =
      if cs.dropWhile (· = '0') = [] then ['0'] else cs.dropWhile (· = '0') := by
  rw [← digitsValue_dropWhile_zero]
  have hsub : allDigits (cs.dropWhile (· = '0')) :=
    allDigits_iff.2 fun c hc => allDigits_iff.1 h c ((List.dropWhile_sublist _).subset hc)
  have hhead := List.head?_dropWhile_not (· = '0') cs
  split
  · rename_i hnil
    rw [hnil, digitsValue_nil, digits, Nat.toDigits_zero]
  · rename_i hne
    refine digits_digitsValue_of_head hsub hne ?_
    revert hhead hne
    cases cs.dropWhile (· = '0') with
    | nil => simp
    | cons c rest => simp

theorem allDigits_of_sublist {cs ds : List Char} (hsub : ds.Sublist cs) (h : allDigits cs) :
    allDigits ds :=
  allDigits_iff.2 fun c hc => allDigits_iff.1 h c (hsub.subset hc)

theorem length_digits_le {w n : Nat} (hw : 0 < w) (hn : n < 10 ^ w) : (digits n).length ≤ w :=
  (Nat.length_toDigits_le_iff (by decide) hw).2 hn

theorem allDigits_padDigits (w n : Nat) : allDigits (padDigits w n) := by
  simp only [padDigits, allDigits_append, allDigits_digits, Bool.and_true]
  simp [allDigits, List.all_replicate]

@[simp] theorem digitsValue_padDigits (w n : Nat) : digitsValue (padDigits w n) = n := by
  simp [padDigits, digitsValue_append]

theorem length_padDigits {w n : Nat} (hw : 0 < w) (hn : n < 10 ^ w) :
    (padDigits w n).length = w := by
  have := length_digits_le hw hn
  simp only [padDigits, List.length_append, List.length_replicate]
  omega

theorem zeros_append_dropWhile (cs : List Char) :
    List.replicate (cs.length - (cs.dropWhile (· = '0')).length) '0' ++
      cs.dropWhile (· = '0') = cs := by
  have hsplit := List.takeWhile_append_dropWhile (p := (· = '0')) (l := cs)
  have hzeros : cs.takeWhile (· = '0') = List.replicate (cs.takeWhile (· = '0')).length '0' :=
    List.eq_replicate_iff.2 ⟨rfl, fun c hc => by simpa using List.mem_takeWhile_imp hc⟩
  have hlen : cs.length - (cs.dropWhile (· = '0')).length = (cs.takeWhile (· = '0')).length := by
    have := congrArg List.length hsplit
    rw [List.length_append] at this
    omega
  rw [hlen, ← hzeros, hsplit]

/-- Padding the value of nonempty digits to their length gives the digits back. -/
theorem padDigits_digitsValue {cs : List Char} (h : allDigits cs) (hne : cs ≠ []) :
    padDigits cs.length (digitsValue cs) = cs := by
  rw [padDigits, digits_digitsValue h]
  split
  · -- all zeros: the value is written `0` and padded back to all zeros
    rename_i hnil
    have hall := List.dropWhile_eq_nil_iff.1 hnil
    have hrep : cs = List.replicate cs.length '0' :=
      List.eq_replicate_iff.2 ⟨rfl, fun c hc => by simpa using hall c hc⟩
    have hlen : 0 < cs.length := List.length_pos_iff.2 hne
    conv_rhs => rw [hrep]
    rw [List.length_singleton, ← List.replicate_succ', Nat.sub_add_cancel hlen]
  · -- the leading zeros come back as padding
    exact zeros_append_dropWhile cs

theorem dropTrailingZeros_eq_rdropWhile (cs : List Char) :
    dropTrailingZeros cs = cs.rdropWhile (· = '0') := rfl

theorem dropTrailingZeros_append_zeros (cs : List Char) :
    dropTrailingZeros cs ++
      List.replicate (cs.length - (dropTrailingZeros cs).length) '0' = cs := by
  have hsplit := List.rdropWhile_append_rtakeWhile (p := (· = '0')) (l := cs)
  have hzeros : cs.rtakeWhile (· = '0') = List.replicate (cs.rtakeWhile (· = '0')).length '0' :=
    List.eq_replicate_iff.2 ⟨rfl, fun c hc => by simpa using List.mem_rtakeWhile_imp hc⟩
  have hlen : cs.length - (dropTrailingZeros cs).length = (cs.rtakeWhile (· = '0')).length := by
    have := congrArg List.length hsplit
    rw [List.length_append] at this
    rw [dropTrailingZeros_eq_rdropWhile]
    omega
  rw [hlen, ← hzeros, dropTrailingZeros_eq_rdropWhile, hsplit]

theorem length_dropTrailingZeros_le (cs : List Char) :
    (dropTrailingZeros cs).length ≤ cs.length :=
  (List.rdropWhile_prefix _ cs).length_le

theorem allDigits_dropTrailingZeros {cs : List Char} (h : allDigits cs) :
    allDigits (dropTrailingZeros cs) :=
  allDigits_of_sublist (List.rdropWhile_prefix _ cs).sublist h

theorem dropTrailingZeros_eq_nil_iff {cs : List Char} :
    dropTrailingZeros cs = [] ↔ ∀ c ∈ cs, c = '0' := by
  simp [dropTrailingZeros_eq_rdropWhile, List.rdropWhile_eq_nil_iff]

theorem getLast?_dropTrailingZeros (cs : List Char) :
    (dropTrailingZeros cs).getLast? ≠ some '0' := by
  intro h
  have hne : dropTrailingZeros cs ≠ [] := by
    intro hnil
    simp [hnil] at h
  have hlast := List.rdropWhile_last_not (· = '0') cs hne
  rw [List.getLast?_eq_some_getLast hne, Option.some.injEq] at h
  exact hlast (by simpa [dropTrailingZeros_eq_rdropWhile] using h)

theorem dropTrailingZeros_append_replicate (f : List Char) (k : Nat) :
    dropTrailingZeros (f ++ List.replicate k '0') = dropTrailingZeros f := by
  induction k with
  | zero => simp
  | succ k ih =>
    rw [List.replicate_succ', ← List.append_assoc, dropTrailingZeros_eq_rdropWhile,
      List.rdropWhile_concat_pos _ _ _ (by simp), ← dropTrailingZeros_eq_rdropWhile, ih]

/-- The fraction padded back to `d` digits is worth the amount's remainder below one token. -/
theorem fraction_append_zeros (d a : Nat) :
    (parts d a).2.length ≤ d ∧
      digitsValue ((parts d a).2 ++ List.replicate (d - (parts d a).2.length) '0') =
        a % 10 ^ d := by
  rcases Nat.eq_zero_or_pos d with rfl | hd
  · simp [parts, padDigits, digits, Nat.mod_one, dropTrailingZeros_eq_rdropWhile,
      List.rdropWhile_singleton]
  · have hr : a % 10 ^ d < 10 ^ d := Nat.mod_lt _ (Nat.pow_pos (by decide))
    have hlen := length_padDigits hd hr
    have hback := dropTrailingZeros_append_zeros (padDigits d (a % 10 ^ d))
    rw [hlen] at hback
    refine ⟨?_, ?_⟩
    · simp only [parts]
      simpa [hlen] using length_dropTrailingZeros_le (padDigits d (a % 10 ^ d))
    · simp only [parts]
      rw [hback, digitsValue_padDigits]

theorem allDigits_fraction (d a : Nat) : allDigits (parts d a).2 :=
  allDigits_dropTrailingZeros (allDigits_padDigits _ _)

theorem fraction_eq_nil_iff (d a : Nat) : (parts d a).2 = [] ↔ 10 ^ d ∣ a := by
  rw [Nat.dvd_iff_mod_eq_zero]
  rcases Nat.eq_zero_or_pos d with rfl | hd
  · simp [parts, padDigits, digits, Nat.mod_one, dropTrailingZeros_eq_rdropWhile]
  · simp only [parts]
    rw [dropTrailingZeros_eq_nil_iff, ← digitsValue_eq_zero_iff (allDigits_padDigits _ _),
      digitsValue_padDigits]

/-- Integer digits, then a point and the fraction digits unless the fraction is empty. -/
def numeral (i f : List Char) : List Char :=
  i ++ if f = [] then [] else '.' :: f

theorem render_eq (d a : Nat) :
    render d a = String.ofList (numeral (parts d a).1 (parts d a).2) := by
  unfold render
  split <;> rename_i i f hparts <;> simp_all [numeral]

theorem renderPoint_eq (d a : Nat) :
    renderPoint d a =
      String.ofList (numeral (parts d a).1 (if (parts d a).2 = [] then ['0'] else (parts d a).2)) := by
  unfold renderPoint
  split <;> rename_i i f hparts <;> simp_all [numeral]

/-- A numeral of `d` decimals for `a`: ASCII digits, no leading zero in the integer part unless
it is `0`, no trailing zero in the fraction, at most `d` fraction digits, and the value
`i + f / 10 ^ f.length` equal to `a / 10 ^ d`. -/
structure NormalNumeral (d a : Nat) (i f : List Char) : Prop where
  int_digits : allDigits i
  frac_digits : allDigits f
  int_ne_nil : i ≠ []
  no_leading_zero : i.head? = some '0' → i = ['0']
  no_trailing_zero : f.getLast? ≠ some '0'
  frac_length_le : f.length ≤ d
  value : digitsValue i * 10 ^ d + digitsValue f * 10 ^ (d - f.length) = a

theorem digits_head? {n : Nat} (h : (digits n).head? = some '0') : digits n = ['0'] := by
  have hback := digits_digitsValue (allDigits_digits n)
  rw [digitsValue_digits] at hback
  have hhead := List.head?_dropWhile_not (· = '0') (digits n)
  split at hback
  · exact hback
  · rename_i hne
    rw [hback] at h
    revert hhead hne h
    cases (digits n).dropWhile (· = '0') with
    | nil => simp
    | cons c rest => simp +contextual

theorem digitsValue_fraction (d a : Nat) :
    digitsValue (parts d a).2 * 10 ^ (d - (parts d a).2.length) = a % 10 ^ d := by
  rw [← (fraction_append_zeros d a).2, digitsValue_append, digitsValue_replicate_zero,
    Nat.add_zero, List.length_replicate]

/-- The parts of a rendered amount form its normal numeral. -/
theorem normalNumeral_parts (d a : Nat) : NormalNumeral d a (parts d a).1 (parts d a).2 where
  int_digits := allDigits_digits _
  frac_digits := allDigits_fraction d a
  int_ne_nil := digits_ne_nil _
  no_leading_zero := digits_head?
  no_trailing_zero := getLast?_dropTrailingZeros _
  frac_length_le := (fraction_append_zeros d a).1
  value := by
    have hint : digitsValue (parts d a).1 = a / 10 ^ d := digitsValue_digits _
    rw [hint, digitsValue_fraction, Nat.div_add_mod']

theorem isWhite_eq_false {c : Char} (h₁ : 46 ≤ c.toNat) (h₂ : c.toNat ≤ 57) :
    isWhite c = false := by
  simp only [isWhite, Bool.or_eq_false_iff, Bool.and_eq_false_iff, beq_eq_false_iff_ne,
    decide_eq_false_iff_not, ne_eq]
  omega

theorem isWhite_of_isDigit {c : Char} (h : c.isDigit) : isWhite c = false := by
  have := Char.isDigit_iff_toNat.1 h
  simp only [Char.reduceToNat] at this
  exact isWhite_eq_false (by omega) this.2

theorem trimWhite_of_forall {cs : List Char} (h : ∀ c ∈ cs, isWhite c = false) :
    trimWhite cs = cs := by
  have hdrop : ∀ l : List Char, (∀ c ∈ l, isWhite c = false) → l.dropWhile isWhite = l := by
    intro l hl
    cases l with
    | nil => rfl
    | cons c l => simp [hl c List.mem_cons_self]
  unfold trimWhite
  rw [hdrop cs h, hdrop cs.reverse (by simpa using h), List.reverse_reverse]

theorem point_not_mem {cs : List Char} (h : allDigits cs) : '.' ∉ cs := fun hmem => by
  simpa using allDigits_iff.1 h '.' hmem

theorem splitPoint_of_not_mem {i : List Char} (h : '.' ∉ i) : splitPoint i = (i, []) := by
  have hall : ∀ c ∈ i, decide (c ≠ '.') = true :=
    fun c hc => decide_eq_true fun (hc' : c = '.') => h (hc' ▸ hc)
  simp only [splitPoint, List.span_eq_takeWhile_dropWhile, List.takeWhile_eq_self_iff.2 hall,
    List.dropWhile_eq_nil_iff.2 hall]

theorem splitPoint_append_point {i : List Char} (h : '.' ∉ i) (f : List Char) :
    splitPoint (i ++ '.' :: f) = (i, f) := by
  have hall : ∀ c ∈ i, (!decide (c = '.')) = true := fun c hc => by
    simp only [Bool.not_eq_eq_eq_not, Bool.not_true, decide_eq_false_iff_not]
    rintro rfl
    exact h hc
  simp [splitPoint, List.span_eq_takeWhile_dropWhile, List.takeWhile_append_of_pos hall,
    List.dropWhile_append_of_pos hall]

theorem boundedValue_eq (cs : List Char) :
    boundedValue cs =
      if digitsValue cs < wordLimit then .ok (digitsValue cs) else .error .tooLarge := rfl

theorem dropTrailingZeros_idem (cs : List Char) :
    dropTrailingZeros (dropTrailingZeros cs) = dropTrailingZeros cs :=
  List.rdropWhile_idempotent _ _

/-- Parsing a numeral of digits: the fraction loses its trailing zeros, must fit the
decimals, and the digits are read with the fraction padded to `d` places. -/
theorem parse_numeral (d : Nat) {i g : List Char} (hi : allDigits i) (hne : i ≠ [])
    (hg : allDigits g) :
    parse d (String.ofList (numeral i g)) =
      if (dropTrailingZeros g).length > d then .error .tooPrecise
      else boundedValue (i ++ dropTrailingZeros g ++
        List.replicate (d - (dropTrailingZeros g).length) '0') := by
  have hwhite : ∀ c ∈ numeral i g, isWhite c = false := by
    intro c hc
    simp only [numeral, List.mem_append] at hc
    rcases hc with hc | hc
    · exact isWhite_of_isDigit (allDigits_iff.1 hi c hc)
    · split at hc
      · simp at hc
      · rcases List.mem_cons.1 hc with rfl | hc
        · exact isWhite_eq_false (by decide) (by decide)
        · exact isWhite_of_isDigit (allDigits_iff.1 hg c hc)
  have hsplit : splitPoint (numeral i g) = (i, g) := by
    unfold numeral
    split
    · rename_i hnil
      rw [List.append_nil, splitPoint_of_not_mem (point_not_mem hi), hnil]
    · exact splitPoint_append_point (point_not_mem hi) g
  have hok : ((i.isEmpty && g.isEmpty) || !allDigits i || !allDigits g) = false := by
    simp [hi, hg, hne]
  simp only [parse, String.toList_ofList, trimWhite_of_forall hwhite, hsplit, hok,
    Bool.false_eq_true, ↓reduceIte]

/-- The integer digits and the fraction padded to `d` places are the digits of the amount. -/
theorem digitsValue_parts (d a : Nat) :
    digitsValue ((parts d a).1 ++ (parts d a).2 ++
      List.replicate (d - (parts d a).2.length) '0') = a := by
  have hfrac := fraction_append_zeros d a
  have hint : digitsValue (parts d a).1 = a / 10 ^ d := digitsValue_digits _
  rw [List.append_assoc, digitsValue_append, hfrac.2, hint, List.length_append,
    List.length_replicate, Nat.add_sub_cancel' hfrac.1, Nat.div_add_mod']

theorem parse_render {d a : Nat} (ha : a < wordLimit) : parse d (render d a) = .ok a := by
  have hle := (fraction_append_zeros d a).1
  have hidem : dropTrailingZeros (parts d a).2 = (parts d a).2 := dropTrailingZeros_idem _
  rw [render_eq, parse_numeral d (i := (parts d a).1) (allDigits_digits _) (digits_ne_nil _)
    (allDigits_fraction d a), hidem, if_neg (by omega), boundedValue_eq, digitsValue_parts,
    if_pos ha]

theorem parse_renderPoint {d a : Nat} (ha : a < wordLimit) :
    parse d (renderPoint d a) = .ok a := by
  rw [renderPoint_eq]
  by_cases hf : (parts d a).2 = []
  · -- a whole amount is written with `.0`, whose zero is dropped again
    have hval := digitsValue_parts d a
    simp only [hf, List.append_nil, List.length_nil, Nat.sub_zero] at hval
    rw [if_pos hf, parse_numeral d (i := (parts d a).1) (g := ['0']) (allDigits_digits _)
      (digits_ne_nil _) (by decide)]
    simp [dropTrailingZeros_eq_rdropWhile, List.rdropWhile_singleton, boundedValue_eq, hval, ha]
  · rw [if_neg hf, ← render_eq, parse_render ha]

theorem point_mem_render_iff (d a : Nat) : '.' ∈ (render d a).toList ↔ ¬ 10 ^ d ∣ a := by
  have hint : '.' ∉ (parts d a).1 := point_not_mem (allDigits_digits _)
  rw [render_eq, String.toList_ofList, ← fraction_eq_nil_iff, numeral, List.mem_append]
  split
  · rename_i hf
    simp [hint, hf]
  · rename_i hf
    simp [hf]

theorem renderPoint_eq_render (d a : Nat) :
    renderPoint d a = if '.' ∈ (render d a).toList then render d a else render d a ++ ".0" := by
  by_cases hf : (parts d a).2 = []
  · have hno : '.' ∉ (render d a).toList := by
      rw [point_mem_render_iff, ← fraction_eq_nil_iff]
      exact not_not.2 hf
    rw [if_neg hno, renderPoint_eq, if_pos hf, render_eq, hf]
    apply String.toList_injective
    simp [numeral]
  · have hyes : '.' ∈ (render d a).toList := by
      rw [point_mem_render_iff, ← fraction_eq_nil_iff]
      exact hf
    rw [if_pos hyes, renderPoint_eq, if_neg hf, render_eq]

/-- The normal form of decimal text: the integer part without leading zeros, or `0` when
nothing is left, and the fraction without trailing zeros, the point dropped with it. -/
def normalize (s : String) : String :=
  let (i, f) := splitPoint s.toList
  String.ofList (numeral
    (if i.dropWhile (· = '0') = [] then ['0'] else i.dropWhile (· = '0')) (dropTrailingZeros f))

example : normalize "007.50" = "7.5" ∧ normalize "." = "0" ∧ normalize "0010" = "10" := by
  decide +kernel

/-- What an accepted text says: digits on both sides of the point, a fraction that fits the
decimals once its trailing zeros are dropped, and the digits read with the fraction padded. -/
theorem parse_eq_ok {d : Nat} {s : String} {v : Nat} {i g : List Char}
    (hsplit : splitPoint (trimWhite s.toList) = (i, g)) (h : parse d s = .ok v) :
    allDigits i ∧ allDigits g ∧ (dropTrailingZeros g).length ≤ d ∧
      digitsValue (i ++ dropTrailingZeros g ++
        List.replicate (d - (dropTrailingZeros g).length) '0') = v := by
  simp only [parse, hsplit] at h
  split_ifs at h with hbad hlong
  rw [boundedValue_eq] at h
  split_ifs at h
  cases h
  simp only [Bool.or_eq_true, Bool.and_eq_true, Bool.not_eq_true', not_or,
    Bool.not_eq_false] at hbad
  exact ⟨hbad.1.2, hbad.2, by omega, rfl⟩

theorem div_mod_digitsValue {d : Nat} {i r : List Char} (hr : allDigits r) (hlen : r.length = d) :
    digitsValue (i ++ r) / 10 ^ d = digitsValue i ∧ digitsValue (i ++ r) % 10 ^ d = digitsValue r := by
  have hlt := digitsValue_lt hr
  rw [hlen] at hlt
  have hpos : 0 < 10 ^ d := Nat.pow_pos (by decide)
  rw [digitsValue_append, hlen, Nat.add_comm]
  refine ⟨?_, ?_⟩
  · rw [Nat.add_mul_div_right _ _ hpos, Nat.div_eq_of_lt hlt, Nat.zero_add]
  · rw [Nat.add_mul_mod_self_right, Nat.mod_eq_of_lt hlt]

/-- The amount of an accepted text renders as the text's normal form. -/
theorem render_of_parse {d : Nat} {s : String} {v : Nat} (h : parse d s = .ok v) :
    render d v = normalize (trim s) := by
  rcases hsplit : splitPoint (trimWhite s.toList) with ⟨i, g⟩
  obtain ⟨hi, hg, hle, rfl⟩ := parse_eq_ok hsplit h
  rw [List.append_assoc]
  set f := dropTrailingZeros g ++ List.replicate (d - (dropTrailingZeros g).length) '0' with hf
  have hfrac : allDigits f := by
    rw [hf, allDigits_append, allDigits_dropTrailingZeros hg]
    simp [allDigits, List.all_replicate]
  have hlen : f.length = d := by
    simp only [hf, List.length_append, List.length_replicate]
    omega
  obtain ⟨hdiv, hmod⟩ := div_mod_digitsValue (i := i) hfrac hlen
  -- padding the remainder back to `d` places gives `f`, whose trailing zeros are dropped
  have hparts : (parts d (digitsValue (i ++ f))).2 = dropTrailingZeros g := by
    simp only [parts]
    rw [hmod]
    rcases Nat.eq_zero_or_pos d with rfl | hd
    · have hnil : dropTrailingZeros g = [] := List.length_eq_zero_iff.1 (by omega)
      simp [hf, hnil, padDigits, digits, dropTrailingZeros_eq_rdropWhile, List.rdropWhile_singleton]
    · have hpad := padDigits_digitsValue hfrac (List.ne_nil_of_length_pos (by omega))
      rw [hlen] at hpad
      rw [hpad, hf, dropTrailingZeros_append_replicate, dropTrailingZeros_idem]
  have hint : (parts d (digitsValue (i ++ f))).1 =
      if i.dropWhile (· = '0') = [] then ['0'] else i.dropWhile (· = '0') := by
    simp only [parts]
    rw [hdiv, digits_digitsValue hi]
  rw [render_eq, hparts, hint, normalize, trim, String.toList_ofList, hsplit]

theorem Token.fromDecimal_eq_ok_iff {t : Token} {s : String} {v : Nat} :
    t.fromDecimal s = .ok v ↔ parse t.decimals s = .ok v := by
  unfold Token.fromDecimal
  rcases parse t.decimals s with e | w
  · cases e <;> simp
  · simp

end RollupTx.Decimal

namespace RollupTx

open Decimal

/-- Decimal text of a token's amounts. The plain rendering of an amount is its normal numeral,
with a point exactly when the amount is not a whole number of tokens; the message form appends
`.0` exactly when the plain form has no point; both read back as the amount whenever it is below
`2 ^ 256`; and the amount of any accepted text renders as the text's normal form. -/
theorem Token.decimal_text_round_trip (t : Token) :
    (∀ a, ∃ i f, NormalNumeral t.decimals a i f ∧
        t.decimalAmount a = String.ofList (numeral i f)) ∧
    (∀ a, '.' ∈ (t.decimalAmount a).toList ↔ ¬ 10 ^ t.decimals ∣ a) ∧
    (∀ a, t.decimalPointAmount a =
        if '.' ∈ (t.decimalAmount a).toList then t.decimalAmount a
        else t.decimalAmount a ++ ".0") ∧
    (∀ a, a < wordLimit →
        t.fromDecimal (t.decimalAmount a) = .ok a ∧ t.fromDecimal (t.decimalPointAmount a) = .ok a) ∧
    (∀ s v, t.fromDecimal s = .ok v → t.decimalAmount v = normalize (trim s)) :=
  ⟨fun a => ⟨_, _, normalNumeral_parts t.decimals a, render_eq t.decimals a⟩,
    fun a => point_mem_render_iff t.decimals a,
    fun a => renderPoint_eq_render t.decimals a,
    fun _ ha => ⟨Token.fromDecimal_eq_ok_iff.2 (parse_render ha),
      Token.fromDecimal_eq_ok_iff.2 (parse_renderPoint ha)⟩,
    fun _ _ h => render_of_parse (Token.fromDecimal_eq_ok_iff.1 h)⟩

/-- One and a half ether: the message form reads back, and the padded text ` 001.500 ` renders as
its normal form. -/
theorem Token.eth_amount_text_round_trip :
    Token.eth.fromDecimal (Token.eth.decimalPointAmount 1500000000000000000) =
        .ok 1500000000000000000 ∧
      Token.eth.fromDecimal " 001.500 " = .ok 1500000000000000000 ∧
      Token.eth.decimalAmount 1500000000000000000 = normalize (trim " 001.500 ") :=
  have hparse : Token.eth.fromDecimal " 001.500 " = .ok 1500000000000000000 := by decide +kernel
  ⟨((Token.decimal_text_round_trip _).2.2.2.1 _ (by decide)).2, hparse,
    (Token.decimal_text_round_trip _).2.2.2.2 _ _ hparse⟩

end RollupTx
