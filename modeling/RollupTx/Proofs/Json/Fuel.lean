import Mathlib.Tactic.SplitIfs
import RollupTx.Json.Reader

/-!
# The reader's fuel is enough

The readers of values, containers and string bodies recurse on a fuel argument, and give up
with an end-of-input error when it is spent. Fuel is never what stops them. Every reader that
succeeds has consumed at least one character when it reads a value, an escape, a string or a
container (`length_read`), so one more unit of fuel changes nothing once the fuel covers twice
the rest of the input (`read_succ_fuel`), and neither does any more. `readPrefix` and
`readString` start with that much fuel: what they return is what a reader without a bound
returns, and none of their refusals stands for a lack of fuel (`reading_fuel_suffices`).
-/

namespace RollupTx.Json

open Cursor

theorem next_rest {c : Cursor} {x : Char} {r : List Char} (h : c.rest = x :: r) :
    c.next.rest = r := by
  simp [next, h]

theorem length_next_le (c : Cursor) : c.next.rest.length ≤ c.rest.length := by
  unfold next
  split <;> simp_all

theorem length_skipSpace (cs : List Char) (o : Nat) :
    (skipSpace cs o).rest.length ≤ cs.length := by
  induction cs generalizing o with
  | nil => simp [skipSpace]
  | cons c cs ih =>
    unfold skipSpace
    split
    · have := ih (o + 1)
      simp only [List.length_cons]
      omega
    · simp

/-- Past the white space, a reader that looks at the next character has consumed one. -/
theorem length_next_lt_of_skipSpace {c c₀ : Cursor} {x : Char} {r : List Char}
    (hc : skipSpace c.rest c.offset = c₀) (hr : c₀.rest = x :: r) :
    c₀.next.rest.length < c.rest.length := by
  have hskip := hc ▸ length_skipSpace c.rest c.offset
  rw [next_rest hr]
  rw [hr, List.length_cons] at hskip
  omega

theorem length_skipDigits (cs : List Char) (o : Nat) :
    (skipDigits cs o).rest.length ≤ cs.length := by
  induction cs generalizing o with
  | nil => simp [skipDigits]
  | cons c cs ih =>
    unfold skipDigits
    split
    · have := ih (o + 1)
      simp only [List.length_cons]
      omega
    · simp

theorem length_exponentDigits (cs : List Char) (o e : Nat) :
    (exponentDigits cs o e).2.rest.length ≤ cs.length := by
  induction cs generalizing o e with
  | nil => simp [exponentDigits]
  | cons c cs ih =>
    unfold exponentDigits
    split
    · split
      · simp
      · have := ih (o + 1) (e * 10 + digitValue c)
        simp only [List.length_cons]
        omega
    · simp

theorem length_fractionDigits (cs : List Char) (o s k : Nat) :
    (fractionDigits cs o s k).2.2.2.rest.length ≤ cs.length := by
  induction cs generalizing o s k with
  | nil => simp [fractionDigits]
  | cons c cs ih =>
    unfold fractionDigits
    split
    · split
      · have := length_skipDigits cs (o + 1)
        simp only [List.length_cons]
        omega
      · have := ih (o + 1) (s * 10 + digitValue c) (k + 1)
        simp only [List.length_cons]
        omega
    · simp

theorem eq_of_floatOfParts {c c' : Cursor} {p : Bool} {s : Nat} {e : Int} {n : JsonNumber}
    (h : floatOfParts c p s e = .ok (n, c')) : c' = c := by
  unfold floatOfParts at h
  split at h
  · cases h
    rfl
  · cases h

theorem length_readKeyword {ks : List Char} {c c' : Cursor} (h : readKeyword ks c = .ok c') :
    c'.rest.length ≤ c.rest.length := by
  induction ks generalizing c with
  | nil =>
    simp only [readKeyword, Except.ok.injEq] at h
    exact h ▸ Nat.le_refl _
  | cons k ks ih =>
    unfold readKeyword at h
    split at h
    · cases h
    · next x r hr =>
      split at h
      · have := ih h
        rw [next_rest hr] at this
        rw [hr, List.length_cons]
        omega
      · cases h

theorem length_readExponent {c c' : Cursor} {p : Bool} {s : Nat} {st : Int} {n : JsonNumber}
    (h : readExponent c p s st = .ok (n, c')) : c'.rest.length ≤ c.rest.length := by
  unfold readExponent at h
  split at h
  next up c₁ hsign =>
    have hc₁ : c₁.rest.length ≤ c.rest.length := by
      split at hsign <;> cases hsign <;> simp [length_next_le]
    split at h
    · cases h
    · next d rest hrest =>
      rw [hrest, List.length_cons] at hc₁
      split at h
      · split at h
        · next exp c₂ hexp =>
          have h₂ := length_exponentDigits rest (c₁.offset + 1) (digitValue d)
          rw [hexp, ← eq_of_floatOfParts h] at h₂
          dsimp only at h₂
          omega
        · next c₂ hexp =>
          have h₂ := length_exponentDigits rest (c₁.offset + 1) (digitValue d)
          rw [hexp] at h₂
          dsimp only at h₂
          split at h
          · cases h
          · cases h
            have h₃ := length_skipDigits c₂.rest c₂.offset
            omega
      · cases h

theorem length_readFraction {c c' : Cursor} {p : Bool} {s : Nat} {st : Int} {n : JsonNumber}
    (h : readFraction c p s st = .ok (n, c')) : c'.rest.length ≤ c.rest.length := by
  unfold readFraction at h
  split at h
  next s₁ k ov c₁ hdigits =>
    have h₁ := length_fractionDigits c.rest c.offset s 0
    rw [hdigits] at h₁
    dsimp only at h₁
    split at h
    · cases h
    · split at h
      · have := length_readExponent h
        have := length_next_le c₁
        omega
      · have := length_readExponent h
        have := length_next_le c₁
        omega
      · rw [← eq_of_floatOfParts h] at h₁
        exact h₁

theorem length_readLongInteger {p : Bool} {cs : List Char} {o s x : Nat} {n : JsonNumber}
    {c' : Cursor} (h : readLongInteger p cs o s x = .ok (n, c')) : c'.rest.length ≤ cs.length := by
  induction cs generalizing o x with
  | nil =>
    rw [readLongInteger] at h
    exact Nat.le_of_eq (congrArg (·.rest.length) (eq_of_floatOfParts h))
  | cons ch cs ih =>
    unfold readLongInteger at h
    split at h
    · have := ih h
      simp only [List.length_cons]
      omega
    · split at h
      · have := length_readFraction h
        dsimp only at this
        simp only [List.length_cons]
        omega
      · split at h
        · have := length_readExponent h
          dsimp only at this
          simp only [List.length_cons]
          omega
        · have := congrArg (·.rest.length) (eq_of_floatOfParts h)
          simp only [List.length_cons] at this ⊢
          omega

theorem length_readNumberTail {c c' : Cursor} {p : Bool} {s : Nat} {n : JsonNumber}
    (h : readNumberTail c p s = .ok (n, c')) : c'.rest.length ≤ c.rest.length := by
  have hnext := length_next_le c
  unfold readNumberTail at h
  split at h
  · have := length_readFraction h
    omega
  · have := length_readExponent h
    omega
  · have := length_readExponent h
    omega
  · cases h
    exact Nat.le_refl _

theorem length_integerDigits {p : Bool} {cs : List Char} {o s : Nat} {n : JsonNumber}
    {c' : Cursor} (h : integerDigits p cs o s = .ok (n, c')) : c'.rest.length ≤ cs.length := by
  induction cs generalizing o s with
  | nil =>
    rw [integerDigits] at h
    exact length_readNumberTail h
  | cons ch cs ih =>
    unfold integerDigits at h
    split at h
    · split at h
      · exact length_readLongInteger h
      · have := ih h
        simp only [List.length_cons]
        omega
    · exact length_readNumberTail h

theorem length_readNumber {c c' : Cursor} {p : Bool} {n : JsonNumber}
    (h : readNumber c p = .ok (n, c')) : c'.rest.length < c.rest.length := by
  unfold readNumber at h
  split at h
  · cases h
  · next d rest hrest =>
    have hnext := next_rest hrest
    rw [hrest, List.length_cons]
    split at h
    · split at h
      · split at h
        · cases h
        · have := length_readNumberTail h
          simp only [hnext, List.length_cons] at this ⊢
          omega
      · have := length_readNumberTail h
        simp only [hnext, List.length_nil] at this ⊢
        omega
    · split at h
      · have := length_integerDigits h
        omega
      · cases h

theorem length_readHex4 {c c' : Cursor} {n : Nat} (h : readHex4 c = .ok (n, c')) :
    c'.rest.length < c.rest.length := by
  unfold readHex4 at h
  split at h
  · cases h
  · next hlen =>
    split at h
    · cases h
      cases hr : c.rest with
      | nil => simp [hr, byteLength] at hlen
      | cons x r =>
        simp only [List.length_drop, List.length_cons]
        omega
    · cases h

/-- A `\u` escape, with its second half when it is a surrogate pair, reads its digits. -/
theorem length_readUnicodeEscape {c c' : Cursor} {ch : Char}
    (h : readUnicodeEscape c = .ok (ch, c')) : c'.rest.length < c.rest.length := by
  unfold readUnicodeEscape at h
  cases h₁ : readHex4 c with
  | error e => simp [h₁, bind, Except.bind] at h
  | ok r =>
    obtain ⟨n, c₁⟩ := r
    have hc₁ := length_readHex4 h₁
    have hc₂ : ∀ {m c₂}, readHex4 c₁.next.next = .ok (m, c₂) →
        c₂.rest.length < c.rest.length := fun h₂ => by
      have := length_readHex4 h₂
      have := length_next_le c₁
      have := length_next_le c₁.next
      omega
    simp only [h₁, bind, Except.bind] at h
    by_cases hlo : (decide (56320 ≤ n) && decide (n ≤ 57343)) = true
    · rw [if_pos hlo] at h
      simp only [throw, throwThe, MonadExceptOf.throw, reduceCtorEq] at h
    rw [if_neg hlo] at h
    by_cases hbmp : (decide (n < 55296) || decide (56319 < n)) = true
    · rw [if_pos hbmp] at h
      simp only [pure, Except.pure, Except.ok.injEq, Prod.mk.injEq] at h
      rw [← h.2]
      exact hc₁
    rw [if_neg hbmp] at h
    cases h₂ : readHex4 c₁.next.next with
    | error e =>
      simp [h₂, throw, throwThe, MonadExceptOf.throw] at h
      repeat' split at h
      all_goals simp only [reduceCtorEq] at h
    | ok r =>
      obtain ⟨m, c₂⟩ := r
      simp [h₂, throw, throwThe, MonadExceptOf.throw] at h
      repeat' split at h
      all_goals simp only [reduceCtorEq, pure, Except.pure, Except.ok.injEq, Prod.mk.injEq] at h
      rw [← h.2]
      exact hc₂ h₂

theorem length_readEscape {c c' : Cursor} {ch : Char} (h : readEscape c = .ok (ch, c')) :
    c'.rest.length < c.rest.length := by
  unfold readEscape at h
  split at h
  · simp only [reduceCtorEq] at h
  next x r hr =>
  have hnext : c.next.rest.length < c.rest.length := by simp [next_rest hr, hr]
  have hok : ∀ {y : Char}, (Except.ok (y, c.next) : Except ReadError (Char × Cursor)) =
      .ok (ch, c') → c'.rest.length < c.rest.length := fun h => by
    cases h
    exact hnext
  by_cases h0 : x = '"'
  · rw [if_pos h0] at h
    exact hok h
  rw [if_neg h0] at h
  by_cases h1 : x = '\\'
  · rw [if_pos h1] at h
    exact hok h
  rw [if_neg h1] at h
  by_cases h2 : x = '/'
  · rw [if_pos h2] at h
    exact hok h
  rw [if_neg h2] at h
  by_cases h3 : x = 'b'
  · rw [if_pos h3] at h
    exact hok h
  rw [if_neg h3] at h
  by_cases h4 : x = 'f'
  · rw [if_pos h4] at h
    exact hok h
  rw [if_neg h4] at h
  by_cases h5 : x = 'n'
  · rw [if_pos h5] at h
    exact hok h
  rw [if_neg h5] at h
  by_cases h6 : x = 'r'
  · rw [if_pos h6] at h
    exact hok h
  rw [if_neg h6] at h
  by_cases h7 : x = 't'
  · rw [if_pos h7] at h
    exact hok h
  rw [if_neg h7] at h
  by_cases hu : x = 'u'
  · rw [if_pos hu] at h
    exact Nat.lt_trans (length_readUnicodeEscape h) hnext
  · rw [if_neg hu] at h
    simp only [reduceCtorEq] at h

/-- A string body that succeeds has read at least its closing quote, whatever its fuel. -/
theorem length_readStringBody {fuel : Nat} {c c' : Cursor} {acc : List Char} {s : String}
    (h : readStringBody fuel c acc = .ok (s, c')) : c'.rest.length < c.rest.length := by
  induction fuel generalizing c acc with
  | zero => simp [readStringBody] at h
  | succ fuel ih =>
    unfold readStringBody at h
    split at h
    · simp only [reduceCtorEq] at h
    next x r hr =>
    have hnext : c.next.rest.length < c.rest.length := by simp [next_rest hr, hr]
    split at h
    · cases h
      exact hnext
    split at h
    · split at h
      · next y c₁ hesc =>
        have := length_readEscape hesc
        have := ih h
        omega
      · simp only [reduceCtorEq] at h
    split at h
    · simp only [reduceCtorEq] at h
    · exact Nat.lt_trans (ih h) hnext

theorem exists_of_map_eq_ok {α β : Type} {f : α → β} {x : Except ReadError α} {b : β}
    (h : f <$> x = .ok b) : ∃ a, x = .ok a ∧ f a = b := by
  cases x with
  | error e => simp [Functor.map, Except.map] at h
  | ok a => exact ⟨a, rfl, by simpa [Functor.map, Except.map] using h⟩

theorem eq_ok_of_map_const {β : Type} {b b' : β} {x : Except ReadError Cursor} {c' : Cursor}
    (h : (fun c => (b, c)) <$> x = .ok (b', c')) : x = .ok c' := by
  obtain ⟨a, hx, ha⟩ := exists_of_map_eq_ok h
  rw [hx, (Prod.mk.inj ha).2]

theorem exists_of_map_pair {α β : Type} {g : α → β} {x : Except ReadError (α × Cursor)} {b : β}
    {c' : Cursor} (h : (fun p => (g p.1, p.2)) <$> x = .ok (b, c')) : ∃ a, x = .ok (a, c') := by
  obtain ⟨⟨a, c₁⟩, hx, ha⟩ := exists_of_map_eq_ok h
  have hc : c₁ = c' := (Prod.mk.inj ha).2
  exact ⟨a, by rw [hx, hc]⟩

theorem length_readString {c c' : Cursor} {s : String} (h : readString c = .ok (s, c')) :
    c'.rest.length < c.rest.length :=
  length_readStringBody h

/-- A list or object tail reads its next entry from a cursor that has not moved back. -/
theorem length_entryStart_le {c c₀ c₁ : Cursor} {x : Char} {first : Bool} {e : ReadError}
    (hc : skipSpace c.rest c.offset = c₀)
    (h : (if (decide (x = ',') && !first) = true then
        Except.ok (skipSpace c₀.next.rest c₀.next.offset)
      else if first = true then Except.ok c₀ else Except.error e) = Except.ok c₁) :
    c₁.rest.length ≤ c.rest.length := by
  have hskip := hc ▸ length_skipSpace c.rest c.offset
  have hnext := length_next_le c₀
  have hspace := length_skipSpace c₀.next.rest c₀.next.offset
  split at h
  · cases h
    omega
  split at h
  · cases h
    exact hskip
  · cases h

/-- Every value, list tail and object tail that is read consumes at least one character,
whatever the fuel; by induction on the fuel, for the three mutual readers at once. -/
theorem length_read (fuel : Nat) :
    (∀ {d c v c'}, readValue fuel d c = .ok (v, c') → c'.rest.length < c.rest.length) ∧
    (∀ {d first acc c vs c'}, readItems fuel d first acc c = .ok (vs, c') →
      c'.rest.length < c.rest.length) ∧
    (∀ {d first acc c fs c'}, readFields fuel d first acc c = .ok (fs, c') →
      c'.rest.length < c.rest.length) := by
  induction fuel with
  | zero => exact ⟨fun h => by simp [readValue] at h, fun h => by simp [readItems] at h,
      fun h => by simp [readFields] at h⟩
  | succ fuel ih =>
    obtain ⟨ihV, ihI, ihF⟩ := ih
    refine ⟨fun {d c v c'} h => ?_, fun {d first acc c vs c'} h => ?_,
      fun {d first acc c fs c'} h => ?_⟩
    · unfold readValue at h
      generalize hc : skipSpace c.rest c.offset = c₀ at h
      have hskip : c₀.rest.length ≤ c.rest.length := hc ▸ length_skipSpace c.rest c.offset
      cases hr : c₀.rest with
      | nil => simp [hr] at h
      | cons x r =>
        simp only [hr] at h
        have hnext := length_next_lt_of_skipSpace hc hr
        by_cases hn : x = 'n'
        · rw [if_pos hn] at h
          exact Nat.lt_of_le_of_lt (length_readKeyword (eq_ok_of_map_const h)) hnext
        rw [if_neg hn] at h
        by_cases ht : x = 't'
        · rw [if_pos ht] at h
          exact Nat.lt_of_le_of_lt (length_readKeyword (eq_ok_of_map_const h)) hnext
        rw [if_neg ht] at h
        by_cases hf : x = 'f'
        · rw [if_pos hf] at h
          exact Nat.lt_of_le_of_lt (length_readKeyword (eq_ok_of_map_const h)) hnext
        rw [if_neg hf] at h
        by_cases hm : x = '-'
        · rw [if_pos hm] at h
          obtain ⟨n, hnum⟩ := exists_of_map_pair h
          exact Nat.lt_trans (length_readNumber hnum) hnext
        rw [if_neg hm] at h
        by_cases hdigit : isDigitChar x = true
        · rw [if_pos hdigit] at h
          obtain ⟨n, hnum⟩ := exists_of_map_pair h
          exact Nat.lt_of_lt_of_le (length_readNumber hnum) hskip
        rw [if_neg hdigit] at h
        by_cases hq : x = '"'
        · rw [if_pos hq] at h
          obtain ⟨s, hs⟩ := exists_of_map_pair h
          exact Nat.lt_trans (length_readString hs) hnext
        rw [if_neg hq] at h
        by_cases ha : x = '['
        · rw [if_pos ha] at h
          split_ifs at h
          obtain ⟨vs, hvs⟩ := exists_of_map_pair h
          exact Nat.lt_trans (ihI hvs) hnext
        rw [if_neg ha] at h
        by_cases ho : x = '{'
        · rw [if_pos ho] at h
          split_ifs at h
          obtain ⟨fs, hfs⟩ := exists_of_map_pair h
          exact Nat.lt_trans (ihF hfs) hnext
        rw [if_neg ho] at h
        simp only [reduceCtorEq] at h
    · unfold readItems at h
      generalize hc : skipSpace c.rest c.offset = c₀ at h
      cases hr : c₀.rest with
      | nil => simp [hr] at h
      | cons x r =>
        simp only [hr] at h
        by_cases hclose : x = ']'
        · rw [if_pos hclose] at h
          cases h
          exact length_next_lt_of_skipSpace hc hr
        rw [if_neg hclose] at h
        split at h
        · simp at h
        next c₁ hc₁ =>
        have hstart := length_entryStart_le hc hc₁
        split at h
        · simp at h
        split_ifs at h
        split at h
        · next v c₂ hv => exact Nat.lt_of_lt_of_le (Nat.lt_trans (ihI h) (ihV hv)) hstart
        · simp at h
    · unfold readFields at h
      generalize hc : skipSpace c.rest c.offset = c₀ at h
      cases hr : c₀.rest with
      | nil => simp [hr] at h
      | cons x r =>
        simp only [hr] at h
        by_cases hclose : x = '\x7d'
        · rw [if_pos hclose] at h
          cases h
          exact length_next_lt_of_skipSpace hc hr
        rw [if_neg hclose] at h
        split at h
        · simp at h
        next c₁ hc₁ =>
        have hstart := length_entryStart_le hc hc₁
        split at h
        · simp at h
        split_ifs at h
        split at h
        · simp at h
        next k c₂ hk =>
        have hkey := Nat.lt_of_lt_of_le (length_readString hk) (length_next_le c₁)
        have hspace := length_skipSpace c₂.rest c₂.offset
        split at h
        · simp at h
        split_ifs at h
        split at h
        · next v c₃ hv =>
          have hcolon := length_next_le (skipSpace c₂.rest c₂.offset)
          have := ihV hv
          have := ihF h
          omega
        · simp at h

/-- One more unit of fuel changes no read whose fuel covers twice the rest of the input: by
induction on the fuel, each recursive call has less input left and so still enough fuel. -/
theorem read_succ_fuel (k : Nat) :
    (∀ {d c}, 2 * c.rest.length + 1 ≤ k → readValue (k + 1) d c = readValue k d c) ∧
    (∀ {d first acc c}, 2 * c.rest.length + 2 ≤ k →
      readItems (k + 1) d first acc c = readItems k d first acc c) ∧
    (∀ {d first acc c}, 2 * c.rest.length + 2 ≤ k →
      readFields (k + 1) d first acc c = readFields k d first acc c) := by
  induction k with
  | zero => exact ⟨fun h => by omega, fun h => by omega, fun h => by omega⟩
  | succ k ih =>
    obtain ⟨ihV, ihI, ihF⟩ := ih
    refine ⟨fun {d c} hk => ?_, fun {d first acc c} hk => ?_, fun {d first acc c} hk => ?_⟩
    · unfold readValue
      generalize hc : skipSpace c.rest c.offset = c₀
      simp only
      cases hr : c₀.rest with
      | nil => rfl
      | cons x r =>
        have hnext := length_next_lt_of_skipSpace hc hr
        rw [ihI (by omega), ihF (by omega)]
    · unfold readItems
      generalize hc : skipSpace c.rest c.offset = c₀
      simp only
      cases hr : c₀.rest with
      | nil => rfl
      | cons x r =>
        split
        · rfl
        split
        · rfl
        split
        · rfl
        next c₁ hc₁ =>
        have hstart := length_entryStart_le hc hc₁
        split
        · rfl
        split
        · rfl
        rw [ihV (by omega)]
        split
        · next v c₂ hv =>
          have := (length_read k).1 hv
          rw [ihI (by omega)]
        · rfl
    · unfold readFields
      generalize hc : skipSpace c.rest c.offset = c₀
      simp only
      cases hr : c₀.rest with
      | nil => rfl
      | cons x r =>
        split
        · rfl
        split
        · rfl
        split
        · rfl
        next c₁ hc₁ =>
        have hstart := length_entryStart_le hc hc₁
        split
        · rfl
        split
        · rfl
        split
        · rfl
        split
        · rfl
        next key c₂ hkey =>
        have hc₂ := Nat.lt_of_lt_of_le (length_readString hkey) (length_next_le c₁)
        have hspace := length_skipSpace c₂.rest c₂.offset
        have hcolon := length_next_le (skipSpace c₂.rest c₂.offset)
        split
        · rfl
        split
        · rfl
        rw [ihV (by omega)]
        split
        · next v c₃ hv =>
          have := (length_read k).1 hv
          rw [ihF (by omega)]
        · rfl

theorem readStringBody_succ_fuel {k : Nat} {c : Cursor} {acc : List Char}
    (h : c.rest.length + 1 ≤ k) : readStringBody (k + 1) c acc = readStringBody k c acc := by
  induction k generalizing c acc with
  | zero => omega
  | succ k ih =>
    unfold readStringBody
    cases hr : c.rest with
    | nil => rfl
    | cons x r =>
      have hnext : c.next.rest.length + 1 = c.rest.length := by rw [next_rest hr, hr]; rfl
      simp only
      split
      · rfl
      split
      · split
        · next y c₂ hesc =>
          have := length_readEscape hesc
          rw [ih (by omega)]
        · rfl
      split
      · rfl
      · rw [ih (by omega)]

theorem readValue_fuel_mono {k fuel d : Nat} {c : Cursor} (h : 2 * c.rest.length + 1 ≤ k)
    (hk : k ≤ fuel) : readValue fuel d c = readValue k d c := by
  obtain ⟨j, rfl⟩ := Nat.exists_eq_add_of_le hk
  induction j with
  | zero => rfl
  | succ j ih => rw [← Nat.add_assoc, (read_succ_fuel (k + j)).1 (by omega), ih (by omega)]

theorem readStringBody_fuel_mono {k fuel : Nat} {c : Cursor} {acc : List Char}
    (h : c.rest.length + 1 ≤ k) (hk : k ≤ fuel) :
    readStringBody fuel c acc = readStringBody k c acc := by
  obtain ⟨j, rfl⟩ := Nat.exists_eq_add_of_le hk
  induction j with
  | zero => rfl
  | succ j ih => rw [← Nat.add_assoc, readStringBody_succ_fuel (by omega), ih (by omega)]

/-- The reader never runs out of fuel. A value read at any depth with at least twice the rest
of the input plus one of fuel reads the same with any more, and so does a string body with at
least the rest of the input plus one. `readPrefix` and `readString` start with such amounts, so
what they return is what the reader returns with any larger fuel, and no refusal of theirs
stands for a lack of fuel. -/
theorem reading_fuel_suffices :
    (∀ (d : Nat) (c : Cursor) (k fuel : Nat), 2 * c.rest.length + 1 ≤ k → k ≤ fuel →
      readValue fuel d c = readValue k d c) ∧
    (∀ (s : String) (fuel : Nat), 2 * s.toList.length + 2 ≤ fuel →
      readValue fuel 0 ⟨s.toList, 0⟩ = readPrefix s) ∧
    (∀ (c : Cursor) (acc : List Char) (k fuel : Nat), c.rest.length + 1 ≤ k → k ≤ fuel →
      readStringBody fuel c acc = readStringBody k c acc) ∧
    (∀ (c : Cursor) (fuel : Nat), c.rest.length + 1 ≤ fuel →
      readStringBody fuel c [] = readString c) :=
  ⟨fun _ _ _ _ h hk => readValue_fuel_mono h hk,
    fun _ _ hk => readValue_fuel_mono (by simp) hk,
    fun _ _ _ _ h hk => readStringBody_fuel_mono h hk,
    fun _ _ hk => readStringBody_fuel_mono (Nat.le_refl _) hk⟩

end RollupTx.Json
