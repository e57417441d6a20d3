import Mathlib.Data.Rat.Defs
import Mathlib.Tactic.FieldSimp
import Mathlib.Tactic.Ring
import RollupTx.Proofs.Amount.DecimalText

/-!
# The grammar of decimal amounts

Reading a decimal amount of a token with `d` decimals trims white space, splits the text at its
first point (`PointSplit`) and accepts exactly the decimal syntax (`DecimalSyntax`): ASCII digits
on both sides, not both sides empty. The fraction may run past `d` digits only with zeros. The
digits read are the integer part, then the fraction without its trailing zeros padded to `d`
places (`scaledDigits`), and they must stay below `2 ^ 256`.

`parse_eq` states this as one case split in the order the checks run, and
`digitsValue_scaledDigits` shows the digits read to be the rational number `i.f` written by the
text (`pointValue`) times `10 ^ d`, so reading is exact. `Token.fromDecimal_grammar` collects
both for a token's reader, with the error each failed check reports.
-/

namespace RollupTx.Decimal

/-- `i` and `f` are the characters before and after the first point of `t`; `f` is empty when
`t` has no point. -/
def PointSplit (t i f : List Char) : Prop :=
  '.' ∉ i ∧ (t = i ++ '.' :: f ∨ t = i ∧ f = [])

instance (t i f : List Char) : Decidable (PointSplit t i f) :=
  inferInstanceAs (Decidable (_ ∧ (_ ∨ _ ∧ _)))

/-- Decimal text around its point: ASCII digits on both sides, not both sides empty. -/
def DecimalSyntax (i f : List Char) : Prop :=
  (i ≠ [] ∨ f ≠ []) ∧ (∀ c ∈ i, c.isDigit) ∧ ∀ c ∈ f, c.isDigit

instance (i f : List Char) : Decidable (DecimalSyntax i f) :=
  decidable_of_iff ((i ≠ [] ∨ f ≠ []) ∧ i.all Char.isDigit ∧ f.all Char.isDigit)
    (by simp [DecimalSyntax, List.all_eq_true])

/-- The digits that `i.f` stands for in units of `10 ^ -d`: the integer digits, then the
fraction without its trailing zeros, padded with zeros to `d` places. -/
def scaledDigits (d : Nat) (i f : List Char) : List Char :=
  i ++ dropTrailingZeros f ++ List.replicate (d - (dropTrailingZeros f).length) '0'

/-- The rational number written `i.f`; empty digits count as zero. -/
def pointValue (i f : List Char) : ℚ :=
  digitsValue i + digitsValue f / 10 ^ f.length

theorem splitPoint_of_pointSplit {t i f : List Char} (h : PointSplit t i f) :
    splitPoint t = (i, f) := by
  obtain ⟨hi, rfl | ⟨rfl, rfl⟩⟩ := h
  · exact splitPoint_append_point hi f
  · exact splitPoint_of_not_mem hi

theorem malformed_eq_false_iff {i f : List Char} :
    ((i.isEmpty && f.isEmpty) || !allDigits i || !allDigits f) = false ↔ DecimalSyntax i f := by
  simp only [Bool.or_eq_false_iff, Bool.and_eq_false_iff, List.isEmpty_eq_false_iff,
    Bool.not_eq_false', allDigits_iff, DecimalSyntax, ne_eq]
  tauto

/-- Reading in the order of its checks: the syntax, then the fraction's precision, then the
bound of the value. -/
theorem parse_eq {d : Nat} {s : String} {i f : List Char}
    (hsplit : PointSplit (trim s).toList i f) :
    parse d s =
      if ¬ DecimalSyntax i f then .error .malformed
      else if d < (dropTrailingZeros f).length then .error .tooPrecise
      else boundedValue (scaledDigits d i f) := by
  rw [trim, String.toList_ofList] at hsplit
  simp only [parse, splitPoint_of_pointSplit hsplit, scaledDigits, gt_iff_lt]
  by_cases hsyn : DecimalSyntax i f
  · rw [malformed_eq_false_iff.2 hsyn, if_neg (not_not.2 hsyn)]
    rfl
  · have hbad : ((i.isEmpty && f.isEmpty) || !allDigits i || !allDigits f) = true :=
      Bool.not_eq_false _ ▸ mt malformed_eq_false_iff.1 hsyn
    rw [hbad, if_pos hsyn]
    rfl

/-- The padded digits are the rational number the text writes, in units of `10 ^ -d`, once the
fraction's significant digits fit the `d` places. -/
theorem digitsValue_scaledDigits {d : Nat} {i f : List Char}
    (h : (dropTrailingZeros f).length ≤ d) :
    (digitsValue (scaledDigits d i f) : ℚ) = pointValue i f * 10 ^ d := by
  set g := dropTrailingZeros f with hg
  set k := f.length - g.length
  have hlen : f.length = g.length + k := by
    have : g.length ≤ f.length := length_dropTrailingZeros_le f
    omega
  have hf : digitsValue f = digitsValue g * 10 ^ k := by
    conv_lhs => rw [← dropTrailingZeros_append_zeros f]
    rw [digitsValue_append, digitsValue_replicate_zero, List.length_replicate, Nat.add_zero]
  have hd : 10 ^ d = 10 ^ g.length * 10 ^ (d - g.length) := by
    rw [← Nat.pow_add, Nat.add_sub_cancel' h]
  simp only [scaledDigits, pointValue, digitsValue_append, digitsValue_replicate_zero,
    List.length_replicate, Nat.add_zero, ← hg]
  rw [hf, hlen]
  have hd' : (10 : ℚ) ^ d = 10 ^ g.length * 10 ^ (d - g.length) := by exact_mod_cast hd
  rw [hd']
  push_cast
  field_simp
  ring

end RollupTx.Decimal

namespace RollupTx

open Decimal

/-- A token's reader in the order of its checks, with the error each check reports: the trimmed
text in the first two, the decimals and symbol of the token in the second. -/
theorem Token.fromDecimal_eq (tok : Token) {s : String} {i f : List Char}
    (hsplit : PointSplit (trim s).toList i f) :
    tok.fromDecimal s =
      if ¬ DecimalSyntax i f then .error (.format "decimal amount" (.notDecimal (trim s)))
      else if tok.decimals < (dropTrailingZeros f).length then
        .error (.format "decimal amount" (.tooManyDecimals (trim s) tok.decimals tok.symbol))
      else if digitsValue (scaledDigits tok.decimals i f) < wordLimit then
        .ok (digitsValue (scaledDigits tok.decimals i f))
      else .error (.format "decimal amount" .tooLarge) := by
  unfold Token.fromDecimal
  rw [parse_eq hsplit, boundedValue_eq]
  split_ifs <;> rfl

/-- The texts a token's reader accepts, read off its checks, with the digits it keeps. -/
theorem Token.fromDecimal_eq_ok_iff_of_split (tok : Token) {s : String} {i f : List Char}
    (hsplit : PointSplit (trim s).toList i f) (v : Nat) :
    tok.fromDecimal s = .ok v ↔
      DecimalSyntax i f ∧ (dropTrailingZeros f).length ≤ tok.decimals ∧
        digitsValue (scaledDigits tok.decimals i f) < 2 ^ 256 ∧
        v = digitsValue (scaledDigits tok.decimals i f) := by
  rw [tok.fromDecimal_eq hsplit, wordLimit]
  by_cases hsyn : DecimalSyntax i f
  swap
  · rw [if_pos hsyn]
    exact ⟨(fun h => by cases h), fun h => absurd h.1 hsyn⟩
  rw [if_neg (not_not.2 hsyn)]
  by_cases hlong : tok.decimals < (dropTrailingZeros f).length
  · rw [if_pos hlong]
    exact ⟨(fun h => by cases h), fun h => absurd h.2.1 (Nat.not_le.2 hlong)⟩
  rw [if_neg hlong]
  by_cases hbound : digitsValue (scaledDigits tok.decimals i f) < 2 ^ 256
  · rw [if_pos hbound, Except.ok.injEq]
    exact ⟨fun h => ⟨hsyn, Nat.le_of_not_lt hlong, hbound, h.symm⟩, fun h => h.2.2.2.symm⟩
  · rw [if_neg hbound]
    exact ⟨(fun h => by cases h), fun h => absurd h.2.2.1 hbound⟩

/-- Reading a decimal amount accepts exactly the decimal syntax whose fraction fits the token's
decimals once its trailing zeros are dropped and whose padded digits stay below `2 ^ 256`; the
amount read is those digits, which is the rational number the text writes times `10 ^ d`.
Otherwise the checks fail in order, syntax first, then precision, then the bound. -/
theorem Token.fromDecimal_grammar (tok : Token) (s : String) {i f : List Char}
    (hsplit : PointSplit (trim s).toList i f) :
    (∀ v, tok.fromDecimal s = .ok v ↔
      DecimalSyntax i f ∧ (dropTrailingZeros f).length ≤ tok.decimals ∧
        digitsValue (scaledDigits tok.decimals i f) < 2 ^ 256 ∧
        v = digitsValue (scaledDigits tok.decimals i f)) ∧
    (∀ v, tok.fromDecimal s = .ok v → (v : ℚ) = pointValue i f * 10 ^ tok.decimals) ∧
    (¬ DecimalSyntax i f →
      tok.fromDecimal s = .error (.format "decimal amount" (.notDecimal (trim s)))) ∧
    (DecimalSyntax i f → tok.decimals < (dropTrailingZeros f).length →
      tok.fromDecimal s =
        .error (.format "decimal amount" (.tooManyDecimals (trim s) tok.decimals tok.symbol))) ∧
    (DecimalSyntax i f → (dropTrailingZeros f).length ≤ tok.decimals →
      2 ^ 256 ≤ digitsValue (scaledDigits tok.decimals i f) →
      tok.fromDecimal s = .error (.format "decimal amount" .tooLarge)) := by
  have hread := tok.fromDecimal_eq hsplit
  rw [wordLimit] at hread
  refine ⟨tok.fromDecimal_eq_ok_iff_of_split hsplit, ?_, ?_, ?_, ?_⟩
  · intro v hv
    obtain ⟨-, hfit, -, rfl⟩ := (tok.fromDecimal_eq_ok_iff_of_split hsplit v).1 hv
    exact digitsValue_scaledDigits hfit
  · intro hsyn
    rw [hread, if_pos hsyn]
  · intro hsyn hlong
    rw [hread, if_neg (not_not.2 hsyn), if_pos hlong]
  · intro hsyn hfit hbig
    rw [hread, if_neg (not_not.2 hsyn), if_neg (Nat.not_lt.2 hfit), if_neg (Nat.not_lt.2 hbig)]

/-- Ether read from ` 007.500 `, padded and with a trailing zero, and refused from `1.2.3`, whose
second point fails the digit check of the fraction. -/
theorem Token.eth_reads_padded_text_and_refuses_second_point :
    PointSplit (trim " 007.500 ").toList ['0', '0', '7'] ['5', '0', '0'] ∧
      Token.eth.fromDecimal " 007.500 " = .ok 7500000000000000000 ∧
      PointSplit (trim "1.2.3").toList ['1'] ['2', '.', '3'] ∧
      Token.eth.fromDecimal "1.2.3" = .error (.format "decimal amount" (.notDecimal "1.2.3")) := by
  have hpad : PointSplit (trim " 007.500 ").toList ['0', '0', '7'] ['5', '0', '0'] := by
    decide +kernel
  have hpoints : PointSplit (trim "1.2.3").toList ['1'] ['2', '.', '3'] := by decide +kernel
  refine ⟨hpad, ?_, hpoints, ?_⟩
  · exact ((Token.fromDecimal_grammar _ _ hpad).1 _).2
      ⟨by decide +kernel, by decide +kernel, by decide +kernel, by decide +kernel⟩
  · have htrim : trim "1.2.3" = "1.2.3" := by decide +kernel
    rw [(Token.fromDecimal_grammar _ _ hpoints).2.2.1 (by decide +kernel), htrim]

end RollupTx
