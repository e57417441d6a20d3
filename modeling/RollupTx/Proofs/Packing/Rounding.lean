import RollupTx.Proofs.Packing.Amount
import RollupTx.Proofs.Packing.Fee
import RollupTx.Amount.Decimal
import Mathlib.Order.Monotone.Defs

/-!
# Rounding down to a packed value

`closest v mMax eMax` is the largest of the candidates `min (v / 10 ^ e) mMax * 10 ^ e` over the
exponents `e ≤ eMax`. The candidate of `e` is the largest value of the form `m * 10 ^ e`,
`m ≤ mMax`, that is not above `v`, so the maximum over all exponents is the largest packable
value not above `v` (`closest_isGreatest`): rounding down onto the packed grid. Monotonicity and
idempotence follow from that characterization alone. No candidate exceeds `v`, so none of the
products leaves the width of `v`: in 256-bit words nothing wraps.
`closest_best_from_below` states this for fees and for amounts.
-/

namespace RollupTx.Packed

open Decimal

theorem Representable.mono {mMax eMax eMax' v : ℕ} (h : Representable mMax eMax v)
    (hle : eMax ≤ eMax') : Representable mMax eMax' v := by
  obtain ⟨m, e, hm, he, rfl⟩ := h
  exact ⟨m, e, hm, Nat.le_trans he hle, rfl⟩

theorem representable_clamp {v mMax eMax e : ℕ} (he : e ≤ eMax) :
    Representable mMax eMax (min (v / 10 ^ e) mMax * 10 ^ e) :=
  ⟨_, e, Nat.min_le_right _ _, he, rfl⟩

/-- A packed value of exponent `e` that is not above `v` is at most the candidate of `e`. -/
theorem le_clamp {v mMax m e : ℕ} (hm : m ≤ mMax) (hle : m * 10 ^ e ≤ v) :
    m * 10 ^ e ≤ min (v / 10 ^ e) mMax * 10 ^ e := by
  have hq : m ≤ v / 10 ^ e := (Nat.le_div_iff_mul_le (Nat.pow_pos (by decide))).2 hle
  exact Nat.mul_le_mul_right _ (le_min hq hm)

theorem clamp_le_closest {v mMax e n : ℕ} (he : e ≤ n) :
    min (v / 10 ^ e) mMax * 10 ^ e ≤ closest v mMax n := by
  induction n with
  | zero =>
    obtain rfl : e = 0 := Nat.le_zero.1 he
    simp [closest]
  | succ n ih =>
    rcases Nat.lt_or_ge e (n + 1) with hlt | hge
    · exact Nat.le_trans (ih (by omega)) (Nat.le_max_left _ _)
    · obtain rfl : e = n + 1 := by omega
      exact Nat.le_max_right _ _

theorem representable_closest (v mMax n : ℕ) : Representable mMax n (closest v mMax n) := by
  induction n with
  | zero => exact ⟨min v mMax, 0, Nat.min_le_right _ _, le_rfl, by simp [closest]⟩
  | succ n ih =>
    rcases Nat.le_total (closest v mMax n) (min (v / 10 ^ (n + 1)) mMax * 10 ^ (n + 1)) with
      h | h
    · rw [closest, Nat.max_eq_right h]
      exact representable_clamp le_rfl
    · rw [closest, Nat.max_eq_left h]
      exact ih.mono (Nat.le_succ n)

/-- Rounding gives the largest packable value not above its input. -/
theorem closest_isGreatest (v mMax eMax : ℕ) :
    IsGreatest {y | y ≤ v ∧ Representable mMax eMax y} (closest v mMax eMax) := by
  refine ⟨⟨closest_le v mMax eMax, representable_closest v mMax eMax⟩, ?_⟩
  rintro y ⟨hle, m, e, hm, he, rfl⟩
  calc m * 10 ^ e ≤ min (v / 10 ^ e) mMax * 10 ^ e := le_clamp hm hle
    _ ≤ closest v mMax eMax := clamp_le_closest he

theorem closest_mono (mMax eMax : ℕ) : Monotone (closest · mMax eMax) := by
  intro v w hvw
  -- the rounding of `v` is packable and not above `w`, so it is at most the rounding of `w`
  exact (closest_isGreatest w mMax eMax).2
    ⟨Nat.le_trans (closest_le v mMax eMax) hvw, representable_closest v mMax eMax⟩

theorem closest_closest (v mMax eMax : ℕ) :
    closest (closest v mMax eMax) mMax eMax = closest v mMax eMax :=
  closest_eq_self_iff.2 (representable_closest v mMax eMax)

/-- Every candidate stays below any bound the input is below, and so does every power of ten
the rounding of an amount or a fee uses. -/
theorem clamp_lt_wordLimit {v mMax e : ℕ} (hv : v < wordLimit) (he : e ≤ amountExponentMax) :
    10 ^ e < wordLimit ∧ min (v / 10 ^ e) mMax * 10 ^ e < wordLimit := by
  have hpow : 10 ^ e ≤ 10 ^ amountExponentMax := Nat.pow_le_pow_right (by decide) he
  exact ⟨lt_of_le_of_lt hpow (by decide), lt_of_le_of_lt (clamp_le v mMax e) hv⟩

theorem closestFee_eq_self_iff (x : ℕ) : closestFee x = x ↔ ∃ b, packFee x = .ok b := by
  rw [closestFee, closest_eq_self_iff, packFee_isOk_iff]

theorem closestAmount_eq_self_iff (x : ℕ) : closestAmount x = x ↔ ∃ p, packAmount x = .ok p := by
  rw [closestAmount, closest_eq_self_iff, packAmount_isOk_iff]

/-- Both rounding helpers give the best packable value from below: the largest `m * 10 ^ e`
not above the input, with `m, e ≤ 15` for a fee and `m < 2 ^ 35`, `e ≤ 31` for an amount.
Each candidate product and power of ten stays below `2 ^ 256` when the input does, so 256-bit
arithmetic computes them exactly. Both helpers are monotone and idempotent, never exceed
their input, and return it exactly when the encoder packs it. -/
theorem closest_best_from_below :
    (∀ x, IsGreatest {y | y ≤ x ∧ Representable feeMantissaMax feeExponentMax y}
      (closestFee x)) ∧
    (∀ x, IsGreatest {y | y ≤ x ∧ Representable amountMantissaMax amountExponentMax y}
      (closestAmount x)) ∧
    (∀ x, x < wordLimit → ∀ e ≤ feeExponentMax,
      10 ^ e < wordLimit ∧ min (x / 10 ^ e) feeMantissaMax * 10 ^ e < wordLimit) ∧
    (∀ x, x < wordLimit → ∀ e ≤ amountExponentMax,
      10 ^ e < wordLimit ∧ min (x / 10 ^ e) amountMantissaMax * 10 ^ e < wordLimit) ∧
    Monotone closestFee ∧ Monotone closestAmount ∧
    (∀ x, closestFee (closestFee x) = closestFee x) ∧
    (∀ x, closestAmount (closestAmount x) = closestAmount x) ∧
    (∀ x, closestFee x ≤ x) ∧ (∀ x, closestAmount x ≤ x) ∧
    (∀ x, closestFee x = x ↔ ∃ b, packFee x = .ok b) ∧
    (∀ x, closestAmount x = x ↔ ∃ p, packAmount x = .ok p) := by
  have hfee : feeExponentMax ≤ amountExponentMax := by decide
  exact ⟨fun x => closest_isGreatest x _ _, fun x => closest_isGreatest x _ _,
    fun _ hx _ he => clamp_lt_wordLimit hx (Nat.le_trans he hfee),
    fun _ hx _ he => clamp_lt_wordLimit hx he,
    closest_mono _ _, closest_mono _ _, fun x => closest_closest x _ _,
    fun x => closest_closest x _ _, fun x => closest_le x _ _, fun x => closest_le x _ _,
    closestFee_eq_self_iff, closestAmount_eq_self_iff⟩

/-- `1234` rounds to the fee `1200 = 12 * 10 ^ 2`: no packable fee lies strictly between, and
the products of the rounding stay in 256 bits. -/
theorem closestFee_twelve_hundred :
    closestFee 1234 = 1200 ∧ (∀ y, y ≤ 1234 → Representable feeMantissaMax feeExponentMax y →
      y ≤ 1200) ∧ (1234 < wordLimit ∧ ∀ e ≤ feeExponentMax,
        10 ^ e < wordLimit ∧ min (1234 / 10 ^ e) feeMantissaMax * 10 ^ e < wordLimit) := by
  have hx : closestFee 1234 = 1200 := by decide
  have hbest := closest_best_from_below.1 1234
  rw [hx] at hbest
  have hlt : (1234 : ℕ) < wordLimit := by decide
  exact ⟨hx, fun y hy hr => hbest.2 ⟨hy, hr⟩, hlt, closest_best_from_below.2.2.1 1234 hlt⟩

end RollupTx.Packed
