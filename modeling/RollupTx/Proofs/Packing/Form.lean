import Mathlib.Data.Nat.Find
import Mathlib.Order.Bounds.Defs
import RollupTx.Amount.Packed

/-!
# Packed forms

A value has a packed form, for mantissas up to `mMax` and exponents up to `eMax`, when it is
`m * 10 ^ e` for such an `m` and `e`. The form is decided exponent by exponent: `e` fits when
`10 ^ e` divides the value and leaves a mantissa of at most `mMax`. Rounding keeps exactly the
values of that form: `closest v mMax eMax = v` iff `v` has one.
-/

namespace RollupTx.Packed

/-- `v = m * 10 ^ e` for some mantissa `m ≤ mMax` and exponent `e ≤ eMax`. -/
def Representable (mMax eMax v : ℕ) : Prop :=
  ∃ m e, m ≤ mMax ∧ e ≤ eMax ∧ v = m * 10 ^ e

/-- Exponent `e` divides `v` and leaves a mantissa of at most `mMax`. -/
def FitsAt (mMax v e : ℕ) : Prop :=
  10 ^ e ∣ v ∧ v / 10 ^ e ≤ mMax

instance (mMax v : ℕ) : DecidablePred (FitsAt mMax v) :=
  fun _ => inferInstanceAs (Decidable (_ ∧ _))

theorem fitsAt_mul {mMax m : ℕ} (e : ℕ) (hm : m ≤ mMax) : FitsAt mMax (m * 10 ^ e) e := by
  refine ⟨Nat.dvd_mul_left _ _, ?_⟩
  rwa [Nat.mul_div_cancel _ (Nat.pow_pos (by decide))]

theorem FitsAt.eq_mul {mMax v e : ℕ} (h : FitsAt mMax v e) : v = v / 10 ^ e * 10 ^ e :=
  (Nat.div_mul_cancel h.1).symm

theorem fitsAt_iff {mMax v e : ℕ} : FitsAt mMax v e ↔ ∃ m, m ≤ mMax ∧ v = m * 10 ^ e := by
  constructor
  · intro h
    exact ⟨v / 10 ^ e, h.2, h.eq_mul⟩
  · rintro ⟨m, hm, rfl⟩
    exact fitsAt_mul e hm

theorem representable_iff {mMax eMax v : ℕ} :
    Representable mMax eMax v ↔ ∃ e ≤ eMax, FitsAt mMax v e := by
  constructor
  · rintro ⟨m, e, hm, he, rfl⟩
    exact ⟨e, he, fitsAt_mul e hm⟩
  · rintro ⟨e, he, hfit⟩
    exact ⟨v / 10 ^ e, e, hfit.2, he, hfit.eq_mul⟩

instance (mMax eMax : ℕ) : DecidablePred (Representable mMax eMax) :=
  fun _ => decidable_of_iff _ representable_iff.symm

theorem div_pow_le_div_pow {v i j : ℕ} (hij : i ≤ j) : v / 10 ^ j ≤ v / 10 ^ i :=
  Nat.div_le_div_left (Nat.pow_le_pow_right (by decide) hij) (Nat.pow_pos (by decide))

theorem pow_dvd_of_le {v i j : ℕ} (hij : i ≤ j) (h : 10 ^ j ∣ v) : 10 ^ i ∣ v :=
  Nat.dvd_trans (Nat.pow_dvd_pow 10 hij) h

theorem fitsAt_pred {mMax m e : ℕ} (he : 0 < e) (hm : 10 * m ≤ mMax) :
    FitsAt mMax (m * 10 ^ e) (e - 1) := by
  have hpow : 10 ^ e = 10 * 10 ^ (e - 1) := by
    rw [← Nat.pow_succ']
    congr 1
    omega
  rw [hpow, ← Nat.mul_assoc, Nat.mul_comm m 10]
  exact fitsAt_mul (e - 1) hm

/-- Below its exponent, the mantissa of `m * 10 ^ e` is a multiple of `10 * m`, so an exponent
`j < e` fits only when `10 * m` does. -/
theorem FitsAt.ten_mul_le {mMax m e j : ℕ} (h : FitsAt mMax (m * 10 ^ e) j) (hj : j < e) :
    10 * m ≤ mMax := by
  have hsplit : m * 10 ^ e = m * 10 ^ (e - j) * 10 ^ j := by
    rw [Nat.mul_assoc, ← Nat.pow_add]
    congr 2
    omega
  have hq : m * 10 ^ e / 10 ^ j = m * 10 ^ (e - j) := by
    rw [hsplit, Nat.mul_div_cancel _ (Nat.pow_pos (by decide))]
  have hten : 10 ≤ 10 ^ (e - j) := Nat.le_self_pow (by omega) 10
  calc 10 * m = m * 10 := Nat.mul_comm 10 m
    _ ≤ m * 10 ^ (e - j) := Nat.mul_le_mul_left m hten
    _ = m * 10 ^ e / 10 ^ j := hq.symm
    _ ≤ mMax := h.2

theorem clamp_le (v mMax e : ℕ) : min (v / 10 ^ e) mMax * 10 ^ e ≤ v :=
  calc min (v / 10 ^ e) mMax * 10 ^ e ≤ v / 10 ^ e * 10 ^ e :=
        Nat.mul_le_mul_right _ (Nat.min_le_left _ _)
    _ ≤ v := Nat.div_mul_le_self v _

theorem clamp_eq_self_iff {v mMax e : ℕ} :
    min (v / 10 ^ e) mMax * 10 ^ e = v ↔ FitsAt mMax v e := by
  have hpos : 0 < 10 ^ e := Nat.pow_pos (by decide)
  constructor
  · intro h
    by_cases hm : v / 10 ^ e ≤ mMax
    · rw [Nat.min_eq_left hm] at h
      exact ⟨⟨v / 10 ^ e, by rw [Nat.mul_comm]; exact h.symm⟩, hm⟩
    · -- a clamped mantissa is `mMax`, and `mMax * 10 ^ e = v` would make it the quotient
      rw [Nat.min_eq_right (by omega)] at h
      have hq : v / 10 ^ e = mMax := by rw [← h, Nat.mul_div_cancel _ hpos]
      omega
  · intro h
    rw [Nat.min_eq_left h.2]
    exact h.eq_mul.symm

theorem closest_le (v mMax n : ℕ) : closest v mMax n ≤ v := by
  induction n with
  | zero => exact Nat.min_le_left _ _
  | succ n ih => exact Nat.max_le.2 ⟨ih, clamp_le v mMax (n + 1)⟩

theorem closest_eq_self_iff {v mMax n : ℕ} :
    closest v mMax n = v ↔ Representable mMax n v := by
  rw [representable_iff]
  induction n with
  | zero =>
    have h0 : closest v mMax 0 = min (v / 10 ^ 0) mMax * 10 ^ 0 := by simp [closest]
    rw [h0, clamp_eq_self_iff]
    simp
  | succ n ih =>
    have hmax : closest v mMax (n + 1) = v ↔
        closest v mMax n = v ∨ min (v / 10 ^ (n + 1)) mMax * 10 ^ (n + 1) = v := by
      have h1 := closest_le v mMax n
      have h2 := clamp_le v mMax (n + 1)
      simp only [closest]
      omega
    rw [hmax, ih, clamp_eq_self_iff]
    constructor
    · rintro (⟨e, he, hfit⟩ | hfit)
      · exact ⟨e, by omega, hfit⟩
      · exact ⟨n + 1, le_rfl, hfit⟩
    · rintro ⟨e, he, hfit⟩
      rcases Nat.lt_or_ge e (n + 1) with hlt | hge
      · exact Or.inl ⟨e, by omega, hfit⟩
      · exact Or.inr (by rwa [show e = n + 1 by omega] at hfit)

end RollupTx.Packed
