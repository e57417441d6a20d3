import RollupTx.Proofs.Packing.Form

/-!
# The packed fee codec

A fee takes one byte, the exponent in the high nibble and the mantissa in the low one. The
encoder scans the exponents from 15 down, stops at the first whose power divides the fee, and
refuses the fee when the mantissa left there exceeds 15. Stopping there loses no fee: a smaller
exponent only leaves a larger mantissa. `packFee_exact` says the codec packs exactly the fees
`m * 10 ^ e` with `m, e ≤ 15`, that the byte reads back as the fee with the largest dividing
exponent in its high nibble, and that the value of every byte packs again.
-/

namespace RollupTx.Packed

/-- The largest exponent up to `e` whose power divides `v`; the fee encoder's exponent. -/
def topExponent (v e : ℕ) : ℕ := Nat.findGreatest (fun j => 10 ^ j ∣ v) e

theorem topExponent_le (v e : ℕ) : topExponent v e ≤ e := Nat.findGreatest_le e

theorem pow_topExponent_dvd (v e : ℕ) : 10 ^ topExponent v e ∣ v :=
  @Nat.findGreatest_spec 0 (fun j => 10 ^ j ∣ v) _ e (Nat.zero_le e) (by simp)

theorem le_topExponent {v e j : ℕ} (hj : j ≤ e) (h : 10 ^ j ∣ v) : j ≤ topExponent v e :=
  Nat.le_findGreatest hj h

theorem isGreatest_topExponent (v e : ℕ) :
    IsGreatest {j | j ≤ e ∧ 10 ^ j ∣ v} (topExponent v e) :=
  ⟨⟨topExponent_le v e, pow_topExponent_dvd v e⟩, fun _ hj => le_topExponent hj.1 hj.2⟩

/-- The downward scan stops at the top dividing exponent and checks only its mantissa. -/
theorem packFeeFrom_eq (v e : ℕ) :
    packFeeFrom v e =
      if v / 10 ^ topExponent v e ≤ feeMantissaMax then
        .ok (UInt8.ofNat (topExponent v e * 16 + v / 10 ^ topExponent v e))
      else .error (.packing .fee v) := by
  induction e with
  | zero => simp [packFeeFrom, topExponent]
  | succ e ih =>
    rw [packFeeFrom, topExponent, Nat.findGreatest_succ]
    by_cases h : 10 ^ (e + 1) ∣ v
    · simp [h, Nat.mod_eq_zero_of_dvd h]
    · have hmod : v % 10 ^ (e + 1) ≠ 0 := fun h0 => h (Nat.dvd_of_mod_eq_zero h0)
      simp only [hmod, h, if_false]
      exact ih

theorem toNat_ofNat_nibbles {e m : ℕ} (he : e ≤ 15) (hm : m ≤ 15) :
    (UInt8.ofNat (e * 16 + m)).toNat = e * 16 + m := by
  exact UInt8.toNat_ofNat_of_lt' (by change _ < 256; omega)

theorem packFee_eq_ok_iff {v : ℕ} {b : UInt8} (hv : v ≠ 0) :
    packFee v = .ok b ↔ v / 10 ^ topExponent v feeExponentMax ≤ feeMantissaMax ∧
      b = UInt8.ofNat (topExponent v feeExponentMax * 16 + v / 10 ^ topExponent v feeExponentMax) := by
  rw [packFee, if_neg hv, packFeeFrom_eq]
  split
  · rename_i hm
    rw [Except.ok.injEq]
    exact ⟨fun h => ⟨hm, h.symm⟩, fun h => h.2.symm⟩
  · rename_i hm
    constructor
    · intro h
      cases h
    · intro h
      exact absurd h.1 hm

/-- A fee packs iff it has the form `m * 10 ^ e` with `m, e ≤ 15`: the `break` at the top
dividing exponent refuses nothing that a smaller exponent could pack. -/
theorem packFee_isOk_iff (v : ℕ) :
    (∃ b, packFee v = .ok b) ↔ Representable feeMantissaMax feeExponentMax v := by
  by_cases hv : v = 0
  · subst hv
    exact ⟨fun _ => ⟨0, 0, le_of_lt (by decide), Nat.zero_le _, rfl⟩,
      fun _ => ⟨0, by simp [packFee]⟩⟩
  constructor
  · rintro ⟨b, hb⟩
    obtain ⟨hm, -⟩ := (packFee_eq_ok_iff hv).1 hb
    exact representable_iff.2 ⟨_, topExponent_le v _, pow_topExponent_dvd v _, hm⟩
  · rintro ⟨m, e, hm, he, rfl⟩
    have htop : e ≤ topExponent (m * 10 ^ e) feeExponentMax :=
      le_topExponent he (Nat.dvd_mul_left _ _)
    have hfit : m * 10 ^ e / 10 ^ topExponent (m * 10 ^ e) feeExponentMax ≤ feeMantissaMax :=
      calc m * 10 ^ e / 10 ^ topExponent (m * 10 ^ e) feeExponentMax
          ≤ m * 10 ^ e / 10 ^ e := div_pow_le_div_pow htop
        _ = m := Nat.mul_div_cancel _ (Nat.pow_pos (by decide))
        _ ≤ feeMantissaMax := hm
    exact ⟨_, (packFee_eq_ok_iff hv).2 ⟨hfit, rfl⟩⟩

/-- A packed nonzero fee has the top dividing exponent in its high nibble and the mantissa
left there in its low nibble. -/
theorem nibbles_of_packFee {v : ℕ} {b : UInt8} (hv : v ≠ 0) (h : packFee v = .ok b) :
    b.toNat / 16 = topExponent v feeExponentMax ∧
      b.toNat % 16 = v / 10 ^ topExponent v feeExponentMax := by
  obtain ⟨hm, rfl⟩ := (packFee_eq_ok_iff hv).1 h
  have he : topExponent v feeExponentMax ≤ 15 := topExponent_le v feeExponentMax
  have hm' : v / 10 ^ topExponent v feeExponentMax ≤ 15 := hm
  rw [toNat_ofNat_nibbles he hm']
  generalize topExponent v feeExponentMax = e at *
  generalize v / 10 ^ e = q at *
  omega

theorem unpackFee_packFee {v : ℕ} {b : UInt8} (h : packFee v = .ok b) : unpackFee b = v := by
  by_cases hv : v = 0
  · subst hv
    have hb : b = 0 := by simpa [packFee] using h.symm
    subst hb
    rfl
  obtain ⟨hhigh, hlow⟩ := nibbles_of_packFee hv h
  rw [unpackFee, hhigh, hlow]
  exact (FitsAt.eq_mul ⟨pow_topExponent_dvd v _, le_rfl⟩).symm

theorem isFeePackable_iff (v : ℕ) :
    isFeePackable v = true ↔ Representable feeMantissaMax feeExponentMax v := by
  rw [isFeePackable, beq_iff_eq, closestFee, closest_eq_self_iff]

/-- Every byte denotes a packable fee, so unpacking and packing again gives the same value. -/
theorem packFee_unpackFee (b : UInt8) :
    ∃ c, packFee (unpackFee b) = .ok c ∧ unpackFee c = unpackFee b := by
  have hb : b.toNat < 256 := b.toNat_lt
  have hform : Representable feeMantissaMax feeExponentMax (unpackFee b) :=
    ⟨b.toNat % 16, b.toNat / 16, by unfold feeMantissaMax; omega,
      by unfold feeExponentMax; omega, rfl⟩
  obtain ⟨c, hc⟩ := (packFee_isOk_iff _).2 hform
  exact ⟨c, hc, unpackFee_packFee hc⟩

/-- The packed fee codec is exact and uses the largest exponent. -/
theorem packFee_exact :
    (∀ x, (∃ b, packFee x = .ok b) ↔ Representable feeMantissaMax feeExponentMax x) ∧
    (∀ x, isFeePackable x = true ↔ Representable feeMantissaMax feeExponentMax x) ∧
    (∀ x b, packFee x = .ok b → unpackFee b = x ∧ (x = 0 → b = 0) ∧
      (x ≠ 0 → IsGreatest {e | e ≤ feeExponentMax ∧ 10 ^ e ∣ x} (b.toNat / 16))) ∧
    (∀ b, ∃ c, packFee (unpackFee b) = .ok c ∧ unpackFee c = unpackFee b) := by
  refine ⟨packFee_isOk_iff, isFeePackable_iff, ?_, packFee_unpackFee⟩
  intro x b h
  refine ⟨unpackFee_packFee h, ?_, ?_⟩
  · rintro rfl
    simpa [packFee] using h.symm
  · intro hx
    rw [(nibbles_of_packFee hx h).1]
    exact isGreatest_topExponent x feeExponentMax

/-- `150` packs as `0x1f`: the largest power of ten dividing it is `10 ^ 1`, leaving 15. -/
theorem packFee_one_hundred_fifty :
    packFee 150 = .ok 0x1f ∧ unpackFee 0x1f = 150 ∧
      IsGreatest {e | e ≤ feeExponentMax ∧ 10 ^ e ∣ 150} 1 :=
  have h : packFee 150 = .ok 0x1f := by decide
  have hb := packFee_exact.2.2.1 150 0x1f h
  have hhigh : (0x1f : UInt8).toNat / 16 = 1 := by decide
  ⟨h, hb.1, hhigh ▸ hb.2.2 (by decide)⟩

end RollupTx.Packed
