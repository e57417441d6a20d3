import RollupTx.Proofs.Packing.Form

/-!
# The packed amount codec

An amount takes five bytes holding the word `m * 32 + e`, big-endian: a 35-bit mantissa
above a 5-bit exponent. The encoder scans the exponents from 0 up, gives up at the first whose
power does not divide the amount, and packs at the first whose mantissa fits. So an amount is
packed at its least fitting exponent, which makes the word canonical: a word is its amount's
packing iff its exponent is 0 or its mantissa cannot take one more factor of ten.
`packAmount_canonical` collects these facts.
-/

namespace RollupTx.Packed

section Scan

variable {v : ℕ}

/-- An amount that fits at `J`, and at no exponent of the scan before it, packs at `J`. -/
theorem packAmountFrom_eq_ok {e k J : ℕ} (hJ : e ≤ J) (hJk : J < e + k)
    (hfit : FitsAt amountMantissaMax v J)
    (hmin : ∀ j, e ≤ j → j < J → ¬ FitsAt amountMantissaMax v j) :
    packAmountFrom v e k = .ok (v / 10 ^ J * 32 + J) := by
  induction k generalizing e with
  | zero => omega
  | succ k ih =>
    -- every exponent up to `J` divides, so the scan never gives up before `J`
    have hdvd : v % 10 ^ e = 0 := Nat.mod_eq_zero_of_dvd (pow_dvd_of_le hJ hfit.1)
    rw [packAmountFrom, if_pos hdvd]
    by_cases hm : v / 10 ^ e ≤ amountMantissaMax
    · have he : e = J := by
        by_contra hne
        exact hmin e le_rfl (by omega) ⟨pow_dvd_of_le hJ hfit.1, hm⟩
      rw [if_pos hm, he]
    · have hne : e ≠ J := fun he => hm (he ▸ hfit.2)
      rw [if_neg hm]
      exact ih (by omega) (by omega) fun j hj hjJ => hmin j (by omega) hjJ

theorem packAmountFrom_eq_error {e k : ℕ}
    (hnone : ∀ j, e ≤ j → j < e + k → ¬ FitsAt amountMantissaMax v j) :
    packAmountFrom v e k = .error (.packing .amount v) := by
  induction k generalizing e with
  | zero => rfl
  | succ k ih =>
    rw [packAmountFrom]
    split
    · rename_i hdvd
      have hm : ¬ v / 10 ^ e ≤ amountMantissaMax :=
        fun hm => hnone e le_rfl (by omega) ⟨Nat.dvd_of_mod_eq_zero hdvd, hm⟩
      rw [if_neg hm]
      exact ih fun j hj hjk => hnone j (by omega) (by omega)
    · rfl

end Scan

theorem packAmount_eq_of_least {v J : ℕ} (hJ : J ≤ amountExponentMax)
    (hfit : FitsAt amountMantissaMax v J) (hmin : ∀ j < J, ¬ FitsAt amountMantissaMax v j) :
    packAmount v = .ok (BigEndian.encode amountBytes (v / 10 ^ J * 32 + J)) := by
  rw [packAmount, packAmountFrom_eq_ok (Nat.zero_le J) (by omega)
    hfit fun j _ hj => hmin j hj]
  rfl

theorem packAmount_eq_error {v : ℕ}
    (h : ¬ Representable amountMantissaMax amountExponentMax v) :
    packAmount v = .error (.packing .amount v) := by
  rw [packAmount, packAmountFrom_eq_error]
  · rfl
  · intro j _ hj hfit
    exact h (representable_iff.2 ⟨j, by omega, hfit⟩)

/-- A representable amount has a least fitting exponent, and packs there. -/
theorem exists_least_packAmount {v : ℕ}
    (hr : Representable amountMantissaMax amountExponentMax v) :
    ∃ J ≤ amountExponentMax, FitsAt amountMantissaMax v J ∧
      (∀ j < J, ¬ FitsAt amountMantissaMax v j) ∧
      packAmount v = .ok (BigEndian.encode amountBytes (v / 10 ^ J * 32 + J)) := by
  obtain ⟨e, he, hfit⟩ := representable_iff.1 hr
  have hex : ∃ j, FitsAt amountMantissaMax v j := ⟨e, hfit⟩
  have hJ : Nat.find hex ≤ amountExponentMax := Nat.le_trans (Nat.find_min' hex hfit) he
  have hmin : ∀ j < Nat.find hex, ¬ FitsAt amountMantissaMax v j := fun j => Nat.find_min hex
  exact ⟨Nat.find hex, hJ, Nat.find_spec hex, hmin,
    packAmount_eq_of_least hJ (Nat.find_spec hex) hmin⟩

theorem exists_least_of_packAmount {v : ℕ} {p : List UInt8} (h : packAmount v = .ok p) :
    ∃ J ≤ amountExponentMax, FitsAt amountMantissaMax v J ∧
      (∀ j < J, ¬ FitsAt amountMantissaMax v j) ∧
      p = BigEndian.encode amountBytes (v / 10 ^ J * 32 + J) := by
  by_cases hr : Representable amountMantissaMax amountExponentMax v
  · obtain ⟨J, hJ, hfit, hmin, hpack⟩ := exists_least_packAmount hr
    rw [hpack, Except.ok.injEq] at h
    exact ⟨J, hJ, hfit, hmin, h.symm⟩
  · rw [packAmount_eq_error hr] at h
    cases h

theorem packAmount_isOk_iff (v : ℕ) :
    (∃ p, packAmount v = .ok p) ↔ Representable amountMantissaMax amountExponentMax v := by
  constructor
  · rintro ⟨p, hp⟩
    obtain ⟨J, hJ, hfit, -⟩ := exists_least_of_packAmount hp
    exact representable_iff.2 ⟨J, hJ, hfit⟩
  · intro hr
    obtain ⟨J, -, -, -, hpack⟩ := exists_least_packAmount hr
    exact ⟨_, hpack⟩

theorem and_thirtyOne (w : ℕ) : w &&& 31 = w % 32 := Nat.and_two_pow_sub_one_eq_mod w 5

theorem shiftRight_five (w : ℕ) : w >>> 5 = w / 32 := Nat.shiftRight_eq_div_pow w 5

theorem word_lt {q J : ℕ} (hq : q ≤ amountMantissaMax) (hJ : J ≤ amountExponentMax) :
    q * 32 + J < 256 ^ amountBytes := by
  simp only [amountMantissaMax, amountExponentMax, amountBytes] at *
  omega

theorem decode_encode_word {q J : ℕ} (hq : q ≤ amountMantissaMax) (hJ : J ≤ amountExponentMax) :
    BigEndian.decode (BigEndian.encode amountBytes (q * 32 + J)) = q * 32 + J :=
  BigEndian.decode_encode_of_lt (word_lt hq hJ)

theorem unpackAmount_packAmount {v : ℕ} {p : List UInt8} (h : packAmount v = .ok p) :
    unpackAmount p = v := by
  obtain ⟨J, hJ, hfit, -, rfl⟩ := exists_least_of_packAmount h
  have hJ' : J < 32 := by unfold amountExponentMax at hJ; omega
  rw [unpackAmount, decode_encode_word hfit.2 hJ, unpackWord]
  rw [show (v / 10 ^ J * 32 + J) / 32 = v / 10 ^ J by omega,
    show (v / 10 ^ J * 32 + J) % 32 = J by omega]
  exact hfit.eq_mul.symm

/-- The exponent field of a packed amount is the least exponent of any packed form of it. -/
theorem isLeast_exponent_packAmount {v : ℕ} {p : List UInt8} (h : packAmount v = .ok p) :
    IsLeast {e | ∃ m, m ≤ amountMantissaMax ∧ e ≤ amountExponentMax ∧ v = m * 10 ^ e}
      (BigEndian.decode p &&& 31) := by
  obtain ⟨J, hJ, hfit, hmin, rfl⟩ := exists_least_of_packAmount h
  have hJ' : J < 32 := by unfold amountExponentMax at hJ; omega
  rw [decode_encode_word hfit.2 hJ, and_thirtyOne, show (v / 10 ^ J * 32 + J) % 32 = J by omega]
  constructor
  · obtain ⟨m, hm, hv⟩ := fitsAt_iff.1 hfit
    exact ⟨m, hm, hJ, hv⟩
  · rintro e ⟨m, hm, -, hv⟩
    by_contra hlt
    exact hmin e (by omega) (fitsAt_iff.2 ⟨m, hm, hv⟩)

theorem isAmountPackable_iff (v : ℕ) :
    isAmountPackable v = true ↔ Representable amountMantissaMax amountExponentMax v := by
  rw [isAmountPackable, beq_iff_eq, closestAmount, closest_eq_self_iff]

/-- The least fitting exponent of `m * 10 ^ e` is `e` itself iff `e = 0` or the mantissa
cannot take another factor of ten. -/
theorem least_eq_iff {m e J : ℕ} (hm : m ≤ amountMantissaMax)
    (hfit : FitsAt amountMantissaMax (m * 10 ^ e) J)
    (hmin : ∀ j < J, ¬ FitsAt amountMantissaMax (m * 10 ^ e) j) :
    J = e ↔ e = 0 ∨ amountMantissaMax < 10 * m := by
  constructor
  · rintro rfl
    by_contra hno
    rw [not_or, Nat.not_lt] at hno
    exact hmin (J - 1) (by omega) (fitsAt_pred (by omega) hno.2)
  · intro h
    have hle : J ≤ e := by
      by_contra hlt
      exact hmin e (by omega) (fitsAt_mul e hm)
    rcases h with h0 | hbig
    · omega
    · -- below `e` the mantissa is a multiple of `10 * m`, too large to fit
      have hJ : ¬ J < e := fun hlt => Nat.not_le.2 hbig (hfit.ten_mul_le hlt)
      omega

section Word

variable {p : List UInt8}

theorem unpackAmount_eq_fields (p : List UInt8) :
    unpackAmount p = (BigEndian.decode p >>> 5) * 10 ^ (BigEndian.decode p &&& 31) := by
  rw [unpackAmount, unpackWord, shiftRight_five, and_thirtyOne]

theorem mantissa_le_of_length (hp : p.length = amountBytes) :
    BigEndian.decode p / 32 ≤ amountMantissaMax := by
  have h := BigEndian.decode_lt p
  rw [hp] at h
  simp only [amountMantissaMax, amountBytes] at *
  omega

/-- Every five-byte word denotes a packable amount, which packs again to the same value. -/
theorem packAmount_unpackAmount (hp : p.length = amountBytes) :
    ∃ q, packAmount (unpackAmount p) = .ok q ∧ unpackAmount q = unpackAmount p := by
  have hr : Representable amountMantissaMax amountExponentMax (unpackAmount p) :=
    ⟨_, _, mantissa_le_of_length hp, by unfold amountExponentMax; omega, rfl⟩
  obtain ⟨q, hq⟩ := (packAmount_isOk_iff _).2 hr
  exact ⟨q, hq, unpackAmount_packAmount hq⟩

/-- A word is the packing of its own amount iff its exponent is zero or its mantissa cannot
take one more factor of ten. -/
theorem packAmount_unpackAmount_eq_self_iff (hp : p.length = amountBytes) :
    packAmount (unpackAmount p) = .ok p ↔
      BigEndian.decode p &&& 31 = 0 ∨ amountMantissaMax < 10 * (BigEndian.decode p >>> 5) := by
  rw [and_thirtyOne, shiftRight_five]
  have hm := mantissa_le_of_length hp
  have hx : unpackAmount p = BigEndian.decode p / 32 * 10 ^ (BigEndian.decode p % 32) := rfl
  obtain ⟨J, hJ, hfit, hmin, hpack⟩ := exists_least_packAmount
    (⟨_, _, hm, by unfold amountExponentMax; omega, hx⟩ :
      Representable amountMantissaMax amountExponentMax (unpackAmount p))
  have hJ' : J < 32 := by unfold amountExponentMax at hJ; omega
  rw [hpack, Except.ok.injEq, ← least_eq_iff hm (hx ▸ hfit) (hx ▸ hmin)]
  constructor
  · intro henc
    have hw := congrArg BigEndian.decode henc
    rw [decode_encode_word hfit.2 hJ] at hw
    omega
  · intro hJe
    have hq : unpackAmount p / 10 ^ J = BigEndian.decode p / 32 := by
      rw [hx, hJe, Nat.mul_div_cancel _ (Nat.pow_pos (by decide))]
    rw [hq, hJe, Nat.div_add_mod' (BigEndian.decode p) 32, ← hp]
    exact BigEndian.encode_decode p

end Word

/-- The packed amount codec is a bijection onto canonical words. -/
theorem packAmount_canonical :
    (∀ x, (∃ p, packAmount x = .ok p) ↔ Representable amountMantissaMax amountExponentMax x) ∧
    (∀ x, isAmountPackable x = true ↔ Representable amountMantissaMax amountExponentMax x) ∧
    (∀ x p, packAmount x = .ok p → unpackAmount p = x ∧
      IsLeast {e | ∃ m, m ≤ amountMantissaMax ∧ e ≤ amountExponentMax ∧ x = m * 10 ^ e}
        (BigEndian.decode p &&& 31)) ∧
    (∀ p : List UInt8, p.length = amountBytes →
      unpackAmount p = (BigEndian.decode p >>> 5) * 10 ^ (BigEndian.decode p &&& 31) ∧
      (∃ q, packAmount (unpackAmount p) = .ok q ∧ unpackAmount q = unpackAmount p) ∧
      (packAmount (unpackAmount p) = .ok p ↔
        BigEndian.decode p &&& 31 = 0 ∨ amountMantissaMax < 10 * (BigEndian.decode p >>> 5))) :=
  ⟨packAmount_isOk_iff, isAmountPackable_iff,
    fun _ _ h => ⟨unpackAmount_packAmount h, isLeast_exponent_packAmount h⟩,
    fun p hp => ⟨unpackAmount_eq_fields p, packAmount_unpackAmount hp,
      packAmount_unpackAmount_eq_self_iff hp⟩⟩

/-- `10 ^ 18` packs as the mantissa `10 ^ 10` at exponent 8, a word that is canonical. -/
theorem packAmount_ether :
    packAmount 1000000000000000000 = .ok [0x4a, 0x81, 0x7c, 0x80, 0x08] ∧
      unpackAmount [0x4a, 0x81, 0x7c, 0x80, 0x08] = 1000000000000000000 ∧
      packAmount (unpackAmount [0x4a, 0x81, 0x7c, 0x80, 0x08]) =
        .ok [0x4a, 0x81, 0x7c, 0x80, 0x08] :=
  have h : packAmount 1000000000000000000 = .ok [0x4a, 0x81, 0x7c, 0x80, 0x08] := by decide
  ⟨h, (packAmount_canonical.2.2.1 _ _ h).1,
    (packAmount_canonical.2.2.2 _ rfl).2.2.2 (Or.inr (by decide))⟩

end RollupTx.Packed
