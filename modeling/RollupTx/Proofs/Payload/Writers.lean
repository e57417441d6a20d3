import RollupTx.Proofs.Packing.Amount
import RollupTx.Proofs.Packing.Fee
import RollupTx.Proofs.Payload.Fields
import RollupTx.Encode.Field

/-!
# The field writers

What each field writer of a payload accepts and what its bytes say. Integers are written
big-endian and read back exactly when they fit their width; addresses and content hashes are
their fixed number of decoded bytes; packed amounts and fees unpack to the value packed. Each
fact is stated as the writer meeting a slot of its width, which is what a layout needs.
-/

namespace RollupTx.Payload

open Packed

def feeByte (v : ℕ) : Except EncodeError (List UInt8) :=
  (packFee v).map fun b => [b]

theorem feeByte_isOk_iff (v : ℕ) :
    (∃ bs, feeByte v = .ok bs) ↔ Representable feeMantissaMax feeExponentMax v := by
  rw [← packFee_isOk_iff]
  unfold feeByte
  cases packFee v <;> simp [Except.map]

theorem intBytes_isOk_iff {field : String} {v len : ℕ} :
    (∃ bs, Field.intBytes field v len = .ok bs) ↔ v < 2 ^ (8 * len) := by
  unfold Field.intBytes
  split <;> simp [*]

/-- Below `2 ^ 256`, the bytes kept from a value's 32-byte form are its writing in the field's
width: the cut drops only zero bytes and the padding adds only zero bytes. -/
theorem intBytes_eq {field : String} {v len : ℕ} (hv : v < 2 ^ 256) :
    Field.intBytes field v len =
      if v < 2 ^ (8 * len) then .ok (BigEndian.encode len v) else .error (.range field v len) := by
  unfold Field.intBytes
  split
  · rename_i hfit
    have hkept : v < 256 ^ min len Field.valueBytes := by
      rcases Nat.le_total len Field.valueBytes with h | h
      · rwa [Nat.min_eq_left h, show (256 : ℕ) = 2 ^ 8 from rfl, ← Nat.pow_mul]
      · rwa [Nat.min_eq_right h, show (256 : ℕ) = 2 ^ 8 from rfl, ← Nat.pow_mul]
    dsimp only
    rw [BigEndian.drop_encode (Nat.min_le_right _ _),
      ← BigEndian.encode_of_lt (Nat.min_le_left _ _) hkept]
  · rfl

theorem word_eq_ok_iff {field : String} {v : ℕ} {bs : List UInt8} :
    Field.word field v = .ok bs ↔ v < 2 ^ 32 ∧ bs = BigEndian.encode 4 v := by
  unfold Field.word
  split
  · rename_i h
    simp [h, eq_comm, Field.wordBytes]
  · rename_i h
    simp [h]

theorem word_isOk_iff {field : String} {v : ℕ} :
    (∃ bs, Field.word field v = .ok bs) ↔ v < 2 ^ 32 := by
  simp [word_eq_ok_iff]

theorem fixedHex_length {field : String} {n : ℕ} {s : String} {bs : List UInt8}
    (h : Field.fixedHex field n s = .ok bs) : bs.length = n := by
  unfold Field.fixedHex at h
  split at h
  · cases h
  · split at h
    · rename_i hlen
      cases h
      exact hlen
    · cases h

section Meets

variable {off : ℕ}

/-- An integer that fits a field no wider than a 256-bit value reads back from its bytes. -/
theorem meets_intBytes (field : String) (v len : ℕ) (hlen : len ≤ Field.valueBytes) :
    Meets (Field.intBytes field v len) ⟨off, len, fun bs => BigEndian.decode bs = v⟩ := by
  intro o h
  have hfit : v < 2 ^ (8 * len) := intBytes_isOk_iff.1 ⟨o, h⟩
  have hv : v < 2 ^ 256 := by
    have hbits : 8 * len ≤ 256 := by
      simp only [Field.valueBytes] at hlen
      omega
    exact Nat.lt_of_lt_of_le hfit (Nat.pow_le_pow_right (by decide) hbits)
  rw [intBytes_eq hv, if_pos hfit, Except.ok.injEq] at h
  subst h
  refine ⟨BigEndian.length_encode len v, BigEndian.decode_encode_of_lt ?_⟩
  rwa [Nat.pow_mul] at hfit

theorem meets_word (field : String) (v : ℕ) :
    Meets (Field.word field v) ⟨off, 4, fun bs => BigEndian.decode bs = v⟩ := by
  intro o h
  obtain ⟨hv, rfl⟩ := word_eq_ok_iff.1 h
  exact ⟨BigEndian.length_encode 4 v, BigEndian.decode_encode_of_lt hv⟩

/-- A timestamp below `2 ^ 64` reads back from its eight bytes. -/
theorem meets_timestamp {v : ℕ} (hv : v < 2 ^ 64) :
    Meets (.ok (Field.timestamp v) : Except EncodeError (List UInt8))
      ⟨off, 8, fun bs => BigEndian.decode bs = v⟩ :=
  meets_ok (BigEndian.length_encode 8 v)
    (BigEndian.decode_encode_of_lt (by simpa [Field.timestampBytes] using hv))

theorem meets_address (s : String) :
    Meets (Field.address s) ⟨off, 20, fun bs => Field.address s = .ok bs⟩ :=
  fun _ h => ⟨fixedHex_length h, h⟩

theorem meets_contentHash (s : String) :
    Meets (Field.contentHash s) ⟨off, 32, fun bs => Field.contentHash s = .ok bs⟩ :=
  fun _ h => ⟨fixedHex_length h, h⟩

theorem meets_packAmount (v : ℕ) :
    Meets (packAmount v) ⟨off, 5, fun bs => unpackAmount bs = v⟩ := by
  intro o h
  obtain ⟨J, -, -, -, rfl⟩ := exists_least_of_packAmount h
  exact ⟨BigEndian.length_encode _ _, unpackAmount_packAmount h⟩

theorem meets_feeByte (v : ℕ) :
    Meets (feeByte v) ⟨off, 1, fun bs => bs.map unpackFee = [v]⟩ := by
  intro o h
  unfold feeByte at h
  cases hp : packFee v with
  | error e => simp [hp, Except.map] at h
  | ok b =>
    simp only [hp, Except.map, Except.ok.injEq] at h
    subst h
    exact ⟨rfl, by simp [unpackFee_packFee hp]⟩

end Meets

end RollupTx.Payload
