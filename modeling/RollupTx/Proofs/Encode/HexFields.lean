import RollupTx.Proofs.Encode.AddressText

/-!
# Hex fields

An address is accepted exactly when it is one of the prefixes `0x`, `0X`, `sync:` or none,
followed by hex text that spells twenty bytes (`Hex.Spells`: lower-cased, the text is the
canonical hex text of the bytes); a content hash likewise with only `0x` and thirty-two bytes.
The prefix is matched exactly and removed once, so `SYNC:` and a second `0x` stay in the text
and are refused as bytes that are no hex digits.

A refused text is refused for the first of three faults (`FailsInOrder`): an odd number of
bytes, then its first byte that is no hex digit, then a byte count other than twice the width.
Spelling ignores case, so an accepted address is accepted with the same bytes after lower-casing
it and after upper-casing its digits. `hex_fields_accept_their_grammar` collects these.
-/

namespace RollupTx.Field

open Hex Text

/-- The prefixes an address may carry: none, `0x`, `0X` or `sync:`. -/
def AddressPrefix (p : String) : Prop :=
  p = "" ∨ p = "0x" ∨ p = "0X" ∨ p = "sync:"

instance (p : String) : Decidable (AddressPrefix p) :=
  inferInstanceAs (Decidable (_ ∨ _ ∨ _ ∨ _))

/-- How reading `n` bytes of hex text for `field` fails on the text `t`. -/
structure FailsInOrder (r : Except EncodeError (List UInt8)) (field : String) (n : Nat)
    (t : String) : Prop where
  /-- An odd number of bytes is refused before anything else. -/
  odd_length : t.toUTF8.toList.length % 2 = 1 → r = .error (.format field (.hex .oddLength))
  /-- Otherwise the first byte that is no hex digit is refused, at its position. -/
  bad_digit : t.toUTF8.toList.length % 2 = 0 →
    ∀ pre b post, t.toUTF8.toList = pre ++ b :: post →
    (∀ a ∈ pre, IsHexByte a) → ¬ IsHexByte b →
    r = .error (.format field (.hex (.badDigit b pre.length)))
  /-- Hex text of the wrong length is refused with the number of bytes it reads as. -/
  wrong_length : t.toUTF8.toList.length % 2 = 0 → (∀ a ∈ t.toUTF8.toList, IsHexByte a) →
    t.toUTF8.toList.length ≠ 2 * n →
    r = .error (.format field (.length n (t.toUTF8.toList.length / 2)))

theorem fixedHex_eq_ok_iff_spells {field : String} {n : Nat} {t : String} {bs : List UInt8} :
    fixedHex field n t = .ok bs ↔ Spells t bs ∧ bs.length = n := by
  rw [fixedHex_eq_ok_iff, decode_eq_ok_iff]

theorem fixedHex_failsInOrder (field : String) (n : Nat) (t : String) :
    FailsInOrder (fixedHex field n t) field n t where
  odd_length h := by rw [fixedHex, decode_of_odd h]
  bad_digit heven _ _ _ ht hpre hb := by rw [fixedHex, decode_of_bad heven ht hpre hb]
  wrong_length heven hall hlen := by
    obtain ⟨r, hr, hrlen⟩ := decode_of_hex heven hall
    rw [fixedHex, hr]
    dsimp only
    rw [hrlen, if_neg (by omega)]

theorem address_of_unprefixed {s : String} (h0x : ¬ s.startsWith "0x") (h0X : ¬ s.startsWith "0X")
    (hsync : ¬ s.startsWith "sync:") : address s = fixedHex "address" addressBytes s := by
  rw [address, stripAddressPrefix, if_neg h0x, if_neg h0X, if_neg hsync]

theorem contentHash_prefix_append (t : String) :
    contentHash ("0x" ++ t) = fixedHex "content hash" contentHashBytes t := by
  rw [contentHash, if_pos (String.startsWith_string_iff.mpr (by simp))]
  exact congrArg (fixedHex "content hash" contentHashBytes) (drop_append_toString "0x" t)

theorem contentHash_of_unprefixed {s : String} (h0x : ¬ s.startsWith "0x") :
    contentHash s = fixedHex "content hash" contentHashBytes s := by
  rw [contentHash, if_neg h0x]

theorem isHexChar_of_spells {t : String} {bs : List UInt8} (h : Spells t bs) :
    ∀ c ∈ t.toList, IsHexChar c :=
  isHexChar_of_decode (decode_of_spells h)

/-- An address is one of the prefixes followed by text that spells twenty bytes. -/
theorem address_eq_ok_iff {s : String} {bs : List UInt8} :
    address s = .ok bs ↔
      ∃ p t, s = p ++ t ∧ AddressPrefix p ∧ Spells t bs ∧ bs.length = 20 := by
  constructor
  · intro h
    obtain ⟨p, t, rfl, hp, hdec, hlen⟩ := exists_split_of_address h
    exact ⟨p, t, rfl, hp, spells_of_decode hdec, hlen⟩
  · rintro ⟨p, t, rfl, hp, hspells, hlen⟩
    have hread : fixedHex "address" addressBytes t = .ok bs :=
      fixedHex_eq_ok_iff_spells.2 ⟨hspells, hlen⟩
    rcases hp with rfl | hp
    · rw [String.empty_append, address_of_hex (isHexChar_of_spells hspells)]
      exact hread
    · rw [address_prefix_append hp]
      exact hread

/-- A content hash is `0x` or nothing followed by text that spells thirty-two bytes. -/
theorem contentHash_eq_ok_iff {s : String} {bs : List UInt8} :
    contentHash s = .ok bs ↔
      ∃ p t, s = p ++ t ∧ (p = "" ∨ p = "0x") ∧ Spells t bs ∧ bs.length = 32 := by
  constructor
  · intro h
    by_cases h0x : s.startsWith "0x"
    · have hsplit := eq_append_of_startsWith h0x
      rw [hsplit, contentHash_prefix_append, fixedHex_eq_ok_iff_spells] at h
      exact ⟨"0x", _, hsplit, .inr rfl, h⟩
    · rw [contentHash_of_unprefixed h0x, fixedHex_eq_ok_iff_spells] at h
      exact ⟨"", s, (String.empty_append).symm, .inl rfl, h⟩
  · rintro ⟨p, t, rfl, hp, hspells, hlen⟩
    have hread : fixedHex "content hash" contentHashBytes t = .ok bs :=
      fixedHex_eq_ok_iff_spells.2 ⟨hspells, hlen⟩
    rcases hp with rfl | rfl
    · -- hex text holds no `x`, so it does not start with `0x`
      have h0x := startsWith_eq_false_of_hex (isHexChar_of_spells hspells) "0x" 'x' (by decide)
        (by decide)
      rw [String.empty_append, contentHash_of_unprefixed (by simp [h0x])]
      exact hread
    · rw [contentHash_prefix_append]
      exact hread

theorem toUpper_eq_self_or_ascii (c : Char) : c.toUpper = c ∨ c.toNat < 128 := by
  unfold Char.toUpper
  split
  · rename_i h
    have hz : c.val.toNat ≤ 122 := UInt32.le_iff_toNat_le.1 h.2
    exact .inr (show c.val.toNat < 128 by omega)
  · exact .inl rfl

theorem toLower_toUpper (c : Char) : c.toUpper.toLower = c.toLower := by
  rcases toUpper_eq_self_or_ascii c with hself | hascii
  · rw [hself]
  · exact @ascii_forall (fun c => c.toUpper.toLower = c.toLower) (by decide) c hascii

theorem spells_toUpper {t : String} {bs : List UInt8} (h : Spells t bs) : Spells t.toUpper bs := by
  rw [Spells, String.toUpper, String.toList_map, List.map_map]
  rw [Spells] at h
  rw [← h]
  congr 1
  funext c
  exact toLower_toUpper c

/-- Addresses and content hashes accept exactly their grammar: an address is one of the prefixes
`0x`, `0X`, `sync:` or none followed by the spelling of twenty bytes, a content hash `0x` or
nothing followed by the spelling of thirty-two. The text after the prefix, removed once and
matched exactly, is refused for an odd byte count first, then for its first byte that is no hex
digit, then for the wrong length. An accepted address is accepted with the same bytes after
lower-casing, and after upper-casing its digits. -/
theorem hex_fields_accept_their_grammar :
    (∀ s bs, address s = .ok bs ↔
      ∃ p t, s = p ++ t ∧ AddressPrefix p ∧ Spells t bs ∧ bs.length = 20) ∧
    (∀ s bs, contentHash s = .ok bs ↔
      ∃ p t, s = p ++ t ∧ (p = "" ∨ p = "0x") ∧ Spells t bs ∧ bs.length = 32) ∧
    (∀ p t, AddressPrefix p → p ≠ "" → FailsInOrder (address (p ++ t)) "address" 20 t) ∧
    (∀ s, ¬ s.startsWith "0x" → ¬ s.startsWith "0X" → ¬ s.startsWith "sync:" →
      FailsInOrder (address s) "address" 20 s) ∧
    (∀ t, FailsInOrder (contentHash ("0x" ++ t)) "content hash" 32 t) ∧
    (∀ s, ¬ s.startsWith "0x" → FailsInOrder (contentHash s) "content hash" 32 s) ∧
    (∀ s bs, address s = .ok bs → address (lower s) = .ok bs ∧
      ∃ p t, s = p ++ t ∧ AddressPrefix p ∧ Spells t bs ∧
        address (p ++ t.toUpper) = .ok bs) := by
  refine ⟨fun _ _ => address_eq_ok_iff, fun _ _ => contentHash_eq_ok_iff, ?_, ?_, ?_, ?_, ?_⟩
  · intro p t hp hne
    rw [address_prefix_append (hp.resolve_left hne)]
    exact fixedHex_failsInOrder _ _ _
  · intro s h0x h0X hsync
    rw [address_of_unprefixed h0x h0X hsync]
    exact fixedHex_failsInOrder _ _ _
  · intro t
    rw [contentHash_prefix_append]
    exact fixedHex_failsInOrder _ _ _
  · intro s h0x
    rw [contentHash_of_unprefixed h0x]
    exact fixedHex_failsInOrder _ _ _
  · intro s bs h
    obtain ⟨p, t, rfl, hp, hspells, hlen⟩ := address_eq_ok_iff.1 h
    exact ⟨address_lower h, p, t, rfl, hp, hspells,
      address_eq_ok_iff.2 ⟨p, _, rfl, hp, spells_toUpper hspells, hlen⟩⟩

/-- Capital digits after `0X` read as twenty bytes `0xab`, and so does the lower case of that
text; `SYNC:` is no prefix, so its `S` is refused as the first byte. -/
theorem capital_address_reads_as_its_lower_case :
    address "0XABABABABABABABABABABABABABABABABABABABAB" = .ok (List.replicate 20 0xab) ∧
      address (lower "0XABABABABABABABABABABABABABABABABABABABAB") =
        .ok (List.replicate 20 0xab) ∧
      address "SYNC:1abababababababababababababababababababab" =
        .error (.format "address" (.hex (.badDigit 83 0))) := by
  obtain ⟨hgrammar, -, -, hbare, -, -, hcase⟩ := hex_fields_accept_their_grammar
  have hcap :
      address "0XABABABABABABABABABABABABABABABABABABABAB" = .ok (List.replicate 20 0xab) :=
    (hgrammar _ _).2 ⟨"0X", "ABABABABABABABABABABABABABABABABABABABAB", by decide +kernel,
      by decide, by decide +kernel, rfl⟩
  refine ⟨hcap, (hcase _ _ hcap).1, ?_⟩
  exact (hbare _ (by decide +kernel) (by decide +kernel) (by decide +kernel)).bad_digit
    (by decide +kernel) [] 83 "YNC:1abababababababababababababababababababab".toUTF8.toList
    (by decide +kernel) (by simp) (by decide)

end RollupTx.Field
