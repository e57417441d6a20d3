import RollupTx.Encode.Field
import RollupTx.Proofs.Encode.HexText
import RollupTx.Proofs.Text.Edits

/-!
# Address text

An address or public key hash is accepted when, after at most one prefix (`0x`, `0X` or
`sync:`), it is hex text of 20 bytes (`exists_split_of_address`). Hex text starts with none of
the prefixes, since each holds a character that is no hex digit, and it is ASCII, so
lower-casing it maps each digit to a digit of the same value. Hence lower-casing an accepted
address keeps it accepted with the same bytes (`address_lower`), and so does removing every
`sync:` first (`address_lower_replace`): an accepted text holds `sync:` at most once, as its
prefix, because hex text holds no `:`.
-/

namespace RollupTx.Field

open Hex Text

theorem fixedHex_eq_ok_iff {field : String} {n : Nat} {s : String} {bs : List UInt8} :
    fixedHex field n s = .ok bs ↔ decode s = .ok bs ∧ bs.length = n := by
  unfold fixedHex
  cases decode s with
  | error e => simp
  | ok cs =>
    by_cases hn : cs.length = n
    · simp only [hn, if_true, Except.ok.injEq]
      constructor
      · rintro rfl
        exact ⟨rfl, hn⟩
      · rintro ⟨rfl, -⟩
        rfl
    · simp only [hn, if_false, reduceCtorEq, false_iff, not_and, Except.ok.injEq]
      rintro rfl
      exact hn

theorem eq_append_of_startsWith {s pat : String} (h : s.startsWith pat = true) :
    s = pat ++ (s.drop pat.length).toString := by
  apply String.toList_injective
  rw [String.toList_append]
  show s.toList = pat.toList ++ (s.drop pat.length).copy.toList
  rw [String.toList_copy_drop, ← String.length_toList]
  exact (List.prefix_iff_eq_append.mp (String.startsWith_string_iff.mp h)).symm

theorem drop_append_toString (p t : String) : ((p ++ t).drop p.length).toString = t := by
  apply String.toList_injective
  show ((p ++ t).drop p.length).copy.toList = t.toList
  rw [String.toList_copy_drop, String.toList_append, ← String.length_toList, List.drop_left]

theorem startsWith_eq_false_of_hex {s : String} (hs : ∀ c ∈ s.toList, IsHexChar c)
    (pat : String) (c : Char) (hc : c ∈ pat.toList) (hbad : ¬ IsHexChar c) :
    s.startsWith pat = false := by
  rw [Bool.eq_false_iff, ne_eq, String.startsWith_string_iff]
  exact fun hpre => hbad (hs c (hpre.subset hc))

/-- Hex text starts with none of the prefixes: each holds a character that is no digit. -/
theorem stripAddressPrefix_of_hex {s : String} (hs : ∀ c ∈ s.toList, IsHexChar c) :
    stripAddressPrefix s = s := by
  unfold stripAddressPrefix
  rw [startsWith_eq_false_of_hex hs "0x" 'x' (by decide) (by decide),
    startsWith_eq_false_of_hex hs "0X" 'X' (by decide) (by decide),
    startsWith_eq_false_of_hex hs "sync:" ':' (by decide) (by decide)]
  rfl

theorem stripAddressPrefix_append {p t : String} (hp : p = "0x" ∨ p = "0X" ∨ p = "sync:") :
    stripAddressPrefix (p ++ t) = t := by
  unfold stripAddressPrefix
  rcases hp with rfl | rfl | rfl
  · rw [if_pos (String.startsWith_string_iff.mpr (by simp))]
    exact drop_append_toString "0x" t
  · rw [if_neg (by rw [String.startsWith_string_iff]; simp),
      if_pos (String.startsWith_string_iff.mpr (by simp))]
    exact drop_append_toString "0X" t
  · rw [if_neg (by rw [String.startsWith_string_iff]; simp),
      if_neg (by rw [String.startsWith_string_iff]; simp),
      if_pos (String.startsWith_string_iff.mpr (by simp))]
    exact drop_append_toString "sync:" t

/-- An accepted address is one of the prefixes, or none, followed by hex text of 20 bytes. -/
theorem exists_split_of_address {s : String} {bs : List UInt8} (h : address s = .ok bs) :
    ∃ p t, s = p ++ t ∧ (p = "" ∨ p = "0x" ∨ p = "0X" ∨ p = "sync:") ∧ decode t = .ok bs ∧
      bs.length = addressBytes := by
  unfold address stripAddressPrefix at h
  rw [fixedHex_eq_ok_iff] at h
  split at h
  · exact ⟨"0x", _, eq_append_of_startsWith ‹_›, .inr (.inl rfl), h⟩
  split at h
  · exact ⟨"0X", _, eq_append_of_startsWith ‹_›, .inr (.inr (.inl rfl)), h⟩
  split at h
  · exact ⟨"sync:", _, eq_append_of_startsWith ‹_›, .inr (.inr (.inr rfl)), h⟩
  · exact ⟨"", s, (String.empty_append).symm, .inl rfl, h⟩

theorem address_of_hex {t : String} (ht : ∀ c ∈ t.toList, IsHexChar c) :
    address t = fixedHex "address" addressBytes t := by
  rw [address, stripAddressPrefix_of_hex ht]

theorem address_prefix_append {p t : String} (hp : p = "0x" ∨ p = "0X" ∨ p = "sync:") :
    address (p ++ t) = fixedHex "address" addressBytes t := by
  rw [address, stripAddressPrefix_append hp]

theorem lowerAscii_of_isHexChar {c : Char} (h : IsHexChar c) :
    (lowerAscii c).toNat < 128 ∧
      nibble? (UInt8.ofNat (lowerAscii c).toNat) = nibble? (UInt8.ofNat c.toNat) := by
  have key : ∀ n : Fin 128, nibble? (UInt8.ofNat (lowerCode n)) = nibble? (UInt8.ofNat n) := by
    decide
  rw [toNat_lowerAscii h.1]
  exact ⟨lowerCode_lt h.1, key ⟨c.toNat, h.1⟩⟩

theorem isHexChar_lowerAscii {c : Char} (h : IsHexChar c) : IsHexChar (lowerAscii c) := by
  obtain ⟨hlt, hnib⟩ := lowerAscii_of_isHexChar h
  exact ⟨hlt, hnib ▸ h.2⟩

theorem lower_eq_map_of_hex {t : String} (ht : ∀ c ∈ t.toList, IsHexChar c) :
    lower t = String.ofList (t.toList.map lowerAscii) := by
  apply String.toList_injective
  rw [toList_lower_of_ascii fun c hc => (ht c hc).1, String.toList_ofList]

theorem isHexChar_lower {t : String} (ht : ∀ c ∈ t.toList, IsHexChar c) :
    ∀ c ∈ (lower t).toList, IsHexChar c := by
  rw [lower_eq_map_of_hex ht, String.toList_ofList]
  intro c hc
  obtain ⟨c', hc', rfl⟩ := List.mem_map.mp hc
  exact isHexChar_lowerAscii (ht c' hc')

/-- Lower-cased hex text of an address reads as the same bytes. -/
theorem fixedHex_lower_of_decode {t : String} {bs : List UInt8} (hdec : decode t = .ok bs)
    (hlen : bs.length = addressBytes) : fixedHex "address" addressBytes (lower t) = .ok bs := by
  have hhex := isHexChar_of_decode hdec
  rw [fixedHex_eq_ok_iff, lower_eq_map_of_hex hhex]
  exact ⟨decode_map_of_hex (fun c hc => lowerAscii_of_isHexChar hc) hdec, hlen⟩

theorem lower_addressPrefix {p : String} (hp : p = "0x" ∨ p = "0X" ∨ p = "sync:") :
    (∀ c ∈ p.toList, c.toNat < 128) ∧ (lower p = "0x" ∨ lower p = "0X" ∨ lower p = "sync:") := by
  rcases hp with rfl | rfl | rfl
  · exact ⟨by simp, .inl (by decide)⟩
  · exact ⟨by simp, .inl (by decide)⟩
  · exact ⟨by simp, .inr (.inr (by decide))⟩

/-- Lower-casing an accepted address, whatever its prefix, keeps it accepted with the same
bytes. -/
theorem address_lower {s : String} {bs : List UInt8} (h : address s = .ok bs) :
    address (lower s) = .ok bs := by
  obtain ⟨p, t, rfl, hp, hdec, hlen⟩ := exists_split_of_address h
  have hhex := isHexChar_of_decode hdec
  rcases hp with rfl | hp
  · rw [String.empty_append, address_of_hex (isHexChar_lower hhex)]
    exact fixedHex_lower_of_decode hdec hlen
  · -- prefix and hex text are lower-cased apart, and the prefix stays a prefix
    obtain ⟨hascii, hlow⟩ := lower_addressPrefix hp
    rw [lower_append_of_ascii hascii fun c hc => (hhex c hc).1, address_prefix_append hlow]
    exact fixedHex_lower_of_decode hdec hlen

theorem sync_absent {s : String} (hs : ':' ∉ s.toList) :
    ∀ t₁ t₂, s ≠ t₁ ++ "sync:" ++ t₂ := by
  rintro t₁ t₂ rfl
  exact hs (by simp [String.toList_append])

/-- A key hash shown with every `sync:` removed and lower-cased is accepted as the same
bytes: an accepted hash holds `sync:` at most once, at its start. -/
theorem address_lower_replace {s : String} {bs : List UInt8} (h : address s = .ok bs) :
    address (lower (s.replace "sync:" "")) = .ok bs := by
  obtain ⟨p, t, rfl, hp, hdec, hlen⟩ := exists_split_of_address h
  have hhex := isHexChar_of_decode hdec
  have hcolon : ':' ∉ t.toList := fun hc => absurd (hhex _ hc) (by decide)
  have hkeep : ∀ q, ':' ∉ q.toList → (q ++ t).replace "sync:" "" = q ++ t := by
    intro q hq
    refine replace_of_absent (by decide) (sync_absent ?_)
    simp only [String.toList_append, List.mem_append, not_or]
    exact ⟨hq, hcolon⟩
  rcases hp with rfl | rfl | rfl | rfl
  · rw [hkeep "" (by decide)]
    exact address_lower h
  · rw [hkeep "0x" (by decide)]
    exact address_lower h
  · rw [hkeep "0X" (by decide)]
    exact address_lower h
  · rw [replace_pattern_append (by decide) (sync_absent hcolon), String.empty_append,
      address_of_hex (isHexChar_lower hhex)]
    exact fixedHex_lower_of_decode hdec hlen

end RollupTx.Field
