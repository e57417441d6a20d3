import RollupTx.Bytes.Hex

/-!
# Hex text

Writing bytes as hex loses nothing: each byte becomes two digits, the high nibble first, and
distinct nibbles have distinct digits, so the text determines the bytes (`encode_injective`).

Reading works on the UTF-8 bytes of a text. A text that reads is made of ASCII hex digits
(`isHexChar_of_decode`), since every byte of a non-ASCII character's encoding is at least
`0x80` and no such byte is a digit; and reading sees each digit only through its value, so
changing digits into digits of the same value, as lower-casing does, reads the same
(`decode_map_of_hex`).

Reading accepts exactly the texts that spell bytes (`Spells`): lower-cased digit by digit, such
a text is the canonical hex text of the bytes read (`decode_eq_ok_iff`). A text it refuses is
refused for an odd number of bytes before anything else, otherwise for its first byte that is no
hex digit (`decode_of_bad`), whichever digit of its pair that byte is.
-/

namespace RollupTx.Hex

theorem digit_inj {m n : Nat} (hm : m < 16) (hn : n < 16) (h : digit m = digit n) : m = n := by
  have key : ∀ a b : Fin 16, digit a = digit b → a = b := by decide
  exact Fin.val_eq_of_eq (key ⟨m, hm⟩ ⟨n, hn⟩ h)

@[simp] theorem length_byteDigits (b : UInt8) : (byteDigits b).length = 2 := rfl

theorem byteDigits_injective : Function.Injective byteDigits := by
  intro a b h
  simp only [byteDigits, List.cons.injEq, and_true] at h
  have ha := a.toNat_lt
  have hb := b.toNat_lt
  have hhigh := digit_inj (by omega) (by omega) h.1
  have hlow := digit_inj (by omega) (by omega) h.2
  apply UInt8.toNat_inj.mp
  omega

theorem encode_injective : Function.Injective encode := by
  intro a b h
  replace h : a.flatMap byteDigits = b.flatMap byteDigits := by
    simpa [encode] using congrArg String.toList h
  induction a generalizing b with
  | nil =>
    cases b with
    | nil => rfl
    | cons y ys => simp [byteDigits] at h
  | cons x xs ih =>
    cases b with
    | nil => simp [byteDigits] at h
    | cons y ys =>
      rw [List.flatMap_cons, List.flatMap_cons] at h
      obtain ⟨hxy, hrest⟩ := List.append_inj h (by simp)
      rw [byteDigits_injective hxy, ih hrest]

theorem toList_loop (bs : ByteArray) (i : Nat) (r : List UInt8) :
    ByteArray.toList.loop bs i r = r.reverse ++ bs.data.toList.drop i := by
  fun_induction ByteArray.toList.loop bs i r with
  | case1 i r hi ih =>
    have hi' : i < bs.data.toList.length := by simpa using hi
    rw [ih, List.drop_eq_getElem_cons hi']
    simp [ByteArray.get!, hi]
  | case2 i r hi =>
    have hi' : bs.data.toList.length ≤ i := by simp at hi ⊢; omega
    simp [List.drop_eq_nil_of_le hi']

theorem toList_toUTF8 (s : String) : s.toUTF8.toList = s.toList.flatMap String.utf8EncodeChar := by
  rw [ByteArray.toList, toList_loop, String.toUTF8_eq_toByteArray, ← String.utf8Encode_toList]
  simp [List.utf8Encode]

theorem utf8EncodeChar_of_lt {c : Char} (h : c.toNat < 128) :
    String.utf8EncodeChar c = [UInt8.ofNat c.toNat] := by
  unfold String.utf8EncodeChar
  rw [if_pos (show c.val.toNat ≤ 0x7f from Nat.le_of_lt_succ h)]
  rfl

theorem lt_of_utf8EncodeChar {c : Char} (h : ∀ b ∈ String.utf8EncodeChar c, b.toNat < 128) :
    c.toNat < 128 := by
  show c.val.toNat < 128
  refine Nat.lt_of_not_le fun hge => ?_
  have hlead : ∃ b ∈ String.utf8EncodeChar c, 192 ≤ b.toNat := by
    unfold String.utf8EncodeChar
    dsimp only
    rw [if_neg (by omega)]
    split
    · exact ⟨_, List.mem_cons_self, by simp [UInt8.toNat_ofNat]; omega⟩
    split
    · exact ⟨_, List.mem_cons_self, by simp [UInt8.toNat_ofNat]; omega⟩
    · exact ⟨_, List.mem_cons_self, by simp [UInt8.toNat_ofNat]; omega⟩
  obtain ⟨b, hb, hbig⟩ := hlead
  have := h b hb
  omega

theorem lt_of_isSome_nibble? {b : UInt8} (h : (nibble? b).isSome) : b.toNat < 128 := by
  rw [nibble?] at h
  split at h
  · omega
  split at h
  · omega
  split at h
  · omega
  · simp at h

theorem isSome_nibble?_of_decodePairs :
    ∀ (bs : List UInt8) (i : Nat) {r : List UInt8}, decodePairs bs i = .ok r →
      ∀ b ∈ bs, (nibble? b).isSome
  | [], _, _, _ => by simp
  | [_], _, _, h => by simp [decodePairs] at h
  | a :: b :: rest, i, r, h => by
    simp only [decodePairs] at h
    cases ha : nibble? a with
    | none => simp [ha] at h
    | some x =>
      cases hb : nibble? b with
      | none => simp [ha, hb] at h
      | some y =>
        simp only [ha, hb] at h
        cases hrest : decodePairs rest (i + 2) with
        | error e => simp [hrest, Except.map] at h
        | ok r' =>
          intro c hc
          simp only [List.mem_cons] at hc
          rcases hc with rfl | rfl | hc
          · simp [ha]
          · simp [hb]
          · exact isSome_nibble?_of_decodePairs rest (i + 2) hrest c hc

theorem decodePairs_map_congr {α : Type} {g g' : α → UInt8} :
    ∀ (xs : List α) (i : Nat) {r : List UInt8}, (∀ x ∈ xs, nibble? (g x) = nibble? (g' x)) →
      decodePairs (xs.map g') i = .ok r → decodePairs (xs.map g) i = .ok r
  | [], _, _, _, h => h
  | [_], _, _, _, h => by simp [decodePairs] at h
  | x :: y :: rest, i, r, hg, h => by
    simp only [List.map_cons, decodePairs] at h ⊢
    rw [hg x (by simp), hg y (by simp)]
    cases hx : nibble? (g' x) with
    | none => simp [hx] at h
    | some a =>
      cases hy : nibble? (g' y) with
      | none => simp [hx, hy] at h
      | some b =>
        simp only [hx, hy] at h ⊢
        cases hrest : decodePairs (rest.map g') (i + 2) with
        | error e => simp [hrest, Except.map] at h
        | ok r' =>
          rw [decodePairs_map_congr rest (i + 2) (fun z hz => hg z (by simp [hz])) hrest]
          rwa [hrest] at h

/-- A hex digit written as a character. -/
def IsHexChar (c : Char) : Prop := c.toNat < 128 ∧ (nibble? (UInt8.ofNat c.toNat)).isSome

instance : DecidablePred IsHexChar := fun _ => inferInstanceAs (Decidable (_ ∧ _))

theorem flatMap_utf8EncodeChar_of_ascii (cs : List Char) (hcs : ∀ c ∈ cs, c.toNat < 128) :
    cs.flatMap String.utf8EncodeChar = cs.map fun c => UInt8.ofNat c.toNat := by
  induction cs with
  | nil => rfl
  | cons c rest ih =>
    rw [List.flatMap_cons, utf8EncodeChar_of_lt (hcs c (by simp)),
      ih fun c' hc' => hcs c' (by simp [hc'])]
    rfl

theorem isHexChar_of_decode {s : String} {r : List UInt8} (h : decode s = .ok r) :
    ∀ c ∈ s.toList, IsHexChar c := by
  unfold decode decodeBytes at h
  split at h
  · cases h
  have hbytes := isSome_nibble?_of_decodePairs _ 0 h
  rw [toList_toUTF8] at hbytes
  intro c hc
  have hall : ∀ b ∈ String.utf8EncodeChar c, (nibble? b).isSome :=
    fun b hb => hbytes b (List.mem_flatMap.mpr ⟨c, hc, hb⟩)
  have hlt : c.toNat < 128 := lt_of_utf8EncodeChar fun b hb => lt_of_isSome_nibble? (hall b hb)
  refine ⟨hlt, hall _ ?_⟩
  rw [utf8EncodeChar_of_lt hlt]
  exact List.mem_singleton_self _

/-- Changing hex digits into digits of the same value keeps what the text reads as. -/
theorem decode_map_of_hex {s : String} {r : List UInt8} {f : Char → Char}
    (hf : ∀ c, IsHexChar c →
      (f c).toNat < 128 ∧ nibble? (UInt8.ofNat (f c).toNat) = nibble? (UInt8.ofNat c.toNat))
    (h : decode s = .ok r) : decode (String.ofList (s.toList.map f)) = .ok r := by
  have hhex := isHexChar_of_decode h
  unfold decode decodeBytes at h ⊢
  rw [toList_toUTF8, String.toList_ofList, flatMap_utf8EncodeChar_of_ascii _
    (by simpa using fun c hc => (hf c (hhex c hc)).1)]
  rw [toList_toUTF8, flatMap_utf8EncodeChar_of_ascii _ fun c hc => (hhex c hc).1] at h
  simp only [List.map_map, List.length_map] at h ⊢
  split at h
  · cases h
  rw [if_neg ‹_›]
  exact decodePairs_map_congr _ 0 (fun c hc => (hf c (hhex c hc)).2) h

/-- A byte that is an ASCII hex digit of either case. -/
def IsHexByte (b : UInt8) : Prop := (Char.ofNat b.toNat).isHexDigit

instance : DecidablePred IsHexByte := fun _ => inferInstanceAs (Decidable (_ = true))

set_option maxRecDepth 2000 in
theorem isSome_nibble?_iff (b : UInt8) : (nibble? b).isSome ↔ IsHexByte b := by
  have key : ∀ n : Fin 256, (nibble? (UInt8.ofNat n)).isSome = (Char.ofNat n).isHexDigit := by
    decide
  have hlt := b.toNat_lt
  change _ < 256 at hlt
  have hb : (nibble? (UInt8.ofNat b.toNat)).isSome = (Char.ofNat b.toNat).isHexDigit :=
    key ⟨b.toNat, hlt⟩
  rw [UInt8.ofNat_toNat] at hb
  rw [hb]
  rfl

/-- Text that spells the bytes `bs` in hex digits of either case: lower-cased, it is their
canonical hex text. -/
def Spells (t : String) (bs : List UInt8) : Prop :=
  t.toList.map Char.toLower = (encode bs).toList

instance (t : String) (bs : List UInt8) : Decidable (Spells t bs) :=
  inferInstanceAs (Decidable (_ = _))

theorem toList_encode (bs : List UInt8) : (encode bs).toList = bs.flatMap byteDigits :=
  String.toList_ofList

theorem length_flatMap_byteDigits (bs : List UInt8) :
    (bs.flatMap byteDigits).length = 2 * bs.length := by
  induction bs with
  | nil => rfl
  | cons b rest ih =>
    rw [List.flatMap_cons, List.length_append, ih, length_byteDigits, List.length_cons]
    omega

theorem lt_of_nibble? {b : UInt8} {x : Nat} (h : nibble? b = some x) : x < 16 := by
  unfold nibble? at h
  split at h
  · cases h
    omega
  split at h
  · cases h
    omega
  split at h
  · cases h
    omega
  · cases h

theorem nibble?_digit {n : Nat} (h : n < 16) : nibble? (UInt8.ofNat (digit n).toNat) = some n := by
  have key : ∀ m : Fin 16, nibble? (UInt8.ofNat (digit m).toNat) = some m.val := by decide
  exact key ⟨n, h⟩

theorem toNat_digit_lt {n : Nat} (h : n < 16) : (digit n).toNat < 128 := by
  have key : ∀ m : Fin 16, (digit m).toNat < 128 := by decide
  exact key ⟨n, h⟩

theorem ascii_forall {P : Char → Prop} (h : ∀ n, n < 128 → P (Char.ofNat n)) {c : Char}
    (hc : c.toNat < 128) : P c := by
  have hp := h c.toNat hc
  rwa [Char.ofNat_toNat] at hp

/-- An ASCII character with a digit value lower-cases to the canonical digit of that value. -/
theorem toLower_eq_digit {c : Char} {x : Nat} (hc : c.toNat < 128)
    (h : nibble? (UInt8.ofNat c.toNat) = some x) : c.toLower = digit x :=
  @ascii_forall
    (fun c => ∀ x < 16, nibble? (UInt8.ofNat c.toNat) = some x → c.toLower = digit x)
    (by decide) c hc x (lt_of_nibble? h) h

theorem toLower_eq_self_or_ascii (c : Char) : c.toLower = c ∨ c.toNat < 128 := by
  unfold Char.toLower
  split
  · rename_i h
    have hz : c.val.toNat ≤ 90 := UInt32.le_iff_toNat_le.1 h.2
    exact .inr (show c.val.toNat < 128 by omega)
  · exact .inl rfl

theorem nibble?_toLower {c : Char} {x : Nat} (hx : x < 16) (h : c.toLower = digit x) :
    c.toNat < 128 ∧
      nibble? (UInt8.ofNat c.toLower.toNat) = nibble? (UInt8.ofNat c.toNat) := by
  rcases toLower_eq_self_or_ascii c with hself | hascii
  · rw [hself] at h ⊢
    exact ⟨h ▸ toNat_digit_lt hx, rfl⟩
  · exact ⟨hascii, @ascii_forall (fun c => nibble? (UInt8.ofNat c.toLower.toNat) =
      nibble? (UInt8.ofNat c.toNat)) (by decide) c hascii⟩

theorem byteDigits_ofNat {x y : Nat} (hx : x < 16) (hy : y < 16) :
    byteDigits (UInt8.ofNat (16 * x + y)) = [digit x, digit y] := by
  have hval : (UInt8.ofNat (16 * x + y)).toNat = 16 * x + y :=
    UInt8.toNat_ofNat_of_lt' (by change _ < 256; omega)
  have hhigh : (16 * x + y) / 16 = x := by omega
  have hlow : (16 * x + y) % 16 = y := by omega
  rw [byteDigits, hval, hhigh, hlow]

theorem decodePairs_byteDigits (bs : List UInt8) (i : Nat) :
    decodePairs ((bs.flatMap byteDigits).map fun c => UInt8.ofNat c.toNat) i = .ok bs := by
  induction bs generalizing i with
  | nil => rfl
  | cons b rest ih =>
    have hb := b.toNat_lt
    change _ < 256 at hb
    have hbyte : UInt8.ofNat (16 * (b.toNat / 16) + b.toNat % 16) = b := by
      rw [Nat.div_add_mod, UInt8.ofNat_toNat]
    simp only [List.flatMap_cons, byteDigits, List.map_cons, List.cons_append, List.nil_append,
      decodePairs, nibble?_digit (show b.toNat / 16 < 16 by omega),
      nibble?_digit (show b.toNat % 16 < 16 by omega), ih, hbyte]
    rfl

/-- ASCII text whose bytes read as `r` is, lower-cased, the canonical digits of `r`. -/
theorem map_toLower_of_decodePairs :
    ∀ (cs : List Char) (i : Nat) {r : List UInt8}, (∀ c ∈ cs, c.toNat < 128) →
      decodePairs (cs.map fun c => UInt8.ofNat c.toNat) i = .ok r →
      cs.map Char.toLower = r.flatMap byteDigits
  | [], _, r, _, h => by
    cases h
    rfl
  | [_], _, _, _, h => by simp [decodePairs] at h
  | a :: b :: rest, i, r, hascii, h => by
    simp only [List.map_cons, decodePairs] at h
    cases ha : nibble? (UInt8.ofNat a.toNat) with
    | none => simp [ha] at h
    | some x =>
      cases hb : nibble? (UInt8.ofNat b.toNat) with
      | none => simp [ha, hb] at h
      | some y =>
        simp only [ha, hb] at h
        cases hrest : decodePairs (rest.map fun c => UInt8.ofNat c.toNat) (i + 2) with
        | error e => simp [hrest, Except.map] at h
        | ok r' =>
          simp only [hrest, Except.map, Except.ok.injEq] at h
          subst h
          have hrest' := map_toLower_of_decodePairs rest (i + 2)
            (fun c hc => hascii c (by simp [hc])) hrest
          rw [List.map_cons, List.map_cons, List.flatMap_cons,
            byteDigits_ofNat (lt_of_nibble? ha) (lt_of_nibble? hb), hrest',
            toLower_eq_digit (hascii a (by simp)) ha, toLower_eq_digit (hascii b (by simp)) hb]
          rfl

theorem spells_of_decode {t : String} {bs : List UInt8} (h : decode t = .ok bs) : Spells t bs := by
  have hascii : ∀ c ∈ t.toList, c.toNat < 128 := fun c hc => (isHexChar_of_decode h c hc).1
  unfold decode decodeBytes at h
  rw [toList_toUTF8, flatMap_utf8EncodeChar_of_ascii _ hascii] at h
  split at h
  · cases h
  rw [Spells, toList_encode]
  exact map_toLower_of_decodePairs _ 0 hascii h

theorem nibble?_of_spells {t : String} {bs : List UInt8} (h : Spells t bs) :
    ∀ c ∈ t.toList, c.toNat < 128 ∧
      nibble? (UInt8.ofNat c.toLower.toNat) = nibble? (UInt8.ofNat c.toNat) := by
  intro c hc
  rw [Spells, toList_encode] at h
  have hmem : c.toLower ∈ bs.flatMap byteDigits := h ▸ List.mem_map_of_mem hc
  obtain ⟨b, -, hb⟩ := List.mem_flatMap.1 hmem
  have hlt := b.toNat_lt
  change _ < 256 at hlt
  simp only [byteDigits, List.mem_cons, List.mem_nil_iff, or_false] at hb
  rcases hb with hb | hb
  · exact nibble?_toLower (by omega) hb
  · exact nibble?_toLower (by omega) hb

theorem decode_of_spells {t : String} {bs : List UInt8} (h : Spells t bs) : decode t = .ok bs := by
  have hdigit := nibble?_of_spells h
  rw [Spells, toList_encode] at h
  have hlen : t.toList.length = 2 * bs.length := by
    rw [← length_flatMap_byteDigits, ← h, List.length_map]
  unfold decode decodeBytes
  rw [toList_toUTF8, flatMap_utf8EncodeChar_of_ascii _ fun c hc => (hdigit c hc).1,
    List.length_map, hlen, if_neg (by omega)]
  -- the text reads as its lower case does, which is the canonical text of `bs`
  refine @decodePairs_map_congr Char _ (fun c => UInt8.ofNat c.toLower.toNat) t.toList 0 bs
    (fun c hc => (hdigit c hc).2.symm) ?_
  have hmap : t.toList.map (fun c => UInt8.ofNat c.toLower.toNat) =
      (bs.flatMap byteDigits).map fun c => UInt8.ofNat c.toNat := by
    rw [← h, List.map_map]
    rfl
  rw [hmap]
  exact decodePairs_byteDigits bs 0

/-- Reading accepts exactly the text that spells the bytes it reads. -/
theorem decode_eq_ok_iff {t : String} {bs : List UInt8} : decode t = .ok bs ↔ Spells t bs :=
  ⟨spells_of_decode, decode_of_spells⟩

theorem decodePairs_of_bad :
    ∀ (pre : List UInt8) {b : UInt8} {post : List UInt8} (i : Nat),
      (pre.length + post.length) % 2 = 1 → (∀ a ∈ pre, (nibble? a).isSome) →
      nibble? b = none → decodePairs (pre ++ b :: post) i = .error (.badDigit b (i + pre.length))
  | [], b, post, i, hodd, _, hb => by
    cases post with
    | nil => simp at hodd
    | cons c post => simp [decodePairs, hb]
  | [a], b, post, i, _, hpre, hb => by
    obtain ⟨x, hx⟩ := Option.isSome_iff_exists.1 (hpre a (by simp))
    simp [decodePairs, hx, hb]
  | a :: a' :: pre, b, post, i, hodd, hpre, hb => by
    obtain ⟨x, hx⟩ := Option.isSome_iff_exists.1 (hpre a (by simp))
    obtain ⟨y, hy⟩ := Option.isSome_iff_exists.1 (hpre a' (by simp))
    have hodd' : (pre.length + post.length) % 2 = 1 := by
      simp only [List.length_cons] at hodd
      omega
    have hrest := @decodePairs_of_bad pre b post (i + 2) hodd'
      (fun c hc => hpre c (by simp [hc])) hb
    simp only [List.cons_append, decodePairs, hx, hy, hrest, Except.map, List.length_cons]
    congr 2
    omega

theorem decodePairs_of_hex :
    ∀ (bs : List UInt8) (i : Nat), bs.length % 2 = 0 → (∀ a ∈ bs, (nibble? a).isSome) →
      ∃ r, decodePairs bs i = .ok r ∧ r.length = bs.length / 2
  | [], _, _, _ => ⟨[], rfl, rfl⟩
  | [_], _, h, _ => by simp at h
  | a :: a' :: rest, i, heven, hall => by
    obtain ⟨x, hx⟩ := Option.isSome_iff_exists.1 (hall a (by simp))
    obtain ⟨y, hy⟩ := Option.isSome_iff_exists.1 (hall a' (by simp))
    obtain ⟨r, hr, hlen⟩ := decodePairs_of_hex rest (i + 2) (by simp at heven; omega)
      (fun c hc => hall c (by simp [hc]))
    refine ⟨UInt8.ofNat (16 * x + y) :: r, by simp [decodePairs, hx, hy, hr, Except.map], ?_⟩
    simp only [List.length_cons, hlen]
    omega

theorem decode_of_odd {t : String} (h : t.toUTF8.toList.length % 2 = 1) :
    decode t = .error .oddLength := by
  unfold decode decodeBytes
  rw [if_pos h]

/-- Text of an even number of bytes is refused for its first byte that is no hex digit. -/
theorem decode_of_bad {t : String} {pre post : List UInt8} {b : UInt8}
    (heven : t.toUTF8.toList.length % 2 = 0) (ht : t.toUTF8.toList = pre ++ b :: post)
    (hpre : ∀ a ∈ pre, IsHexByte a) (hb : ¬ IsHexByte b) :
    decode t = .error (.badDigit b pre.length) := by
  have hodd : (pre.length + post.length) % 2 = 1 := by
    rw [ht] at heven
    simp only [List.length_append, List.length_cons] at heven
    omega
  have hnone : nibble? b = none := by
    rw [← Option.not_isSome_iff_eq_none, isSome_nibble?_iff]
    exact hb
  unfold decode decodeBytes
  rw [if_neg (by omega), ht,
    decodePairs_of_bad pre 0 hodd (fun a ha => (isSome_nibble?_iff a).2 (hpre a ha)) hnone,
    Nat.zero_add]

/-- Text of an even number of hex digits reads as half as many bytes. -/
theorem decode_of_hex {t : String} (heven : t.toUTF8.toList.length % 2 = 0)
    (hall : ∀ a ∈ t.toUTF8.toList, IsHexByte a) :
    ∃ r, decode t = .ok r ∧ r.length = t.toUTF8.toList.length / 2 := by
  unfold decode decodeBytes
  rw [if_neg (by omega)]
  exact decodePairs_of_hex _ 0 heven fun a ha => (isSome_nibble?_iff a).2 (hall a ha)

end RollupTx.Hex
