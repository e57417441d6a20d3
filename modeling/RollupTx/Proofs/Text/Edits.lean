import Mathlib
import RollupTx.Text.Lower

/-!
# Replacing and lower-casing text

Two edits a wallet message makes to what it shows. Replacing every occurrence of a pattern is
a fold over the steps of a forward search: a match gives the replacement and a stretch without
one is kept. The search takes the longest match at the first position where the pattern
matches, so a text in which the pattern never occurs comes back unchanged, and a text that
starts with the pattern and has it nowhere else loses exactly that occurrence
(`replace_pattern_append`). Lower-casing a text of ASCII characters maps each character by the
ASCII rule alone (`toList_lower_of_ascii`), so it lower-cases the parts of a text apart.
-/

namespace RollupTx.Text

section Replace

open String.Slice.Pattern Model

/-- One step of replacing every match in `s` by `r`: a match gives `r`, a stretch without
one is kept. -/
def replaceStep (s : String.Slice) (r : String) : String → SearchStep s → String
  | sofar, .matched _ _ => sofar ++ r
  | sofar, .rejected start stop => sofar ++ s.slice! start stop

theorem replace_eq_foldl (s pat r : String) :
    s.replace pat r =
      (ToForwardSearcher.toSearcher pat s.toSlice).toList.foldl (replaceStep s.toSlice r) "" := by
  rw [Std.Iter.foldl_toList, String.replace, String.Slice.replace]
  congr 1
  funext sofar step
  cases step with
  | matched => exact congrArg (sofar ++ ·) String.copy_toSlice
  | rejected => rfl

theorem copy_slice_append_copy_sliceFrom {s : String.Slice} {a b : s.Pos} (h : a ≤ b) :
    (s.slice a b h).copy ++ (s.sliceFrom b).copy = (s.sliceFrom a).copy := by
  have hthree : s.copy = (s.sliceTo a).copy ++ (s.slice a b h).copy ++ (s.sliceFrom b).copy :=
    String.Slice.copy_eq_copy_slice
  have htwo : s.copy = (s.sliceTo a).copy ++ (s.sliceFrom a).copy :=
    String.Slice.copy_eq_copy_sliceTo
  rw [htwo, String.append_assoc] at hthree
  exact ((String.append_right_inj _).mp hthree).symm

theorem foldl_replaceStep_of_no_match {pat r acc : String} {s : String.Slice} {pos : s.Pos}
    {l : List (SearchStep s)} (hl : IsValidSearchFrom pat pos l)
    (hno : ∀ p, pos ≤ p → ¬ MatchesAt pat p) :
    l.foldl (replaceStep s r) acc = acc ++ (s.sliceFrom pos).copy := by
  induction hl generalizing acc with
  | endPos => simp [String.Slice.copy_sliceFrom_endPos]
  | matched hm _ _ => exact absurd hm.matchesAt (hno _ (Std.le_refl _))
  | mismatched hlt _ _ ih =>
    rw [List.foldl_cons, ih (fun p hp => hno p (Std.le_trans (Std.le_of_lt hlt) hp)), replaceStep]
    show acc ++ (s.slice! _ _).copy ++ _ = _
    rw [← String.Slice.slice_eq_slice! (h := Std.le_of_lt hlt), String.append_assoc,
      copy_slice_append_copy_sliceFrom]

/-- A valid search from a position where the pattern matches takes that match first. -/
theorem search_starts_with_match {pat : String} (hpat : pat ≠ "") {s : String.Slice}
    {pos : s.Pos} {l : List (SearchStep s)} (hl : IsValidSearchFrom pat pos l)
    (hm : MatchesAt pat pos) :
    ∃ stop l', l = .matched pos stop :: l' ∧ IsLongestMatchAt pat pos stop ∧
      IsValidSearchFrom pat stop l' := by
  have := ForwardStringSearcher.strictPatternModel hpat
  cases hl with
  | endPos => exact absurd hm not_matchesAt_endPos
  | matched hlong hrest => exact ⟨_, _, rfl, hlong, hrest⟩
  | mismatched hlt hrej _ => exact absurd hm (hrej _ (Std.le_refl _) hlt)

theorem not_matchesAt_of_absent {pat : String} {s : String.Slice}
    (h : ∀ t₁ t₂, s.copy ≠ t₁ ++ pat ++ t₂) (p : s.Pos) : ¬ MatchesAt pat p := by
  intro hm
  obtain ⟨t₁, t₂, heq⟩ := ForwardStringSearcher.exists_matchesAt_iff_eq_append.mp ⟨p, hm⟩
  exact h t₁ t₂ heq

theorem replace_of_absent {s pat r : String} (hpat : pat ≠ "")
    (h : ∀ t₁ t₂, s ≠ t₁ ++ pat ++ t₂) : s.replace pat r = s := by
  have hvalid := (ForwardStringSearcher.lawfulToForwardSearcherModel hpat).isValidSearchFrom_toList
    s.toSlice
  rw [replace_eq_foldl, foldl_replaceStep_of_no_match hvalid fun p _ => not_matchesAt_of_absent
    (by simpa only [String.copy_toSlice] using h) p]
  simp

/-- A text that starts with the pattern, and has no other occurrence of it, loses exactly
that occurrence. -/
theorem replace_pattern_append {pat t r : String} (hpat : pat ≠ "")
    (h : ∀ t₁ t₂, t ≠ t₁ ++ pat ++ t₂) : (pat ++ t).replace pat r = r ++ t := by
  let s := (pat ++ t).toSlice
  have hvalid := (ForwardStringSearcher.lawfulToForwardSearcherModel hpat).isValidSearchFrom_toList s
  have hstart : MatchesAt pat s.startPos := by
    have hsplit := s.splits_startPos
    rw [show s.copy = pat ++ t from String.copy_toSlice] at hsplit
    exact ForwardStringSearcher.matchesAt_iff_splits.mpr ⟨"", t, hsplit⟩
  obtain ⟨stop, l', hl, hlong, hrest⟩ := search_starts_with_match hpat hvalid hstart
  obtain ⟨t₁, t₂, hsplit₁, hsplit₂⟩ := ForwardStringSearcher.isLongestMatchAt_iff_splits.mp hlong
  have ht₁ : t₁ = "" := (hsplit₁.eq_startPos_iff).mp rfl
  subst ht₁
  have ht₂ : t₂ = t := by
    have happ := hsplit₂.eq_append
    rw [show s.copy = pat ++ t from String.copy_toSlice, String.empty_append] at happ
    exact ((String.append_right_inj pat).mp happ).symm
  have hrest_copy : (s.sliceFrom stop).copy = t := ht₂ ▸ hsplit₂.copy_sliceFrom_eq
  have hno : ∀ p, stop ≤ p → ¬ MatchesAt pat p := by
    intro p hp hm
    have hm' : MatchesAt pat (stop.sliceFrom p hp) := by
      rw [matchesAt_iff_matchesAt_ofSliceFrom, String.Slice.Pos.ofSliceFrom_sliceFrom]
      exact hm
    exact not_matchesAt_of_absent (by rwa [hrest_copy]) _ hm'
  rw [replace_eq_foldl, hl, List.foldl_cons, foldl_replaceStep_of_no_match hrest hno, hrest_copy]
  simp [replaceStep]

end Replace

/-- The lower case of a character by the ASCII rule of `lowerCode`. -/
def lowerAscii (c : Char) : Char := Char.ofNat (lowerCode c.toNat)

theorem lowerCode_lt {n : Nat} (h : n < 128) : lowerCode n < 128 := by
  rw [lowerCode, if_pos h]
  split <;> omega

theorem toNat_ofNat_of_lt {n : Nat} (h : n < 128) : (Char.ofNat n).toNat = n := by
  simp [Char.ofNat, Char.ofNatAux, Char.toNat, show n.isValidChar from Or.inl (by omega)]

theorem toNat_lowerAscii {c : Char} (h : c.toNat < 128) :
    (lowerAscii c).toNat = lowerCode c.toNat :=
  toNat_ofNat_of_lt (lowerCode_lt h)

theorem lowerFrom_of_ascii (cs : List Char) (hcs : ∀ c ∈ cs, c.toNat < 128) (before : List Char) :
    lowerFrom before cs = cs.map lowerAscii := by
  induction cs generalizing before with
  | nil => rfl
  | cons c rest ih =>
    have hc := hcs c (by simp)
    have hsigma : c ≠ 'Σ' := by
      rintro rfl
      simp at hc
    have hdot : c.toNat ≠ 0x130 := by omega
    rw [lowerFrom, if_neg hsigma, lowerChar, if_neg hdot,
      ih (fun c' hc' => hcs c' (by simp [hc'])), List.map_cons, List.singleton_append]
    rfl

theorem toList_lower_of_ascii {s : String} (hs : ∀ c ∈ s.toList, c.toNat < 128) :
    (lower s).toList = s.toList.map lowerAscii := by
  rw [lower, String.toList_ofList, lowerFrom_of_ascii _ hs]

theorem lower_append_of_ascii {s t : String} (hs : ∀ c ∈ s.toList, c.toNat < 128)
    (ht : ∀ c ∈ t.toList, c.toNat < 128) : lower (s ++ t) = lower s ++ lower t := by
  have hst : ∀ c ∈ (s ++ t).toList, c.toNat < 128 := by
    simp only [String.toList_append, List.mem_append]
    rintro c (hc | hc)
    · exact hs c hc
    · exact ht c hc
  apply String.toList_injective
  rw [String.toList_append, toList_lower_of_ascii hst, toList_lower_of_ascii hs,
    toList_lower_of_ascii ht, String.toList_append, List.map_append]

end RollupTx.Text
