import RollupTx.Proofs.Amount.DecimalGrammar
import RollupTx.Tx.Basic

/-!
# Ratio text

The price of an order is read from two texts, the sold part first. In whole tokens each part goes
through its token's decimal reader; in base units each part must be, once trimmed, a nonempty run
of ASCII digits below `2 ^ 256` (`BaseUnitText`). Either way the ratio keeps the two values as
read, unreduced, and a refused sold part is reported whatever the bought part holds.

The two units agree on digit text: a part read as `n` base units reads as `n * 10 ^ d` in whole
tokens of `d` decimals while that stays below `2 ^ 256`, and is refused as too large otherwise
(`Token.fromDecimal_of_baseUnits`). `Ratio.parse_exact_and_units_agree` collects these.
-/

namespace RollupTx

open Decimal

/-- Trimmed text that is a whole number `n` of base units: a nonempty run of ASCII digits worth
`n`, below `2 ^ 256`. -/
def BaseUnitText (t : String) (n : Nat) : Prop :=
  t.toList ≠ [] ∧ (∀ c ∈ t.toList, c.isDigit) ∧ digitsValue t.toList = n ∧ n < 2 ^ 256

instance (t : String) (n : Nat) : Decidable (BaseUnitText t n) :=
  decidable_of_iff
    (t.toList ≠ [] ∧ t.toList.all Char.isDigit ∧ digitsValue t.toList = n ∧ n < 2 ^ 256)
    (by simp [BaseUnitText, List.all_eq_true])

theorem wholeCheck_eq_false_iff {cs : List Char} :
    (cs.isEmpty || !allDigits cs) = false ↔ cs ≠ [] ∧ ∀ c ∈ cs, c.isDigit := by
  simp [allDigits_iff]

/-- Whole numbers of base units are read exactly: a trimmed nonempty digit run below `2 ^ 256`. -/
theorem Decimal.parseWhole_eq_ok_iff {s : String} {n : Nat} :
    parseWhole s = .ok n ↔ BaseUnitText (trim s) n := by
  rw [BaseUnitText, trim, String.toList_ofList, parseWhole]
  by_cases hdig : trimWhite s.toList ≠ [] ∧ ∀ c ∈ trimWhite s.toList, c.isDigit
  · rw [wholeCheck_eq_false_iff.2 hdig, if_neg Bool.false_ne_true, boundedValue_eq, wordLimit]
    by_cases hlt : digitsValue (trimWhite s.toList) < 2 ^ 256
    · rw [if_pos hlt, Except.ok.injEq]
      exact ⟨fun h => ⟨hdig.1, hdig.2, h, h ▸ hlt⟩, fun h => h.2.2.1⟩
    · rw [if_neg hlt]
      exact ⟨(fun h => by cases h), fun h => absurd (h.2.2.1 ▸ h.2.2.2) hlt⟩
  · have hcheck : (List.isEmpty (trimWhite s.toList) || !allDigits (trimWhite s.toList)) = true :=
      Bool.not_eq_false _ ▸ mt wholeCheck_eq_false_iff.1 hdig
    rw [hcheck, if_pos rfl]
    exact ⟨(fun h => by cases h), fun h => absurd ⟨h.1, h.2.1⟩ hdig⟩

theorem Ratio.parseBaseUnits_eq_ok_iff {s : String} {n : Nat} :
    Ratio.parseBaseUnits s = .ok n ↔ BaseUnitText (trim s) n := by
  rw [← Decimal.parseWhole_eq_ok_iff]
  unfold Ratio.parseBaseUnits
  rcases parseWhole s with e | v
  · cases e <;> simp
  · simp

/-- Digit text read in whole tokens is its base units scaled by the token's decimals, refused as
too large once that reaches `2 ^ 256`. -/
theorem Token.fromDecimal_of_baseUnits (tok : Token) {s : String} {n : Nat}
    (h : BaseUnitText (trim s) n) :
    tok.fromDecimal s =
      if n * 10 ^ tok.decimals < 2 ^ 256 then .ok (n * 10 ^ tok.decimals)
      else .error (.format "decimal amount" .tooLarge) := by
  obtain ⟨hne, hdig, rfl, -⟩ := h
  have hsplit : PointSplit (trim s).toList (trim s).toList [] :=
    ⟨point_not_mem (allDigits_iff.2 hdig), .inr ⟨rfl, rfl⟩⟩
  have hsyn : DecimalSyntax (trim s).toList [] := ⟨.inl hne, hdig, by simp⟩
  have hscaled : digitsValue (scaledDigits tok.decimals (trim s).toList []) =
      digitsValue (trim s).toList * 10 ^ tok.decimals := by
    simp [scaledDigits, dropTrailingZeros, digitsValue_append]
  have hfit : ¬ tok.decimals < (dropTrailingZeros []).length := by simp [dropTrailingZeros]
  rw [tok.fromDecimal_eq hsplit, if_neg (not_not.2 hsyn), if_neg hfit, hscaled, wordLimit]

/-- Reading both parts in turn succeeds exactly when each part does, and keeps both values. -/
theorem Ratio.mk_bind_eq_ok_iff {x y : Except EncodeError Nat} {n d : Nat} :
    (do return Ratio.mk (← x) (← y)) = .ok ⟨n, d⟩ ↔ x = .ok n ∧ y = .ok d := by
  cases x <;> cases y <;> simp [bind, Except.bind, pure, Except.pure]

theorem Ratio.mk_bind_of_error {x y : Except EncodeError Nat} {e : EncodeError} (h : x = .error e) :
    (do return Ratio.mk (← x) (← y)) = .error e := by
  subst h
  rfl

/-- The ratio text of an order. In whole tokens the parts are read by the sold and the bought
token's decimal readers; in base units they are trimmed nonempty digit runs below `2 ^ 256`; the
values are kept as read and a refused sold part is reported first. A ratio read in base units
reads in whole tokens as its parts scaled by the tokens' decimals, or is refused as too large when
a scaled part reaches `2 ^ 256`. -/
theorem Ratio.parse_exact_and_units_agree (sell buy : Token) (p q : String) :
    (∀ n d, Ratio.parse .token sell buy p q = .ok ⟨n, d⟩ ↔
      sell.fromDecimal p = .ok n ∧ buy.fromDecimal q = .ok d) ∧
    (∀ n d, Ratio.parse .wei sell buy p q = .ok ⟨n, d⟩ ↔
      BaseUnitText (trim p) n ∧ BaseUnitText (trim q) d) ∧
    (∀ e, sell.fromDecimal p = .error e → Ratio.parse .token sell buy p q = .error e) ∧
    (∀ e, Ratio.parseBaseUnits p = .error e → Ratio.parse .wei sell buy p q = .error e) ∧
    (∀ n d, Ratio.parse .wei sell buy p q = .ok ⟨n, d⟩ →
      Ratio.parse .token sell buy p q =
        if n * 10 ^ sell.decimals < 2 ^ 256 ∧ d * 10 ^ buy.decimals < 2 ^ 256 then
          .ok ⟨n * 10 ^ sell.decimals, d * 10 ^ buy.decimals⟩
        else .error (.format "decimal amount" .tooLarge)) := by
  have hwei : ∀ n d, Ratio.parse .wei sell buy p q = .ok ⟨n, d⟩ ↔
      BaseUnitText (trim p) n ∧ BaseUnitText (trim q) d := by
    intro n d
    rw [← Ratio.parseBaseUnits_eq_ok_iff, ← Ratio.parseBaseUnits_eq_ok_iff]
    exact Ratio.mk_bind_eq_ok_iff
  refine ⟨fun n d => Ratio.mk_bind_eq_ok_iff, hwei, fun e h => Ratio.mk_bind_of_error h,
    fun e h => Ratio.mk_bind_of_error h, ?_⟩
  intro n d h
  obtain ⟨hp, hq⟩ := (hwei n d).1 h
  show (do return Ratio.mk (← sell.fromDecimal p) (← buy.fromDecimal q)) = _
  rw [sell.fromDecimal_of_baseUnits hp, buy.fromDecimal_of_baseUnits hq]
  by_cases hn : n * 10 ^ sell.decimals < 2 ^ 256 <;> by_cases hd : d * 10 ^ buy.decimals < 2 ^ 256
  all_goals simp only [hn, hd, if_true, if_false, and_true, and_false]
  all_goals rfl

/-- Two and four base units stay `2:4`, unreduced, and read in whole ether they scale to
`2 * 10 ^ 18 : 4 * 10 ^ 18`. -/
theorem Ratio.base_units_scale_to_whole_tokens :
    Ratio.parse .wei Token.eth Token.eth " 2 " "4" = .ok ⟨2, 4⟩ ∧
      Ratio.parse .token Token.eth Token.eth " 2 " "4" = .ok ⟨2 * 10 ^ 18, 4 * 10 ^ 18⟩ := by
  obtain ⟨-, hwei, -, -, hscale⟩ :=
    Ratio.parse_exact_and_units_agree Token.eth Token.eth " 2 " "4"
  have hbase : Ratio.parse .wei Token.eth Token.eth " 2 " "4" = .ok ⟨2, 4⟩ :=
    (hwei 2 4).2 ⟨by decide +kernel, by decide +kernel⟩
  refine ⟨hbase, ?_⟩
  rw [hscale 2 4 hbase, if_pos (by decide +kernel)]
  rfl

end RollupTx
