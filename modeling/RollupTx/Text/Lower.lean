import RollupTx.Text.CaseTable

/-!
# Lower case

Full Unicode lower-casing of text. Each character maps through the simple lower-case table,
except two: the dotted capital I becomes `i` followed by a combining dot above, and a
capital sigma becomes a final `ς` when it ends a word (a cased character before it and
none after it, skipping case-ignorable characters both ways) and `σ` otherwise. ASCII maps
by the ASCII rule alone.
-/

namespace RollupTx.Text

/-- The code point a character lower-cases to by the simple mapping. -/
def lowerCode (n : Nat) : Nat :=
  if n < 0x80 then (if 0x41 ≤ n ∧ n ≤ 0x5A then n + 32 else n)
  else match lowerRuns.find? (·.covers n) with
    | some r => (n + r.delta).toNat
    | none => n

/-- Whether a character is skipped in the search for a cased neighbour. -/
def isCaseIgnorable (c : Char) : Bool :=
  inRanges caseIgnorableRanges c.toNat

/-- Whether a character is cased (and not ignorable). -/
def isCased (c : Char) : Bool :=
  inRanges casedRanges c.toNat

/-- Whether the first character that is not ignorable is cased. -/
def casedAhead (cs : List Char) : Bool :=
  match cs.dropWhile isCaseIgnorable with
  | c :: _ => isCased c
  | [] => false

/-- The lower case of a capital sigma between `before` (nearest first) and `after`. -/
def lowerSigma (before after : List Char) : Char :=
  if casedAhead before && !casedAhead after then 'ς' else 'σ'

/-- The lower case of one character away from a capital sigma's context. -/
def lowerChar (c : Char) : List Char :=
  if c.toNat = 0x130 then ['i', Char.ofNat 0x307]
  else [Char.ofNat (lowerCode c.toNat)]

/-- Lower-cases `cs`; `before` holds the characters already passed, nearest first. -/
def lowerFrom : List Char → List Char → List Char
  | _, [] => []
  | before, c :: rest =>
    (if c = 'Σ' then [lowerSigma before rest] else lowerChar c) ++ lowerFrom (c :: before) rest

/-- Full lower case of a text. -/
def lower (s : String) : String :=
  String.ofList (lowerFrom [] s.toList)

end RollupTx.Text
