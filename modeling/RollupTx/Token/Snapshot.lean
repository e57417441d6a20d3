import RollupTx.Json.Reader
import RollupTx.Token.Registry

/-!
# Registry snapshots

A registry is read from a JSON snapshot: either a list of tokens, or an object whose
`tokens` field is that list (other fields are ignored). A token is an object with the fields
`address`, `id`, `symbol` and `decimals`, each exactly once and others ignored, or a list of
those four values in that order. The id is a natural below `2 ^ 64`, the decimals one below
256. A syntax error is reported with its place; a document of any other shape is refused as
a whole, before anything after the value is looked at.
-/

namespace RollupTx.Snapshot

/-- The text for a well-formed document that is no snapshot. -/
def shapeMismatch : String := "data did not match any variant of untagged enum Snapshot"

def stringOf? : Json → Option String
  | .str s => some s
  | _ => none

/-- A natural number value below `bound`. -/
def natOf? (bound : Nat) : Json → Option Nat
  | .num (.nat n) => if n < bound then some n else none
  | _ => none

/-- A token from its four values in field order. -/
def tokenOfParts (address id symbol decimals : Json) : Option Token := do
  return ⟨← stringOf? address, ← natOf? (2 ^ 64) id, ← stringOf? symbol, ← natOf? 256 decimals⟩

/-- The value of a field that occurs exactly once. -/
def fieldOnce? (fields : List (String × Json)) (k : String) : Option Json :=
  match fields.filter (·.1 == k) with
  | [(_, v)] => some v
  | _ => none

/-- A token written as an object or as a list of four values. -/
def tokenOf? : Json → Option Token
  | .obj fields => do
    tokenOfParts (← fieldOnce? fields "address") (← fieldOnce? fields "id")
      (← fieldOnce? fields "symbol") (← fieldOnce? fields "decimals")
  | .arr [a, i, s, d] => tokenOfParts a i s d
  | _ => none

def tokenListOf? : Json → Option (List Token)
  | .arr xs => xs.mapM tokenOf?
  | _ => none

/-- The tokens of a snapshot: a bare list, or an object with a `tokens` list. -/
def tokensOf? (j : Json) : Option (List Token) :=
  match tokenListOf? j with
  | some ts => some ts
  | none => match j with
    | .obj fields => fieldOnce? fields "tokens" >>= tokenListOf?
    | _ => none

end Snapshot

/-- Read a registry from snapshot text. -/
def Registry.ofJson (s : String) : Except EncodeError Registry :=
  match Json.readPrefix s with
  | .error e => .error (.registry (e.message s))
  | .ok (j, c) =>
    match Snapshot.tokensOf? j with
    | none => .error (.registry Snapshot.shapeMismatch)
    | some ts =>
      match Json.finish c with
      | .error e => .error (.registry (e.message s))
      | .ok () => .ok ⟨ts⟩

end RollupTx
