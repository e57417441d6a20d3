import RollupTx.Text.Printable

/-!
# Developer forms

The form in which a value is shown to a developer: a record `Name { field: value, … }`,
possibly marked as showing only some fields (`, ..`), a wrapper `Name(value)`, a list
`[a, b]`, a quoted string, or plain text such as a number or a bare name.
-/

namespace RollupTx

/-- A value as shown to a developer. -/
inductive DebugForm
  /-- Text shown as it is: a number or a bare name. -/
  | plain (s : String)
  /-- A string, shown quoted. -/
  | text (s : String)
  /-- A record; `partial` marks that some fields are left out. -/
  | record (name : String) (fields : List (String × DebugForm)) (partial_ : Bool)
  /-- A named wrapper of one value, such as `Some(3)`. -/
  | wrap (name : String) (inner : DebugForm)
  /-- A list of values. -/
  | list (items : List DebugForm)

namespace DebugForm

def nat (n : Nat) : DebugForm := .plain (toString n)

/-- An optional value: `None` or `Some(…)`. -/
def option {α : Type} (f : α → DebugForm) : Option α → DebugForm
  | some a => .wrap "Some" (f a)
  | none => .plain "None"

/-- Bytes as a list of decimal numbers. -/
def bytes (bs : List UInt8) : DebugForm := .list (bs.map fun b => nat b.toNat)

mutual

def render : DebugForm → String
  | .plain s => s
  | .text s => Text.quoteString s
  | .record name fields more =>
    name ++ " \x7b " ++ renderFields fields ++ (if more then ", .." else "") ++ " \x7d"
  | .wrap name inner => name ++ "(" ++ render inner ++ ")"
  | .list items => "[" ++ renderItems items ++ "]"

def renderFields : List (String × DebugForm) → String
  | [] => ""
  | [(k, v)] => k ++ ": " ++ render v
  | (k, v) :: rest => k ++ ": " ++ render v ++ ", " ++ renderFields rest

def renderItems : List DebugForm → String
  | [] => ""
  | [v] => render v
  | v :: rest => render v ++ ", " ++ renderItems rest

end

end DebugForm

end RollupTx
