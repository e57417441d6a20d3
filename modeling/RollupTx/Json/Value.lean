import RollupTx.Float.Shortest
import RollupTx.Text.Printable

/-!
# JSON values

The documents this library reads (registry snapshots) and writes (transport dictionaries).
Objects keep their fields in order, repeats included, as a reader meets them. A number
keeps what reading decides: a natural below `2 ^ 64`, a negative integer not below
`-2 ^ 63`, or any other number, which a reader takes as a binary64 value. The derived
equality test does not reach through the lists of a value, so it is written out: constructor by
constructor, item by item and field by field.

When a typed reading of a document meets a value of the wrong kind, its message names the value:
`null`, a boolean, an integer or a floating-point number with its text between backquotes, a
string quoted with escapes, or just `sequence` or `map` for containers. Floating-point values are
written in their shortest form with `FloatLayout.json`.
-/

namespace RollupTx

/-- The three kinds of JSON number a reader tells apart. -/
inductive JsonNumber
  /-- A natural number below `2 ^ 64`. -/
  | nat (n : Nat)
  /-- A negative integer not below `-2 ^ 63`. -/
  | negative (n : Int)
  /-- Any other number, as the binary64 value a reader computes for it: a fraction, an
  exponent, `-0` or an integer out of range. -/
  | float (value : Binary64)
  deriving DecidableEq, Repr

/-- A JSON document. -/
inductive Json
  | null
  | bool (b : Bool)
  | num (n : JsonNumber)
  | str (s : String)
  | arr (items : List Json)
  | obj (fields : List (String × Json))
  deriving Repr, Inhabited

namespace Json

def ofNat (n : Nat) : Json := .num (.nat n)

/-- An optional value, `null` when absent. -/
def ofOption {α : Type} (f : α → Json) : Option α → Json
  | some a => f a
  | none => .null

mutual

/-- Whether two values are the same. -/
def beq : Json → Json → Bool
  | .null, .null => true
  | .bool a, .bool b => a == b
  | .num a, .num b => decide (a = b)
  | .str a, .str b => a == b
  | .arr as, .arr bs => beqItems as bs
  | .obj as, .obj bs => beqFields as bs
  | _, _ => false

/-- Whether two lists of values are the same, item by item. -/
def beqItems : List Json → List Json → Bool
  | [], [] => true
  | a :: as, b :: bs => beq a b && beqItems as bs
  | _, _ => false

/-- Whether two lists of fields are the same, key and value one after the other. -/
def beqFields : List (String × Json) → List (String × Json) → Bool
  | [], [] => true
  | (k, a) :: as, (l, b) :: bs => k == l && beq a b && beqFields as bs
  | _, _ => false

end

mutual

theorem eq_of_beq : ∀ {a b : Json}, beq a b = true → a = b
  | .null, .null, _ => rfl
  | .bool _, .bool _, h => by simp_all [beq]
  | .num _, .num _, h => by simp_all [beq]
  | .str _, .str _, h => by simp_all [beq]
  | .arr as, .arr bs, h => by
    have hitems : beqItems as bs = true := by simpa [beq] using h
    rw [eq_of_beqItems hitems]
  | .obj as, .obj bs, h => by
    have hfields : beqFields as bs = true := by simpa [beq] using h
    rw [eq_of_beqFields hfields]
  | .null, .bool _, h | .null, .num _, h | .null, .str _, h | .null, .arr _, h
  | .null, .obj _, h | .bool _, .null, h | .bool _, .num _, h | .bool _, .str _, h
  | .bool _, .arr _, h | .bool _, .obj _, h | .num _, .null, h | .num _, .bool _, h
  | .num _, .str _, h | .num _, .arr _, h | .num _, .obj _, h | .str _, .null, h
  | .str _, .bool _, h | .str _, .num _, h | .str _, .arr _, h | .str _, .obj _, h
  | .arr _, .null, h | .arr _, .bool _, h | .arr _, .num _, h | .arr _, .str _, h
  | .arr _, .obj _, h | .obj _, .null, h | .obj _, .bool _, h | .obj _, .num _, h
  | .obj _, .str _, h | .obj _, .arr _, h => by simp [beq] at h

theorem eq_of_beqItems : ∀ {as bs : List Json}, beqItems as bs = true → as = bs
  | [], [], _ => rfl
  | _ :: _, _ :: _, h => by
    simp only [beqItems, Bool.and_eq_true] at h
    rw [eq_of_beq h.1, eq_of_beqItems h.2]
  | [], _ :: _, h | _ :: _, [], h => by simp [beqItems] at h

theorem eq_of_beqFields : ∀ {as bs : List (String × Json)}, beqFields as bs = true → as = bs
  | [], [], _ => rfl
  | (_, _) :: _, (_, _) :: _, h => by
    simp only [beqFields, Bool.and_eq_true, beq_iff_eq] at h
    rw [h.1.1, eq_of_beq h.1.2, eq_of_beqFields h.2]
  | [], _ :: _, h | _ :: _, [], h => by simp [beqFields] at h

end

mutual

theorem beq_self : ∀ a : Json, beq a a = true
  | .null => rfl
  | .bool _ => by simp [beq]
  | .num _ => by simp [beq]
  | .str _ => by simp [beq]
  | .arr as => by simpa [beq] using beqItems_self as
  | .obj as => by simpa [beq] using beqFields_self as

theorem beqItems_self : ∀ as : List Json, beqItems as as = true
  | [] => rfl
  | a :: as => by simp [beqItems, beq_self a, beqItems_self as]

theorem beqFields_self : ∀ as : List (String × Json), beqFields as as = true
  | [] => rfl
  | (_, a) :: as => by simp [beqFields, beq_self a, beqFields_self as]

end

instance : DecidableEq Json := fun a b =>
  decidable_of_iff (beq a b = true) ⟨eq_of_beq, fun h => h ▸ beq_self a⟩

def backquoted (s : String) : String := "\x60" ++ s ++ "\x60"

/-- How a value is named when a typed reading refuses it. -/
def describe : Json → String
  | .null => "null"
  | .bool b => "boolean " ++ backquoted (toString b)
  | .num (.nat n) => "integer " ++ backquoted (toString n)
  | .num (.negative n) => "integer " ++ backquoted (toString n)
  | .num (.float x) => "floating point " ++ backquoted (x.render FloatLayout.json)
  | .str s => "string " ++ Text.quoteString s
  | .arr _ => "sequence"
  | .obj _ => "map"

end Json

end RollupTx
