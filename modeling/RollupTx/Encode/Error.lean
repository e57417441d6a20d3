import RollupTx.Bytes.Hex

/-!
# Encoding errors

Why a value could not be written into a payload: a number too wide for its field, text
that is not in the expected form, a value with no packed form, or a registry snapshot that
cannot be read. Each cause keeps the data its message shows, and `EncodeError.message`
holds all the wording.
-/

namespace RollupTx

/-- The two packed number formats: five-byte amounts and one-byte fees. -/
inductive PackedKind
  | amount
  | fee
  deriving DecidableEq, Repr

/-- The word a message uses for a packed format. -/
def PackedKind.name : PackedKind → String
  | .amount => "amount"
  | .fee => "fee"

/-- Why a text field is not in its expected form. -/
inductive FormatReason
  /-- The text is not hex. -/
  | hex (e : Hex.DecodeError)
  /-- The hex text decodes to the wrong number of bytes. -/
  | length (expected got : Nat)
  /-- The text is not a decimal number. -/
  | notDecimal (text : String)
  /-- The decimal has more fractional digits than the token has decimals. -/
  | tooManyDecimals (text : String) (decimals : Nat) (symbol : String)
  /-- The number exceeds `2 ^ 256 - 1`. -/
  | tooLarge
  /-- The text is not a whole number of base units. -/
  | notBaseUnit (text : String)
  deriving DecidableEq, Repr

/-- A quoted text as the reasons show it. -/
private def quoted (s : String) : String := "\x27" ++ s ++ "\x27"

def FormatReason.message : FormatReason → String
  | .hex e => e.message
  | .length e g => "expected " ++ toString e ++ " bytes, got " ++ toString g
  | .notDecimal t => quoted t ++ " is not a decimal number"
  | .tooManyDecimals t d s =>
    quoted t ++ " has more than " ++ toString d ++ " fractional digits for " ++ s
  | .tooLarge => "the value is too large to fit the target type"
  | .notBaseUnit t => quoted t ++ " is not a base-unit integer"

/-- Why a field could not be encoded. -/
inductive EncodeError
  /-- The number needs more than `bytes` bytes. -/
  | range (field : String) (value : Nat) (bytes : Nat)
  /-- The text of a field is malformed. -/
  | format (field : String) (reason : FormatReason)
  /-- The value has no exact packed form. -/
  | packing (kind : PackedKind) (value : Nat)
  /-- A registry snapshot could not be read; the reason is the reader's text. -/
  | registry (reason : String)
  deriving DecidableEq, Repr

def EncodeError.message : EncodeError → String
  | .range f v n => f ++ " value " ++ toString v ++ " does not fit in " ++ toString n ++ " bytes"
  | .format f r => "invalid " ++ f ++ ": " ++ r.message
  | .packing k v => k.name ++ " " ++ toString v ++ " is not packable"
  | .registry r => "invalid token registry: " ++ r

end RollupTx
