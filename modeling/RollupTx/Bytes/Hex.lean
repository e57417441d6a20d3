import RollupTx.Text.Printable

/-!
# Hex text of bytes

Bytes are written as two lower-case hex digits each. Reading accepts digits of either case
and reports the first fault: an odd number of digits before anything else, otherwise the
first byte of the text that is no hex digit, with its byte position. Reading works on the
UTF-8 bytes of the text, so a non-ASCII character is reported by its first byte, shown as
the Latin-1 character of that byte.
-/

namespace RollupTx.Hex

/-- The lower-case hex digit of a nibble. -/
def digit (n : Nat) : Char :=
  if n < 10 then Char.ofNat (48 + n) else Char.ofNat (87 + n)

/-- The two digits of one byte, high nibble first. -/
def byteDigits (b : UInt8) : List Char :=
  [digit (b.toNat / 16), digit (b.toNat % 16)]

/-- Lower-case hex text of a byte sequence. -/
def encode (bs : List UInt8) : String :=
  String.ofList (bs.flatMap byteDigits)

/-- The value of a hex digit given as a byte, in either case. -/
def nibble? (b : UInt8) : Option Nat :=
  if 48 ≤ b.toNat ∧ b.toNat ≤ 57 then some (b.toNat - 48)
  else if 97 ≤ b.toNat ∧ b.toNat ≤ 102 then some (b.toNat - 87)
  else if 65 ≤ b.toNat ∧ b.toNat ≤ 70 then some (b.toNat - 55)
  else none

inductive DecodeError
  | oddLength
  | badDigit (byte : UInt8) (position : Nat)
  deriving DecidableEq, Repr

/-- The reason as shown to a user; a bad byte is quoted as a Latin-1 character. -/
def DecodeError.message : DecodeError → String
  | .oddLength => "Odd number of digits"
  | .badDigit b i =>
    "Invalid character " ++ Text.quoteChar (Char.ofNat b.toNat) ++ " at position " ++ toString i

/-- Reads digit pairs; `i` is the byte position of the first digit. -/
def decodePairs : List UInt8 → Nat → Except DecodeError (List UInt8)
  | [], _ => .ok []
  | [_], _ => .error .oddLength
  | a :: b :: rest, i =>
    match nibble? a, nibble? b with
    | none, _ => .error (.badDigit a i)
    | some _, none => .error (.badDigit b (i + 1))
    | some x, some y => (decodePairs rest (i + 2)).map (UInt8.ofNat (16 * x + y) :: ·)

/-- Hex bytes to the bytes they denote. The length is checked before any digit. -/
def decodeBytes (bs : List UInt8) : Except DecodeError (List UInt8) :=
  if bs.length % 2 = 1 then .error .oddLength else decodePairs bs 0

def decode (s : String) : Except DecodeError (List UInt8) :=
  decodeBytes s.toUTF8.toList

end RollupTx.Hex
