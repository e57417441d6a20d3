import RollupTx.Bytes.BigEndian

/-!
# Decimal amounts

An amount is an integer count of a token's smallest unit; with `d` decimals it stands for
`a / 10 ^ d`. Rendering writes the integer part, then a point and the fractional digits
without trailing zeros; the plain form drops the point when no fraction is left, the
message form writes `.0` instead. Parsing is exact: trailing zeros of the fraction are
ignored, any other digit below the token's precision is refused, and the value must stay
below `2 ^ 256`.
-/

namespace RollupTx.Decimal

/-- The exclusive bound of every amount, `2 ^ 256`. -/
def wordLimit : Nat := 2 ^ 256

/-- The Unicode white-space characters, which trimming removes at both ends. -/
def isWhite (c : Char) : Bool :=
  let n := c.toNat
  (0x9 ≤ n && n ≤ 0xD) || n == 0x20 || n == 0x85 || n == 0xA0 || n == 0x1680 ||
    (0x2000 ≤ n && n ≤ 0x200A) || n == 0x2028 || n == 0x2029 || n == 0x202F ||
    n == 0x205F || n == 0x3000

/-- The characters with white space removed at both ends. -/
def trimWhite (cs : List Char) : List Char :=
  ((cs.dropWhile isWhite).reverse.dropWhile isWhite).reverse

def trim (s : String) : String :=
  String.ofList (trimWhite s.toList)

/-- The decimal digits of a natural number, without leading zeros. -/
def digits (n : Nat) : List Char :=
  Nat.toDigits 10 n

/-- The digits of `n` padded on the left with zeros to at least `width` characters. -/
def padDigits (width n : Nat) : List Char :=
  List.replicate (width - (digits n).length) '0' ++ digits n

def dropTrailingZeros (cs : List Char) : List Char :=
  (cs.reverse.dropWhile (· = '0')).reverse

/-- The integer digits and the significant fraction digits of `a` with `d` decimals. -/
def parts (d a : Nat) : List Char × List Char :=
  (digits (a / 10 ^ d), dropTrailingZeros (padDigits d (a % 10 ^ d)))

/-- `a` with `d` decimals, without a point when the fraction is zero: `1.5`, `1`. -/
def render (d a : Nat) : String :=
  match parts d a with
  | (i, []) => String.ofList i
  | (i, f) => String.ofList (i ++ '.' :: f)

/-- `a` with `d` decimals, keeping one fractional digit at least: `1.5`, `1.0`. -/
def renderPoint (d a : Nat) : String :=
  match parts d a with
  | (i, []) => String.ofList (i ++ ['.', '0'])
  | (i, f) => String.ofList (i ++ '.' :: f)

inductive ParseError
  /-- The text is not a decimal number. -/
  | malformed
  /-- The fraction has significant digits below the token's precision. -/
  | tooPrecise
  /-- The value is `2 ^ 256` or more. -/
  | tooLarge
  deriving DecidableEq, Repr

def allDigits (cs : List Char) : Bool :=
  cs.all Char.isDigit

/-- The value of ASCII digits, most significant first; no digits read as zero. -/
def digitsValue (cs : List Char) : Nat :=
  cs.foldl (fun acc c => acc * 10 + (c.toNat - 48)) 0

/-- The value of ASCII digits, refused from `2 ^ 256` on. -/
def boundedValue (cs : List Char) : Except ParseError Nat :=
  let v := digitsValue cs
  if v < wordLimit then .ok v else .error .tooLarge

/-- The text split at its first point; the fraction is empty when there is none. -/
def splitPoint (cs : List Char) : List Char × List Char :=
  match cs.span (· ≠ '.') with
  | (i, []) => (i, [])
  | (i, _ :: f) => (i, f)

/-- A decimal number with `d` decimals, after trimming white space: integer digits, an
optional point and fraction digits, not both parts empty. -/
def parse (d : Nat) (s : String) : Except ParseError Nat :=
  let (i, f) := splitPoint (trimWhite s.toList)
  if (i.isEmpty && f.isEmpty) || !allDigits i || !allDigits f then .error .malformed
  else
    let f := dropTrailingZeros f
    if f.length > d then .error .tooPrecise
    else boundedValue (i ++ f ++ List.replicate (d - f.length) '0')

/-- A whole number of base units, after trimming white space: one or more ASCII digits. -/
def parseWhole (s : String) : Except ParseError Nat :=
  let cs := trimWhite s.toList
  if cs.isEmpty || !allDigits cs then .error .malformed else boundedValue cs

end RollupTx.Decimal
