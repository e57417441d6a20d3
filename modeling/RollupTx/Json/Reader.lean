import RollupTx.Json.Value

/-!
# Reading JSON

A strict JSON reader that reports each refusal with a fixed error text and a position. Every
failure names what went wrong and where: the line (from 1) and the column, which counts
bytes since the last line feed (from 0). A failure seen on the next, unread byte is placed
one byte after the current position, or at the end when none is left; a failure found
after reading a byte is placed after that byte. Containers nest at most 127 deep.

Numbers are classified as a reader that keeps 64-bit integers would: a natural below
`2 ^ 64`, a negative integer down to `-2 ^ 63`, or otherwise a binary64 value, computed from
the decimal significand (at most 64 bits of it) and exponent by `Binary64.ofDecimal`. A
number too large for a finite binary64 value is refused. Reading stops after one
value; `Reader.finish` then refuses anything but white space after it.
-/

namespace RollupTx.Json

/-- What went wrong while reading. -/
inductive ReadErrorCode
  | eofList
  | eofObject
  | eofString
  | eofValue
  | expectedColon
  | expectedListCommaOrEnd
  | expectedObjectCommaOrEnd
  | expectedIdent
  | expectedValue
  | invalidEscape
  | invalidNumber
  | numberOutOfRange
  | controlCharacter
  | keyMustBeString
  | loneLeadingSurrogate
  | trailingComma
  | trailingCharacters
  | unexpectedEndOfHexEscape
  | recursionLimit
  deriving DecidableEq, Repr

def ReadErrorCode.text : ReadErrorCode → String
  | .eofList => "EOF while parsing a list"
  | .eofObject => "EOF while parsing an object"
  | .eofString => "EOF while parsing a string"
  | .eofValue => "EOF while parsing a value"
  | .expectedColon => "expected " ++ "\x60:\x60"
  | .expectedListCommaOrEnd => "expected \x60,\x60 or \x60]\x60"
  | .expectedObjectCommaOrEnd => "expected \x60,\x60 or \x60\x7d\x60"
  | .expectedIdent => "expected ident"
  | .expectedValue => "expected value"
  | .invalidEscape => "invalid escape"
  | .invalidNumber => "invalid number"
  | .numberOutOfRange => "number out of range"
  | .controlCharacter => "control character (\\u0000-\\u001F) found while parsing a string"
  | .keyMustBeString => "key must be a string"
  | .loneLeadingSurrogate => "lone leading surrogate in hex escape"
  | .trailingComma => "trailing comma"
  | .trailingCharacters => "trailing characters"
  | .unexpectedEndOfHexEscape => "unexpected end of hex escape"
  | .recursionLimit => "recursion limit exceeded"

/-- A reading failure at a byte offset of the input. -/
structure ReadError where
  code : ReadErrorCode
  offset : Nat
  deriving DecidableEq, Repr

/-- Line (from 1) and column (bytes since the last line feed) of byte `i` of `cs`. -/
def lineColumn (cs : List Char) (i : Nat) : Nat × Nat :=
  go cs 0 1 0
where
  /-- `o` is the offset of the head of the remaining characters. -/
  go : List Char → Nat → Nat → Nat → Nat × Nat
    | [], _, line, col => (line, col)
    | c :: rest, o, line, col =>
      if i ≤ o then (line, col)
      else if i < o + c.utf8Size then (line, col + (i - o))
      else if c = '\n' then go rest (o + c.utf8Size) (line + 1) 0
      else go rest (o + c.utf8Size) line (col + c.utf8Size)

/-- The error as shown to a user, with its place in `input`. -/
def ReadError.message (e : ReadError) (input : String) : String :=
  let (line, col) := lineColumn input.toList e.offset
  e.code.text ++ " at line " ++ toString line ++ " column " ++ toString col

/-- What is left to read, and the byte offset where it starts. -/
structure Cursor where
  rest : List Char
  offset : Nat

namespace Cursor

/-- An error seen on the next character: one byte further, unless nothing is left. -/
def peekError (c : Cursor) (code : ReadErrorCode) : ReadError :=
  ⟨code, if c.rest.isEmpty then c.offset else c.offset + 1⟩

def error (c : Cursor) (code : ReadErrorCode) : ReadError :=
  ⟨code, c.offset⟩

def next (c : Cursor) : Cursor :=
  match c.rest with
  | [] => c
  | x :: rest => ⟨rest, c.offset + x.utf8Size⟩

end Cursor

/-- JSON white space: space, line feed, tab and carriage return. -/
def isSpace (c : Char) : Bool :=
  c = ' ' || c = '\n' || c = '\t' || c = '\r'

def skipSpace : List Char → Nat → Cursor
  | [], o => ⟨[], o⟩
  | c :: rest, o => if isSpace c then skipSpace rest (o + 1) else ⟨c :: rest, o⟩

def isDigitChar (c : Char) : Bool := '0' ≤ c && c ≤ '9'

def digitValue (c : Char) : Nat := c.toNat - 48

/-- Read the rest of a keyword after its first letter. -/
def readKeyword : List Char → Cursor → Except ReadError Cursor
  | [], c => .ok c
  | k :: ks, c =>
    match c.rest with
    | [] => .error (c.error .eofValue)
    | x :: _ => if x = k then readKeyword ks c.next else .error ⟨.expectedIdent, c.offset + 1⟩

def wordMax : Nat := 2 ^ 64 - 1

/-- The binary64 value of `±sig * 10 ^ exp` as `Binary64.ofDecimal` computes it; refused when
it overflows. -/
def floatOfParts (c : Cursor) (positive : Bool) (sig : Nat) (exp : Int) :
    Except ReadError (JsonNumber × Cursor) :=
  match Binary64.ofDecimal sig exp with
  | some x => .ok (.float (if positive then x else x.neg), c)
  | none => .error (c.error .numberOutOfRange)

def skipDigits : List Char → Nat → Cursor
  | [], o => ⟨[], o⟩
  | c :: rest, o => if isDigitChar c then skipDigits rest (o + 1) else ⟨c :: rest, o⟩

/-- Read exponent digits into `exp`; a value beyond `2 ^ 31 - 1` ends reading early. -/
def exponentDigits : List Char → Nat → Nat → Option Nat × Cursor
  | [], o, exp => (some exp, ⟨[], o⟩)
  | c :: rest, o, exp =>
    if isDigitChar c then
      if exp * 10 + digitValue c > 2 ^ 31 - 1 then (none, ⟨rest, o + 1⟩)
      else exponentDigits rest (o + 1) (exp * 10 + digitValue c)
    else (some exp, ⟨c :: rest, o⟩)

/-- Read an exponent after the `e`, for a significand `sig` scaled by `10 ^ start`. An
exponent too large to hold is out of range when positive and gives zero when negative. -/
def readExponent (c : Cursor) (positive : Bool) (sig : Nat) (start : Int) :
    Except ReadError (JsonNumber × Cursor) :=
  let (up, c) := match c.rest with
    | '+' :: _ => (true, c.next)
    | '-' :: _ => (false, c.next)
    | _ => (true, c)
  match c.rest with
  | [] => .error (c.error .eofValue)
  | d :: rest =>
    if isDigitChar d then
      match exponentDigits rest (c.offset + 1) (digitValue d) with
      | (some exp, c) => floatOfParts c positive sig (if up then start + exp else start - exp)
      | (none, c) =>
        if sig ≠ 0 && up then .error (c.error .numberOutOfRange)
        else .ok (.float (Binary64.zero !positive), skipDigits c.rest c.offset)
    else .error ⟨.invalidNumber, c.offset + 1⟩

/-- Read fraction digits while they fit a 64-bit significand: the significand, the count of
digits taken into it, and whether a digit overflowed it. Once a digit would overflow, it and
all further digits are skipped. -/
def fractionDigits : List Char → Nat → Nat → Nat → Nat × Nat × Bool × Cursor
  | [], o, sig, k => (sig, k, false, ⟨[], o⟩)
  | c :: rest, o, sig, k =>
    if isDigitChar c then
      if sig * 10 + digitValue c > wordMax then (sig, k, true, skipDigits rest (o + 1))
      else fractionDigits rest (o + 1) (sig * 10 + digitValue c) (k + 1)
    else (sig, k, false, ⟨c :: rest, o⟩)

/-- Read a fraction after the point, for a significand `sig` scaled by `10 ^ start`. At
least one digit must follow the point; a first digit that already overflows the
significand counts as one. -/
def readFraction (c : Cursor) (positive : Bool) (sig : Nat) (start : Int) :
    Except ReadError (JsonNumber × Cursor) :=
  let (sig, k, overflowed, c) := fractionDigits c.rest c.offset sig 0
  if k = 0 && !overflowed then
    .error (c.peekError (if c.rest.isEmpty then .eofValue else .invalidNumber))
  else match c.rest with
    | 'e' :: _ | 'E' :: _ => readExponent c.next positive sig (start - k)
    | _ => floatOfParts c positive sig (start - k)

/-- Digits that no longer fit the significand only scale it. -/
def readLongInteger (positive : Bool) :
    List Char → Nat → Nat → Nat → Except ReadError (JsonNumber × Cursor)
  | [], o, sig, extra => floatOfParts ⟨[], o⟩ positive sig extra
  | c :: rest, o, sig, extra =>
    if isDigitChar c then readLongInteger positive rest (o + 1) sig (extra + 1)
    else if c = '.' then readFraction ⟨rest, o + 1⟩ positive sig extra
    else if c = 'e' || c = 'E' then readExponent ⟨rest, o + 1⟩ positive sig extra
    else floatOfParts ⟨c :: rest, o⟩ positive sig extra

/-- An integer read whole: natural, negative integer, or the binary64 value for `-0` and for
negatives below `-2 ^ 63`. -/
def integer (positive : Bool) (sig : Nat) : JsonNumber :=
  if positive then .nat sig
  else if sig = 0 || sig > 2 ^ 63 then
    .float (((Binary64.ofNat sig).getD (Binary64.zero false)).neg)
  else .negative (-(sig : Int))

/-- After the integer digits: a fraction, an exponent, or the end of the number. -/
def readNumberTail (c : Cursor) (positive : Bool) (sig : Nat) :
    Except ReadError (JsonNumber × Cursor) :=
  match c.rest with
  | '.' :: _ => readFraction c.next positive sig 0
  | 'e' :: _ | 'E' :: _ => readExponent c.next positive sig 0
  | _ => .ok (integer positive sig, c)

/-- Integer digits after the first; the significand switches to scaling on overflow. -/
def integerDigits (positive : Bool) : List Char → Nat → Nat → Except ReadError (JsonNumber × Cursor)
  | [], o, sig => readNumberTail ⟨[], o⟩ positive sig
  | c :: rest, o, sig =>
    if isDigitChar c then
      if sig * 10 + digitValue c > wordMax then readLongInteger positive (c :: rest) o sig 0
      else integerDigits positive rest (o + 1) (sig * 10 + digitValue c)
    else readNumberTail ⟨c :: rest, o⟩ positive sig

/-- Read a number from its first digit (after any minus sign). A leading zero stands alone. -/
def readNumber (c : Cursor) (positive : Bool) : Except ReadError (JsonNumber × Cursor) :=
  match c.rest with
  | [] => .error (c.error .eofValue)
  | d :: rest =>
    if d = '0' then
      let c := c.next
      match rest with
      | x :: _ => if isDigitChar x then .error (c.peekError .invalidNumber) else readNumberTail c positive 0
      | [] => readNumberTail c positive 0
    else if isDigitChar d then integerDigits positive rest (c.offset + 1) (digitValue d)
    else .error ⟨.invalidNumber, c.offset + 1⟩

/-- The value of a hex digit, either case. -/
def hexValue? (c : Char) : Option Nat :=
  if isDigitChar c then some (digitValue c)
  else if 'a' ≤ c && c ≤ 'f' then some (c.toNat - 87)
  else if 'A' ≤ c && c ≤ 'F' then some (c.toNat - 55)
  else none

/-- The number of bytes of some characters. -/
def byteLength (cs : List Char) : Nat :=
  cs.foldl (· + ·.utf8Size) 0

/-- Four hex digits of a `\u` escape, read as one group of four bytes: fewer than four bytes
left is the end of input, and a group that is not four hex digits is refused after the group. -/
def readHex4 (c : Cursor) : Except ReadError (Nat × Cursor) :=
  if byteLength c.rest < 4 then .error ⟨.eofString, c.offset + byteLength c.rest⟩
  else
    match (c.rest.take 4).mapM hexValue? with
    | some ds => .ok (ds.foldl (fun n d => n * 16 + d) 0, ⟨c.rest.drop 4, c.offset + 4⟩)
    | none => .error ⟨.invalidEscape, c.offset + 4⟩

/-- The character of a `\u` escape after the `u`, reading a second escape for a surrogate
pair. A trailing surrogate alone, or a leading one without its partner, is refused. -/
def readUnicodeEscape (c : Cursor) : Except ReadError (Char × Cursor) := do
  let (n, c) ← readHex4 c
  if 0xDC00 ≤ n && n ≤ 0xDFFF then throw (c.error .loneLeadingSurrogate)
  if n < 0xD800 || 0xDBFF < n then return (Char.ofNat n, c)
  match c.rest with
  | [] => throw (c.error .eofString)
  | x :: _ => if x ≠ '\\' then throw ⟨.unexpectedEndOfHexEscape, c.offset + 1⟩
  let c := c.next
  match c.rest with
  | [] => throw (c.error .eofString)
  | x :: _ => if x ≠ 'u' then throw ⟨.unexpectedEndOfHexEscape, c.offset + 1⟩
  let (m, c) ← readHex4 c.next
  if m < 0xDC00 || 0xDFFF < m then throw (c.error .loneLeadingSurrogate)
  return (Char.ofNat ((n - 0xD800) * 0x400 + (m - 0xDC00) + 0x10000), c)

/-- The character an escape stands for, after the backslash. -/
def readEscape (c : Cursor) : Except ReadError (Char × Cursor) :=
  match c.rest with
  | [] => .error (c.error .eofString)
  | x :: _ =>
    if x = '"' then .ok ('"', c.next)
    else if x = '\\' then .ok ('\\', c.next)
    else if x = '/' then .ok ('/', c.next)
    else if x = 'b' then .ok ('\x08', c.next)
    else if x = 'f' then .ok ('\x0c', c.next)
    else if x = 'n' then .ok ('\n', c.next)
    else if x = 'r' then .ok ('\r', c.next)
    else if x = 't' then .ok ('\t', c.next)
    else if x = 'u' then readUnicodeEscape c.next
    else .error ⟨.invalidEscape, c.offset + 1⟩

/-- The characters of a string after its opening quote, up to the closing quote. Every
round reads at least one character, so `fuel` of the remaining length plus one suffices
(`reading_fuel_suffices`). -/
def readStringBody : Nat → Cursor → List Char → Except ReadError (String × Cursor)
  | 0, c, _ => .error (c.error .eofString)
  | fuel + 1, c, acc =>
    match c.rest with
    | [] => .error (c.error .eofString)
    | x :: _ =>
      if x = '"' then .ok (String.ofList acc.reverse, c.next)
      else if x = '\\' then
        match readEscape c.next with
        | .ok (y, c) => readStringBody fuel c (y :: acc)
        | .error e => .error e
      else if x.toNat < 0x20 then .error ⟨.controlCharacter, c.offset + 1⟩
      else readStringBody fuel c.next (x :: acc)

/-- A string after its opening quote. -/
def readString (c : Cursor) : Except ReadError (String × Cursor) :=
  readStringBody (c.rest.length + 1) c []

/-- How deep containers may nest. -/
def depthLimit : Nat := 128

mutual

/-- A value at `c`, inside `depth` open containers. Each call either reads a character or
hands over to a call that does, so `fuel` of twice the input length plus one suffices
(`reading_fuel_suffices`). -/
def readValue : Nat → Nat → Cursor → Except ReadError (Json × Cursor)
  | 0, _, c => .error (c.peekError .eofValue)
  | fuel + 1, depth, c0 =>
    let c := skipSpace c0.rest c0.offset
    match c.rest with
    | [] => .error (c.peekError .eofValue)
    | x :: _ =>
      if x = 'n' then (fun c => (Json.null, c)) <$> readKeyword ['u', 'l', 'l'] c.next
      else if x = 't' then (fun c => (Json.bool true, c)) <$> readKeyword ['r', 'u', 'e'] c.next
      else if x = 'f' then (fun c => (Json.bool false, c)) <$> readKeyword ['a', 'l', 's', 'e'] c.next
      else if x = '-' then (fun (n, c) => (Json.num n, c)) <$> readNumber c.next false
      else if isDigitChar x then (fun (n, c) => (Json.num n, c)) <$> readNumber c true
      else if x = '"' then (fun (s, c) => (Json.str s, c)) <$> readString c.next
      else if x = '[' then
        if depth + 1 ≥ depthLimit then .error (c.peekError .recursionLimit)
        else (fun (xs, c) => (Json.arr xs, c)) <$> readItems fuel (depth + 1) true [] c.next
      else if x = '{' then
        if depth + 1 ≥ depthLimit then .error (c.peekError .recursionLimit)
        else (fun (kvs, c) => (Json.obj kvs, c)) <$> readFields fuel (depth + 1) true [] c.next
      else .error (c.peekError .expectedValue)

/-- The elements of a list after `[`, up to and including `]`. -/
def readItems : Nat → Nat → Bool → List Json → Cursor → Except ReadError (List Json × Cursor)
  | 0, _, _, _, c => .error (c.peekError .eofList)
  | fuel + 1, depth, first, acc, c0 =>
    let c := skipSpace c0.rest c0.offset
    match c.rest with
    | [] => .error (c.peekError .eofList)
    | x :: _ =>
      if x = ']' then .ok (acc.reverse, c.next)
      else
        let start : Except ReadError Cursor :=
          if x = ',' && !first then .ok (skipSpace c.next.rest c.next.offset)
          else if first then .ok c
          else .error (c.peekError .expectedListCommaOrEnd)
        match start with
        | .error e => .error e
        | .ok c =>
          match c.rest with
          | [] => .error (c.peekError .eofValue)
          | y :: _ =>
            if y = ']' then .error (c.peekError .trailingComma)
            else match readValue fuel depth c with
              | .ok (v, c) => readItems fuel depth false (v :: acc) c
              | .error e => .error e

/-- The fields of an object after the brace, up to and including the closing brace. -/
def readFields : Nat → Nat → Bool → List (String × Json) → Cursor →
    Except ReadError (List (String × Json) × Cursor)
  | 0, _, _, _, c => .error (c.peekError .eofObject)
  | fuel + 1, depth, first, acc, c0 =>
    let c := skipSpace c0.rest c0.offset
    match c.rest with
    | [] => .error (c.peekError .eofObject)
    | x :: _ =>
      if x = '\x7d' then .ok (acc.reverse, c.next)
      else
        let start : Except ReadError Cursor :=
          if x = ',' && !first then .ok (skipSpace c.next.rest c.next.offset)
          else if first then .ok c
          else .error (c.peekError .expectedObjectCommaOrEnd)
        match start with
        | .error e => .error e
        | .ok c =>
          match c.rest with
          | [] => .error (c.peekError .eofValue)
          | y :: _ =>
            if y = '\x7d' then .error (c.peekError .trailingComma)
            else if y ≠ '"' then .error (c.peekError .keyMustBeString)
            else match readString c.next with
              | .error e => .error e
              | .ok (k, c) =>
                let c := skipSpace c.rest c.offset
                match c.rest with
                | [] => .error (c.peekError .eofObject)
                | z :: _ =>
                  if z ≠ ':' then .error (c.peekError .expectedColon)
                  else match readValue fuel depth c.next with
                    | .ok (v, c) => readFields fuel depth false ((k, v) :: acc) c
                    | .error e => .error e

end

/-- One value from the start of `s`, and where reading stopped. -/
def readPrefix (s : String) : Except ReadError (Json × Cursor) :=
  let cs := s.toList
  readValue (2 * cs.length + 2) 0 ⟨cs, 0⟩

/-- Refuse anything but white space after a value. -/
def finish (c : Cursor) : Except ReadError Unit :=
  let c := skipSpace c.rest c.offset
  if c.rest.isEmpty then .ok () else .error (c.peekError .trailingCharacters)

end RollupTx.Json
