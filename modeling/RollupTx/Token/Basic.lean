import RollupTx.Amount.Decimal
import RollupTx.Encode.Error

/-!
# Tokens

A token is known by its layer-1 address, a numeric id, a symbol and its number of
decimals. Amounts of a token are integers of its smallest unit; `decimalAmount`,
`decimalPointAmount` and `fromDecimal` convert them to and from decimal text. The native
token has id 0, the zero address, symbol `ETH` and 18 decimals.
-/

namespace RollupTx

/-- A fungible token. The id is below `2 ^ 64` and the decimals below 256. -/
structure Token where
  address : String
  id : Nat
  symbol : String
  decimals : Nat
  deriving DecidableEq, Repr, Inhabited

namespace Token

def zeroAddress : String := "0x0000000000000000000000000000000000000000"

/-- The native token: id 0, zero address, 18 decimals. -/
def eth : Token := ⟨zeroAddress, 0, "ETH", 18⟩

/-- Whether a token is the native one, by symbol and exact address text. -/
def isEth (t : Token) : Bool :=
  t.symbol == "ETH" && t.address == zeroAddress

/-- An amount as exact decimal text without trailing zeros: `1.5`, `1`. -/
def decimalAmount (t : Token) (a : Nat) : String :=
  Decimal.render t.decimals a

/-- An amount as shown in messages, with one fractional digit at least: `1.5`, `1.0`. -/
def decimalPointAmount (t : Token) (a : Nat) : String :=
  Decimal.renderPoint t.decimals a

/-- The fee line of a wallet message: `Fee: 0.5 ETH`. -/
def feeLine (t : Token) (fee : Nat) : String :=
  "Fee: " ++ t.decimalPointAmount fee ++ " " ++ t.symbol

/-- Decimal text to an amount of the token, exactly. A failure names the trimmed text. -/
def fromDecimal (t : Token) (s : String) : Except EncodeError Nat :=
  match Decimal.parse t.decimals s with
  | .ok v => .ok v
  | .error .malformed => .error (.format "decimal amount" (.notDecimal (Decimal.trim s)))
  | .error .tooPrecise =>
    .error (.format "decimal amount" (.tooManyDecimals (Decimal.trim s) t.decimals t.symbol))
  | .error .tooLarge => .error (.format "decimal amount" .tooLarge)

end Token

end RollupTx
