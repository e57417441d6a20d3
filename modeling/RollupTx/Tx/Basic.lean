import RollupTx.Token.Basic

/-!
# Transaction kinds, validity windows and ratios

Each top-level transaction has a protocol tag. A payload starts with the discriminator
`255 - tag` and the format version 1; an order, which has no tag, starts with `o` and the
version instead.

A transaction is valid from one unix second to another, both ends included. Without
bounds the window is `0` to `2 ^ 32 - 1`. Both ends are 64-bit timestamps, and a window
carries the proof that they are.

The price of an order is a ratio `sell : buy`, kept exactly as given and never reduced. Parts
are given either in whole tokens, scaled by each token's decimals, or in base units.
-/

namespace RollupTx

/-- The kinds of top-level transaction. -/
inductive TxKind
  | withdraw
  | transfer
  | changePubKey
  | forcedExit
  | mintNft
  | withdrawNft
  | swap
  deriving DecidableEq, Repr

namespace TxKind

def tag : TxKind → Nat
  | .withdraw => 3
  | .transfer => 5
  | .changePubKey => 7
  | .forcedExit => 8
  | .mintNft => 9
  | .withdrawNft => 10
  | .swap => 11

def ofTag? : Nat → Option TxKind
  | 3 => some .withdraw
  | 5 => some .transfer
  | 7 => some .changePubKey
  | 8 => some .forcedExit
  | 9 => some .mintNft
  | 10 => some .withdrawNft
  | 11 => some .swap
  | _ => none

/-- The name used in transport dictionaries and messages. -/
def name : TxKind → String
  | .withdraw => "Withdraw"
  | .transfer => "Transfer"
  | .changePubKey => "ChangePubKey"
  | .forcedExit => "ForcedExit"
  | .mintNft => "MintNFT"
  | .withdrawNft => "WithdrawNFT"
  | .swap => "Swap"

/-- The first payload byte, `255 - tag`. -/
def discriminator (k : TxKind) : Nat := 255 - k.tag

end TxKind

/-- The payload format version, the second byte of every payload. -/
def formatVersion : UInt8 := 1

/-- The first byte of an order payload, the letter `o`. -/
def orderMarker : UInt8 := 111

/-- The two bytes that open a payload of kind `k`. -/
def TxKind.header (k : TxKind) : List UInt8 :=
  [UInt8.ofNat k.discriminator, formatVersion]

/-- A validity window in unix seconds, both ends below `2 ^ 64`. -/
structure Window where
  validFrom : Nat
  validUntil : Nat
  validFrom_lt : validFrom < 2 ^ 64
  validUntil_lt : validUntil < 2 ^ 64
  deriving DecidableEq, Repr

namespace Window

def defaultUntil : Nat := 4294967295

/-- The window used when none is given. -/
def default : Window := ⟨0, defaultUntil, by decide, by decide⟩

/-- Whether a timestamp lies in the window, both ends included. -/
def contains (w : Window) (t : Nat) : Bool :=
  w.validFrom ≤ t && t ≤ w.validUntil

end Window

/-- An exchange rate between the sold and the bought token. -/
structure Ratio where
  numerator : Nat
  denominator : Nat
  deriving DecidableEq, Repr

/-- The unit in which the parts of a ratio are written. -/
inductive RatioUnit
  /-- Base units of each token. -/
  | wei
  /-- Whole tokens, scaled by each token's decimals. -/
  | token
  deriving DecidableEq, Repr

namespace Ratio

/-- `n:d`. -/
def display (r : Ratio) : String :=
  toString r.numerator ++ ":" ++ toString r.denominator

/-- One part in base units: digits only after trimming, below `2 ^ 256`. -/
def parseBaseUnits (s : String) : Except EncodeError Nat :=
  match Decimal.parseWhole s with
  | .ok v => .ok v
  | .error .tooLarge => .error (.format "ratio" .tooLarge)
  | .error _ => .error (.format "ratio" (.notBaseUnit (Decimal.trim s)))

/-- A ratio from its two parts in unit `u`; the sold part is read first. -/
def parse (u : RatioUnit) (sell buy : Token) (sellPart buyPart : String) :
    Except EncodeError Ratio := do
  match u with
  | .token => return ⟨← sell.fromDecimal sellPart, ← buy.fromDecimal buyPart⟩
  | .wei => return ⟨← parseBaseUnits sellPart, ← parseBaseUnits buyPart⟩

end Ratio

end RollupTx
