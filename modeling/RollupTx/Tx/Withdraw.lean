import RollupTx.Amount.Packed
import RollupTx.Encode.Field
import RollupTx.Text.Lower
import RollupTx.Token.Basic
import RollupTx.Tx.Basic
import RollupTx.Tx.Signer

/-!
# Withdrawals

A withdrawal from layer 2 to a layer-1 address. Its payload (87 bytes) is laid out as a
transfer's, except that the amount is not packed: it takes sixteen bytes, so nothing is lost
on exit. The wallet message follows the transfer's.
-/

namespace RollupTx

/-- A withdrawal to layer 1. -/
structure Withdraw where
  accountId : Nat
  fromAddress : String
  toAddress : String
  token : Token
  amount : Nat
  fee : Nat
  nonce : Nat
  window : Window
  signature : Option TxSignature
  deriving DecidableEq, Repr

namespace Withdraw

/-- The signing payload, failing on the first field that does not fit. -/
def encode (t : Withdraw) : Except EncodeError (List UInt8) := do
  let account ← Field.accountId t.accountId
  let source ← Field.address t.fromAddress
  let target ← Field.address t.toAddress
  let token ← Field.tokenId t.token.id
  let amount ← Field.rawAmount t.amount
  let fee ← Packed.packFee t.fee
  let nonce ← Field.nonce t.nonce
  return TxKind.withdraw.header ++ account ++ source ++ target ++ token ++ amount ++ [fee] ++
    nonce ++ Field.timestamp t.window.validFrom ++ Field.timestamp t.window.validUntil

def message (t : Withdraw) : String :=
  String.intercalate "\n" <|
    (if t.amount = 0 then [] else
      ["Withdraw " ++ t.token.decimalPointAmount t.amount ++ " " ++ t.token.symbol ++ " to: " ++
        Text.lower t.toAddress]) ++
    (if t.fee = 0 then [] else [t.token.feeLine t.fee]) ++
    ["Nonce: " ++ toString t.nonce]

def toJson (t : Withdraw) : Json :=
  .obj [("type", .str TxKind.withdraw.name), ("accountId", .ofNat t.accountId),
    ("from", .str t.fromAddress), ("to", .str t.toAddress), ("token", .ofNat t.token.id),
    ("fee", .str (toString t.fee)), ("nonce", .ofNat t.nonce),
    ("signature", .ofOption TxSignature.toJson t.signature),
    ("amount", .str (toString t.amount)), ("validFrom", .ofNat t.window.validFrom),
    ("validUntil", .ofNat t.window.validUntil)]

end Withdraw

end RollupTx
