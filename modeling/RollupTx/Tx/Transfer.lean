import RollupTx.Amount.Packed
import RollupTx.Encode.Field
import RollupTx.Text.Lower
import RollupTx.Token.Basic
import RollupTx.Tx.Basic
import RollupTx.Tx.Signer

/-!
# Transfers

A layer-2 transfer between two accounts. The payload (76 bytes) holds the header, the
account id, both addresses, the token id, the packed amount, the packed fee, the nonce and
the validity window. The wallet message names the amount and the recipient unless the
amount is zero, and the fee unless it is zero.
-/

namespace RollupTx

/-- A layer-2 transfer. -/
structure Transfer where
  accountId : Nat
  fromAddress : String
  toAddress : String
  token : Token
  amount : Nat
  fee : Nat
  nonce : Nat
  window : Window
  signature : Option TxSignature
  deriving DecidableEq, Repr

namespace Transfer

/-- The signing payload, failing on the first field that does not fit. -/
def encode (t : Transfer) : Except EncodeError (List UInt8) := do
  let account ← Field.accountId t.accountId
  let source ← Field.address t.fromAddress
  let target ← Field.address t.toAddress
  let token ← Field.tokenId t.token.id
  let amount ← Packed.packAmount t.amount
  let fee ← Packed.packFee t.fee
  let nonce ← Field.nonce t.nonce
  return TxKind.transfer.header ++ account ++ source ++ target ++ token ++ amount ++ [fee] ++
    nonce ++ Field.timestamp t.window.validFrom ++ Field.timestamp t.window.validUntil

def message (t : Transfer) : String :=
  String.intercalate "\n" <|
    (if t.amount = 0 then [] else
      ["Transfer " ++ t.token.decimalPointAmount t.amount ++ " " ++ t.token.symbol ++ " to: " ++
        Text.lower t.toAddress]) ++
    (if t.fee = 0 then [] else [t.token.feeLine t.fee]) ++
    ["Nonce: " ++ toString t.nonce]

def toJson (t : Transfer) : Json :=
  .obj [("type", .str TxKind.transfer.name), ("accountId", .ofNat t.accountId),
    ("from", .str t.fromAddress), ("to", .str t.toAddress), ("token", .ofNat t.token.id),
    ("fee", .str (toString t.fee)), ("nonce", .ofNat t.nonce),
    ("signature", .ofOption TxSignature.toJson t.signature),
    ("amount", .str (toString t.amount)), ("validFrom", .ofNat t.window.validFrom),
    ("validUntil", .ofNat t.window.validUntil)]

end Transfer

end RollupTx
