import RollupTx.Amount.Packed
import RollupTx.Encode.Field
import RollupTx.Text.Lower
import RollupTx.Token.Basic
import RollupTx.Tx.Basic
import RollupTx.Tx.Signer

/-!
# Forced exits

A forced withdrawal of an inactive account's balance to its layer-1 address, paid by an
initiator. The payload (51 bytes) holds the header, the initiator's account id, the target
address, the token id, the packed fee, the nonce and the validity window. The message always
shows the fee, zero included.
-/

namespace RollupTx

/-- A forced exit of a target account. -/
structure ForcedExit where
  initiatorAccountId : Nat
  target : String
  token : Token
  fee : Nat
  nonce : Nat
  window : Window
  signature : Option TxSignature
  deriving DecidableEq, Repr

namespace ForcedExit

/-- The signing payload, failing on the first field that does not fit. -/
def encode (t : ForcedExit) : Except EncodeError (List UInt8) := do
  let account ← Field.accountId t.initiatorAccountId
  let target ← Field.address t.target
  let token ← Field.tokenId t.token.id
  let fee ← Packed.packFee t.fee
  let nonce ← Field.nonce t.nonce
  return TxKind.forcedExit.header ++ account ++ target ++ token ++ [fee] ++ nonce ++
    Field.timestamp t.window.validFrom ++ Field.timestamp t.window.validUntil

def message (t : ForcedExit) : String :=
  String.intercalate "\n"
    ["ForcedExit " ++ t.token.symbol ++ " to: " ++ Text.lower t.target,
      t.token.feeLine t.fee, "Nonce: " ++ toString t.nonce]

def toJson (t : ForcedExit) : Json :=
  .obj [("type", .str TxKind.forcedExit.name), ("initiatorAccountId", .ofNat t.initiatorAccountId),
    ("target", .str t.target), ("token", .ofNat t.token.id), ("fee", .str (toString t.fee)),
    ("nonce", .ofNat t.nonce), ("signature", .ofOption TxSignature.toJson t.signature),
    ("validFrom", .ofNat t.window.validFrom), ("validUntil", .ofNat t.window.validUntil)]

end ForcedExit

end RollupTx
