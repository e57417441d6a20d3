import RollupTx.Amount.Packed
import RollupTx.Encode.Field
import RollupTx.Text.Lower
import RollupTx.Token.Basic
import RollupTx.Tx.Basic
import RollupTx.Tx.Signer

/-!
# NFT withdrawals

A withdrawal of an NFT to layer 1. The payload (75 bytes) holds the header, the account id,
both addresses, the NFT's id, the fee token id, the packed fee, the nonce and the validity
window. The message names the NFT by id and always shows the fee.
-/

namespace RollupTx

/-- A withdrawal of an NFT. -/
structure WithdrawNft where
  accountId : Nat
  fromAddress : String
  toAddress : String
  feeToken : Token
  fee : Nat
  nonce : Nat
  window : Window
  tokenId : Nat
  signature : Option TxSignature
  deriving DecidableEq, Repr

namespace WithdrawNft

/-- The signing payload, failing on the first field that does not fit. -/
def encode (t : WithdrawNft) : Except EncodeError (List UInt8) := do
  let account ← Field.accountId t.accountId
  let source ← Field.address t.fromAddress
  let target ← Field.address t.toAddress
  let nft ← Field.tokenId t.tokenId
  let token ← Field.tokenId t.feeToken.id
  let fee ← Packed.packFee t.fee
  let nonce ← Field.nonce t.nonce
  return TxKind.withdrawNft.header ++ account ++ source ++ target ++ nft ++ token ++ [fee] ++
    nonce ++ Field.timestamp t.window.validFrom ++ Field.timestamp t.window.validUntil

def message (t : WithdrawNft) : String :=
  String.intercalate "\n"
    ["WithdrawNFT " ++ toString t.tokenId ++ " to: " ++ Text.lower t.toAddress,
      t.feeToken.feeLine t.fee, "Nonce: " ++ toString t.nonce]

def toJson (t : WithdrawNft) : Json :=
  .obj [("type", .str TxKind.withdrawNft.name), ("accountId", .ofNat t.accountId),
    ("from", .str t.fromAddress), ("to", .str t.toAddress), ("feeToken", .ofNat t.feeToken.id),
    ("fee", .str (toString t.fee)), ("nonce", .ofNat t.nonce),
    ("validFrom", .ofNat t.window.validFrom), ("validUntil", .ofNat t.window.validUntil),
    ("token", .ofNat t.tokenId), ("signature", .ofOption TxSignature.toJson t.signature)]

end WithdrawNft

end RollupTx
