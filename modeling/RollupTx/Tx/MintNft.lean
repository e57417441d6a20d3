import RollupTx.Amount.Packed
import RollupTx.Encode.Field
import RollupTx.Text.Lower
import RollupTx.Token.Basic
import RollupTx.Tx.Basic
import RollupTx.Tx.Signer

/-!
# NFT mints

Minting an NFT identified by a 32-byte content hash. A mint has no validity window. The
payload (87 bytes) holds the header, the creator's id and address, the content hash, the
recipient, the fee token id, the packed fee and the nonce. The message shows the content
hash as given and always shows the fee.
-/

namespace RollupTx

/-- A mint of an NFT. -/
structure MintNft where
  creatorId : Nat
  creatorAddress : String
  contentHash : String
  recipient : String
  fee : Nat
  feeToken : Token
  nonce : Nat
  signature : Option TxSignature
  deriving DecidableEq, Repr

namespace MintNft

/-- The signing payload, failing on the first field that does not fit. -/
def encode (t : MintNft) : Except EncodeError (List UInt8) := do
  let creator ← Field.accountId t.creatorId
  let address ← Field.address t.creatorAddress
  let content ← Field.contentHash t.contentHash
  let recipient ← Field.address t.recipient
  let token ← Field.tokenId t.feeToken.id
  let fee ← Packed.packFee t.fee
  let nonce ← Field.nonce t.nonce
  return TxKind.mintNft.header ++ creator ++ address ++ content ++ recipient ++ token ++ [fee] ++
    nonce

def message (t : MintNft) : String :=
  String.intercalate "\n"
    ["MintNFT " ++ t.contentHash ++ " for: " ++ Text.lower t.recipient,
      t.feeToken.feeLine t.fee, "Nonce: " ++ toString t.nonce]

def toJson (t : MintNft) : Json :=
  .obj [("type", .str TxKind.mintNft.name), ("creatorId", .ofNat t.creatorId),
    ("creatorAddress", .str t.creatorAddress), ("contentHash", .str t.contentHash),
    ("recipient", .str t.recipient), ("feeToken", .ofNat t.feeToken.id),
    ("fee", .str (toString t.fee)), ("nonce", .ofNat t.nonce),
    ("signature", .ofOption TxSignature.toJson t.signature)]

end MintNft

end RollupTx
