import RollupTx.Amount.Packed
import RollupTx.Encode.Field
import RollupTx.Text.Lower
import RollupTx.Token.Basic
import RollupTx.Tx.Basic
import RollupTx.Tx.Signer

/-!
# Key changes

Setting or rotating an account's layer-2 signing key. The payload (71 bytes) holds the
header, the account id, the account address, the new public key hash, the fee token id, the
packed fee, the nonce and the validity window. The change is authorized on chain, by an
ECDSA wallet signature over a batch hash, or by a CREATE2 deployment; the wallet signs the
key hash, the nonce, the account id and the authorization's suffix. The message shows the
key hash without any `sync:` and lower-cased, and the fee in base units.
-/

namespace RollupTx

/-- How a key change is authorized on layer 1. -/
inductive KeyAuth
  /-- Approved by an on-chain transaction. -/
  | onchain
  /-- Approved by a wallet signature over a 32-byte batch hash. -/
  | ecdsa (batchHash : Vector UInt8 32)
  /-- Approved by deriving the account from a CREATE2 deployment; only the 32-byte salt and
  code hash are transported. -/
  | create2 (creatorAddress : String) (saltArg codeHash : Vector UInt8 32)
  deriving DecidableEq, Repr

namespace KeyAuth

/-- The bytes the wallet signs after the key hash, nonce and account id. -/
def signingSuffix : KeyAuth → List UInt8
  | .onchain => []
  | .ecdsa h => h.toList
  | .create2 _ salt _ => salt.toList

/-- Bytes as `0x` and hex. -/
def prefixedHex (bs : List UInt8) : String := "0x" ++ Hex.encode bs

def toJson (a : KeyAuth) (eth : Option EthSignature) : Json :=
  match a with
  | .onchain => .obj [("type", .str "Onchain")]
  | .ecdsa h => .obj [("type", .str "ECDSA"),
      ("ethSignature", .ofOption (fun s => .str s.signature) eth),
      ("batchHash", .str (prefixedHex h.toList))]
  | .create2 _ salt code => .obj [("type", .str "CREATE2"),
      ("saltArg", .str (prefixedHex salt.toList)), ("codeHash", .str (prefixedHex code.toList))]

end KeyAuth

/-- A change of an account's signing key. -/
structure ChangePubKey where
  accountId : Nat
  account : String
  newPkHash : String
  feeToken : Token
  fee : Nat
  nonce : Nat
  window : Window
  auth : KeyAuth
  ethSignature : Option EthSignature
  signature : Option TxSignature
  deriving DecidableEq, Repr

namespace ChangePubKey

/-- The signing payload, failing on the first field that does not fit. -/
def encode (t : ChangePubKey) : Except EncodeError (List UInt8) := do
  let account ← Field.accountId t.accountId
  let address ← Field.address t.account
  let key ← Field.address t.newPkHash
  let token ← Field.tokenId t.feeToken.id
  let fee ← Packed.packFee t.fee
  let nonce ← Field.nonce t.nonce
  return TxKind.changePubKey.header ++ account ++ address ++ key ++ token ++ [fee] ++ nonce ++
    Field.timestamp t.window.validFrom ++ Field.timestamp t.window.validUntil

/-- What the wallet signs to authorize the change: key hash, nonce, account id, then the
authorization's suffix. -/
def ethSigningBytes (t : ChangePubKey) : Except EncodeError (List UInt8) := do
  let key ← Field.address t.newPkHash
  let nonce ← Field.nonce t.nonce
  let account ← Field.accountId t.accountId
  return key ++ nonce ++ account ++ t.auth.signingSuffix

def authData (t : ChangePubKey) : Json :=
  t.auth.toJson t.ethSignature

/-- The wallet message; the fee is shown in base units. -/
def message (t : ChangePubKey) : String :=
  String.intercalate "\n" <|
    ["Set signing key: " ++ Text.lower (t.newPkHash.replace "sync:" "")] ++
    (if t.fee = 0 then [] else ["Fee: " ++ toString t.fee ++ " " ++ t.feeToken.symbol]) ++
    ["Nonce: " ++ toString t.nonce]

def toJson (t : ChangePubKey) : Json :=
  .obj [("type", .str TxKind.changePubKey.name), ("accountId", .ofNat t.accountId),
    ("account", .str t.account), ("newPkHash", .str t.newPkHash),
    ("fee_token", .ofNat t.feeToken.id), ("fee", .str (toString t.fee)),
    ("nonce", .ofNat t.nonce), ("ethAuthData", t.authData),
    ("signature", .ofOption TxSignature.toJson t.signature),
    ("validFrom", .ofNat t.window.validFrom), ("validUntil", .ofNat t.window.validUntil)]

end ChangePubKey

end RollupTx
