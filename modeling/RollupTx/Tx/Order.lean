import RollupTx.Amount.Packed
import RollupTx.Encode.Field
import RollupTx.Text.Lower
import RollupTx.Token.Basic
import RollupTx.Tx.Signer
import RollupTx.Tx.Basic

/-!
# Orders

A limit order, one leg of a swap. It is signed on its own but never submitted alone, so it
has no tag: its payload (91 bytes) starts with `o` and the version, then the account id,
the recipient, the nonce, both token ids, both ratio parts in sixteen bytes each, the packed
amount and the validity window. An amount of zero makes it a limit order.
-/

namespace RollupTx

/-- One leg of a swap. -/
structure Order where
  accountId : Nat
  recipient : String
  nonce : Nat
  tokenSell : Token
  tokenBuy : Token
  amount : Nat
  ratio : Ratio
  window : Window
  signature : Option TxSignature
  ethSignature : Option EthSignature
  deriving DecidableEq, Repr

namespace Order

/-- The signing payload, failing on the first field that does not fit. -/
def encode (o : Order) : Except EncodeError (List UInt8) := do
  let account ← Field.accountId o.accountId
  let recipient ← Field.address o.recipient
  let nonce ← Field.nonce o.nonce
  let sell ← Field.tokenId o.tokenSell.id
  let buy ← Field.tokenId o.tokenBuy.id
  let num ← Field.ratioPart o.ratio.numerator
  let den ← Field.ratioPart o.ratio.denominator
  let amount ← Packed.packAmount o.amount
  return [orderMarker, formatVersion] ++ account ++ recipient ++ nonce ++ sell ++ buy ++ num ++
    den ++ amount ++ Field.timestamp o.window.validFrom ++ Field.timestamp o.window.validUntil

def message (o : Order) : String :=
  let header :=
    if o.amount = 0 then "Limit order for " ++ o.tokenSell.symbol ++ " -> " ++ o.tokenBuy.symbol
    else "Order for " ++ o.tokenSell.decimalPointAmount o.amount ++ " " ++ o.tokenSell.symbol ++
      " -> " ++ o.tokenBuy.symbol
  String.intercalate "\n"
    [header, "Ratio: " ++ o.ratio.display, "Address: " ++ Text.lower o.recipient,
      "Nonce: " ++ toString o.nonce]

def toJson (o : Order) : Json :=
  .obj [("accountId", .ofNat o.accountId), ("recipient", .str o.recipient),
    ("nonce", .ofNat o.nonce), ("tokenSell", .ofNat o.tokenSell.id),
    ("tokenBuy", .ofNat o.tokenBuy.id), ("amount", .str (toString o.amount)),
    ("ratio", .arr [.str (toString o.ratio.numerator), .str (toString o.ratio.denominator)]),
    ("validFrom", .ofNat o.window.validFrom), ("validUntil", .ofNat o.window.validUntil),
    ("signature", .ofOption TxSignature.toJson o.signature),
    ("ethSignature", .ofOption EthSignature.toJson o.ethSignature)]

/-- Encode, sign and attach the signature, with the order as the state. -/
def signInPlace (s : Signer) : EStateM TxError Order Unit :=
  s.signInPlace (fun o => o.encode.mapError .encode) fun o sig => { o with signature := some sig }

/-- The signed order, or why signing failed. -/
def signWith (o : Order) (s : Signer) : Except TxError Order :=
  runInPlace (signInPlace s) o

end Order

end RollupTx
