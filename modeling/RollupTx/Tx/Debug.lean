import RollupTx.Text.DebugForm
import RollupTx.Tx.Transaction

/-!
# Developer forms of transactions

How tokens, windows, signatures and transactions are shown to a developer: every field in
declaration order, amounts in decimal, strings quoted, byte arrays as decimal lists. A swap
leaves out its order hasher and says so with `..`.
-/

namespace RollupTx

open DebugForm

/-- `Token { address, id, symbol, decimals }`. -/
def Token.debug (t : Token) : DebugForm :=
  .record "Token" [("address", .text t.address), ("id", nat t.id), ("symbol", .text t.symbol),
    ("decimals", nat t.decimals)] false

/-- `TimeRange { valid_from, valid_until }`. -/
def Window.debug (w : Window) : DebugForm :=
  .record "TimeRange" [("valid_from", nat w.validFrom), ("valid_until", nat w.validUntil)] false

/-- `TxSignature { public_key, signature }`. -/
def TxSignature.debug (s : TxSignature) : DebugForm :=
  .record "TxSignature" [("public_key", .text s.publicKey), ("signature", .text s.signature)] false

/-- `TxEthSignature { sig_type, signature }`. -/
def EthSignature.debug (s : EthSignature) : DebugForm :=
  .record "TxEthSignature" [("sig_type", .plain (match s.kind with
    | .ethereum => "Ethereum"
    | .eip1271 => "Eip1271")), ("signature", .text s.signature)] false

/-- `Ratio { numerator, denominator }`. -/
def Ratio.debug (r : Ratio) : DebugForm :=
  .record "Ratio" [("numerator", nat r.numerator), ("denominator", nat r.denominator)] false

/-- The authorization as an optional value: on-chain approval is `None`. -/
def KeyAuth.debug : KeyAuth → DebugForm
  | .onchain => .plain "None"
  | .ecdsa h => .wrap "Some" (.record "Ecdsa" [("batch_hash", bytes h.toList)] false)
  | .create2 c s h => .wrap "Some" (.record "Create2"
      [("creator_address", .text c), ("salt_arg", bytes s.toList), ("code_hash", bytes h.toList)]
      false)

def signatureDebug (s : Option TxSignature) : DebugForm := option TxSignature.debug s

def Transfer.debug (t : Transfer) : DebugForm :=
  .record "Transfer" [("account_id", nat t.accountId), ("from", .text t.fromAddress),
    ("to", .text t.toAddress), ("token", t.token.debug), ("amount", nat t.amount),
    ("fee", nat t.fee), ("nonce", nat t.nonce), ("time_range", t.window.debug),
    ("signature", signatureDebug t.signature)] false

def Withdraw.debug (t : Withdraw) : DebugForm :=
  .record "Withdraw" [("account_id", nat t.accountId), ("from", .text t.fromAddress),
    ("to", .text t.toAddress), ("token", t.token.debug), ("amount", nat t.amount),
    ("fee", nat t.fee), ("nonce", nat t.nonce), ("time_range", t.window.debug),
    ("signature", signatureDebug t.signature)] false

def ChangePubKey.debug (t : ChangePubKey) : DebugForm :=
  .record "ChangePubKey" [("account_id", nat t.accountId), ("account", .text t.account),
    ("new_pk_hash", .text t.newPkHash), ("fee_token", t.feeToken.debug), ("fee", nat t.fee),
    ("nonce", nat t.nonce), ("time_range", t.window.debug), ("auth", t.auth.debug),
    ("eth_signature", option EthSignature.debug t.ethSignature),
    ("signature", signatureDebug t.signature)] false

def ForcedExit.debug (t : ForcedExit) : DebugForm :=
  .record "ForcedExit" [("initiator_account_id", nat t.initiatorAccountId),
    ("target", .text t.target), ("token", t.token.debug), ("fee", nat t.fee),
    ("nonce", nat t.nonce), ("time_range", t.window.debug),
    ("signature", signatureDebug t.signature)] false

def MintNft.debug (t : MintNft) : DebugForm :=
  .record "MintNFT" [("creator_id", nat t.creatorId), ("creator_address", .text t.creatorAddress),
    ("content_hash", .text t.contentHash), ("recipient", .text t.recipient), ("fee", nat t.fee),
    ("fee_token", t.feeToken.debug), ("nonce", nat t.nonce),
    ("signature", signatureDebug t.signature)] false

def WithdrawNft.debug (t : WithdrawNft) : DebugForm :=
  .record "WithdrawNFT" [("account_id", nat t.accountId), ("from", .text t.fromAddress),
    ("to", .text t.toAddress), ("fee_token", t.feeToken.debug), ("fee", nat t.fee),
    ("nonce", nat t.nonce), ("time_range", t.window.debug), ("token_id", nat t.tokenId),
    ("signature", signatureDebug t.signature)] false

def Order.debug (o : Order) : DebugForm :=
  .record "Order" [("account_id", nat o.accountId), ("recipient", .text o.recipient),
    ("nonce", nat o.nonce), ("token_sell", o.tokenSell.debug), ("token_buy", o.tokenBuy.debug),
    ("amount", nat o.amount), ("ratio", o.ratio.debug), ("time_range", o.window.debug),
    ("signature", signatureDebug o.signature),
    ("eth_signature", option EthSignature.debug o.ethSignature)] false

/-- The developer form of a swap; the hasher is left out. -/
def Swap.debug (s : Swap) : DebugForm :=
  .record "Swap" [("submitter_id", nat s.submitterId),
    ("submitter_address", .text s.submitterAddress),
    ("amounts", .list [nat s.amounts.1, nat s.amounts.2]),
    ("orders", .list [s.orders.1.debug, s.orders.2.debug]), ("fee_token", s.feeToken.debug),
    ("fee", nat s.fee), ("nonce", nat s.nonce), ("signature", signatureDebug s.signature)] true

/-- The developer form of a transaction: the kind wrapping the transaction's own form. -/
def Transaction.debug : Transaction → DebugForm
  | .changePubKey t => .wrap "ChangePubKey" t.debug
  | .transfer t => .wrap "Transfer" t.debug
  | .withdraw t => .wrap "Withdraw" t.debug
  | .forcedExit t => .wrap "ForcedExit" t.debug
  | .swap t => .wrap "Swap" t.debug
  | .mintNft t => .wrap "MintNFT" t.debug
  | .withdrawNft t => .wrap "WithdrawNFT" t.debug

end RollupTx
