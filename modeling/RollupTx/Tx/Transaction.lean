import RollupTx.Tx.ChangePubKey
import RollupTx.Tx.ForcedExit
import RollupTx.Tx.MintNft
import RollupTx.Tx.Swap
import RollupTx.Tx.Transfer
import RollupTx.Tx.Withdraw
import RollupTx.Tx.WithdrawNft

/-!
# Transactions

The closed set of top-level transactions, with what every one of them offers: its kind, its
signing payload, its wallet message, its transport dictionary and its layer-2 signature.
Signing encodes the payload, asks the signer, and attaches the result; if either step fails
the transaction is left unchanged and the error is returned.

A transaction ready for submission is wrapped in an envelope: it carries its layer-2 signature
and is paired with a wallet signature. An envelope can only be made from a signed transaction.
-/

namespace RollupTx

/-- Any top-level transaction. -/
inductive Transaction
  | changePubKey (t : ChangePubKey)
  | transfer (t : Transfer)
  | withdraw (t : Withdraw)
  | forcedExit (t : ForcedExit)
  | swap (t : Swap)
  | mintNft (t : MintNft)
  | withdrawNft (t : WithdrawNft)

namespace Transaction

def kind : Transaction → TxKind
  | .changePubKey _ => .changePubKey
  | .transfer _ => .transfer
  | .withdraw _ => .withdraw
  | .forcedExit _ => .forcedExit
  | .swap _ => .swap
  | .mintNft _ => .mintNft
  | .withdrawNft _ => .withdrawNft

def encode : Transaction → Except TxError (List UInt8)
  | .changePubKey t => t.encode.mapError .encode
  | .transfer t => t.encode.mapError .encode
  | .withdraw t => t.encode.mapError .encode
  | .forcedExit t => t.encode.mapError .encode
  | .swap t => t.encode
  | .mintNft t => t.encode.mapError .encode
  | .withdrawNft t => t.encode.mapError .encode

def message : Transaction → String
  | .changePubKey t => t.message
  | .transfer t => t.message
  | .withdraw t => t.message
  | .forcedExit t => t.message
  | .swap t => t.message
  | .mintNft t => t.message
  | .withdrawNft t => t.message

def toJson : Transaction → Json
  | .changePubKey t => t.toJson
  | .transfer t => t.toJson
  | .withdraw t => t.toJson
  | .forcedExit t => t.toJson
  | .swap t => t.toJson
  | .mintNft t => t.toJson
  | .withdrawNft t => t.toJson

def signature : Transaction → Option TxSignature
  | .changePubKey t => t.signature
  | .transfer t => t.signature
  | .withdraw t => t.signature
  | .forcedExit t => t.signature
  | .swap t => t.signature
  | .mintNft t => t.signature
  | .withdrawNft t => t.signature

/-- The transaction with `sig` attached in place of any earlier signature. -/
def setSignature (sig : Option TxSignature) : Transaction → Transaction
  | .changePubKey t => .changePubKey { t with signature := sig }
  | .transfer t => .transfer { t with signature := sig }
  | .withdraw t => .withdraw { t with signature := sig }
  | .forcedExit t => .forcedExit { t with signature := sig }
  | .swap t => .swap { t with signature := sig }
  | .mintNft t => .mintNft { t with signature := sig }
  | .withdrawNft t => .withdrawNft { t with signature := sig }

/-- Encode, sign and attach the signature, with the transaction as the state. -/
def signInPlace (s : Signer) : EStateM TxError Transaction Unit :=
  s.signInPlace encode fun t sig => t.setSignature (some sig)

/-- The signed transaction, or why signing failed. -/
def signWith (t : Transaction) (s : Signer) : Except TxError Transaction :=
  runInPlace (signInPlace s) t

end Transaction

/-- A signed transaction with its wallet signature. -/
structure Envelope where
  tx : Transaction
  signature : EthSignature
  /-- Only a transaction that carries its layer-2 signature is wrapped. -/
  signed : tx.signature.isSome

namespace Envelope

/-- Wrap a transaction, refusing one without its layer-2 signature. -/
def make (tx : Transaction) (sig : EthSignature) : Except TxError Envelope :=
  match h : tx.signature with
  | some _ => .ok ⟨tx, sig, by simp [h]⟩
  | none => .error (.missingSignature tx.kind)

/-- The layer-2 signature of the wrapped transaction, which is always there. -/
def txSignature (e : Envelope) : TxSignature :=
  e.tx.signature.get e.signed

/-- `{tx, signature}`. -/
def toJson (e : Envelope) : Json :=
  .obj [("tx", e.tx.toJson), ("signature", e.signature.toJson)]

end Envelope

end RollupTx
