import RollupTx.Tx.Order

/-!
# Swaps

An exchange of two orders, submitted by a third party. The payload (77 bytes) commits to the
orders through a 32-byte hash of their concatenated payloads, made by a caller-supplied
hasher: it holds the header, the submitter's id and address, the nonce, the orders hash,
the fee token id, the packed fee and the two packed amounts. The orders are hashed first, so
an order's or the hasher's failure comes before any of the swap's own fields. The message is
only the nonce when the fee is zero.
-/

namespace RollupTx

/-- An exchange of two orders. -/
structure Swap where
  submitterId : Nat
  submitterAddress : String
  amounts : Nat × Nat
  orders : Order × Order
  feeToken : Token
  fee : Nat
  nonce : Nat
  signature : Option TxSignature
  hasher : OrderHasher

namespace Swap

/-- The two orders' payloads, first leg first. -/
def ordersMessage (s : Swap) : Except EncodeError (List UInt8) := do
  let first ← s.orders.1.encode
  let second ← s.orders.2.encode
  return first ++ second

/-- The hasher's digest of the orders' payloads. -/
def ordersHash (s : Swap) : Except TxError (List UInt8) := do
  let message ← s.ordersMessage.mapError .encode
  (s.hasher.hash message).mapError .signer

/-- The swap's own fields after the orders hash, failing on the first that does not fit. -/
def encodeFields (s : Swap) (hash : List UInt8) : Except EncodeError (List UInt8) := do
  let submitter ← Field.accountId s.submitterId
  let address ← Field.address s.submitterAddress
  let nonce ← Field.nonce s.nonce
  let token ← Field.tokenId s.feeToken.id
  let fee ← Packed.packFee s.fee
  let first ← Packed.packAmount s.amounts.1
  let second ← Packed.packAmount s.amounts.2
  return TxKind.swap.header ++ submitter ++ address ++ nonce ++ hash ++ token ++ [fee] ++ first ++
    second

/-- The signing payload: the orders hash first, then the swap's own fields. -/
def encode (s : Swap) : Except TxError (List UInt8) := do
  let hash ← s.ordersHash
  (s.encodeFields hash).mapError .encode

def message (s : Swap) : String :=
  let nonce := "Nonce: " ++ toString s.nonce
  if s.fee = 0 then nonce
  else "Swap fee: " ++ s.feeToken.decimalPointAmount s.fee ++ " " ++ s.feeToken.symbol ++ "\n" ++
    nonce

def toJson (s : Swap) : Json :=
  .obj [("type", .str TxKind.swap.name), ("submitterId", .ofNat s.submitterId),
    ("submitterAddress", .str s.submitterAddress), ("feeToken", .ofNat s.feeToken.id),
    ("fee", .str (toString s.fee)), ("nonce", .ofNat s.nonce),
    ("signature", .ofOption TxSignature.toJson s.signature),
    ("amounts", .arr [.str (toString s.amounts.1), .str (toString s.amounts.2)]),
    ("orders", .arr [s.orders.1.toJson, s.orders.2.toJson])]

end Swap

end RollupTx
