import RollupTx.Proofs.Payload.Layout

/-!
# Encoder domains and the first failure

An encoder accepts exactly the values whose every field its writer accepts: ids and nonces
below `2 ^ 32`, addresses and content hashes that parse, packable fees and amounts, raw amounts
and ratio parts below `2 ^ 128`. A swap also needs both orders to encode and its hasher to
succeed on their payloads. No timestamp is ever refused, so no domain mentions the window.

Outside its domain an encoder fails with the error of the first step that fails, in the order
it runs them (`steps`): the fields in payload order, and for a swap its two orders and their
hash before its own fields. Field errors are reported as encoding errors and only the hasher's
as signer errors. `encode_ok_iff_encodable_error_first_step` collects this for every kind of
transaction and for orders.
-/

namespace RollupTx

open Payload Packed

/-- The texts that the address writer accepts. -/
def Field.AddressText (s : String) : Prop := ∃ bs, Field.address s = .ok bs

/-- The texts that the content hash writer accepts. -/
def Field.ContentHashText (s : String) : Prop := ∃ bs, Field.contentHash s = .ok bs

theorem wide_isOk_iff {field : String} {v : ℕ} :
    (∃ bs, Field.intBytes field v Field.wideBytes = .ok bs) ↔ v < 2 ^ 128 :=
  intBytes_isOk_iff

namespace Transfer

/-- The transfers the encoder accepts. -/
def Encodable (t : Transfer) : Prop :=
  t.accountId < 2 ^ 32 ∧ Field.AddressText t.fromAddress ∧ Field.AddressText t.toAddress ∧
    t.token.id < 2 ^ 32 ∧ Representable amountMantissaMax amountExponentMax t.amount ∧
    Representable feeMantissaMax feeExponentMax t.fee ∧ t.nonce < 2 ^ 32

theorem encode_isOk_iff (t : Transfer) : (∃ b, t.encode = .ok b) ↔ t.Encodable := by
  rw [encode_eq_join, join_isOk_iff]
  simp [writers, Encodable, Field.AddressText, Field.accountId, Field.tokenId, Field.nonce,
    word_isOk_iff, feeByte_isOk_iff, packAmount_isOk_iff]

end Transfer

namespace Withdraw

/-- The withdrawals the encoder accepts; the amount is written whole in sixteen bytes. -/
def Encodable (t : Withdraw) : Prop :=
  t.accountId < 2 ^ 32 ∧ Field.AddressText t.fromAddress ∧ Field.AddressText t.toAddress ∧
    t.token.id < 2 ^ 32 ∧ t.amount < 2 ^ 128 ∧ Representable feeMantissaMax feeExponentMax t.fee ∧
    t.nonce < 2 ^ 32

theorem encode_isOk_iff (t : Withdraw) : (∃ b, t.encode = .ok b) ↔ t.Encodable := by
  rw [encode_eq_join, join_isOk_iff]
  simp [writers, Encodable, Field.AddressText, Field.accountId, Field.tokenId, Field.nonce,
    Field.rawAmount, word_isOk_iff, wide_isOk_iff, feeByte_isOk_iff]

end Withdraw

namespace ChangePubKey

/-- The key changes the encoder accepts; the new key hash is written as an address. -/
def Encodable (t : ChangePubKey) : Prop :=
  t.accountId < 2 ^ 32 ∧ Field.AddressText t.account ∧ Field.AddressText t.newPkHash ∧
    t.feeToken.id < 2 ^ 32 ∧ Representable feeMantissaMax feeExponentMax t.fee ∧
    t.nonce < 2 ^ 32

theorem encode_isOk_iff (t : ChangePubKey) : (∃ b, t.encode = .ok b) ↔ t.Encodable := by
  rw [encode_eq_join, join_isOk_iff]
  simp [writers, Encodable, Field.AddressText, Field.accountId, Field.tokenId, Field.nonce,
    word_isOk_iff, feeByte_isOk_iff]

end ChangePubKey

namespace ForcedExit

/-- The forced exits the encoder accepts. -/
def Encodable (t : ForcedExit) : Prop :=
  t.initiatorAccountId < 2 ^ 32 ∧ Field.AddressText t.target ∧ t.token.id < 2 ^ 32 ∧
    Representable feeMantissaMax feeExponentMax t.fee ∧ t.nonce < 2 ^ 32

theorem encode_isOk_iff (t : ForcedExit) : (∃ b, t.encode = .ok b) ↔ t.Encodable := by
  rw [encode_eq_join, join_isOk_iff]
  simp [writers, Encodable, Field.AddressText, Field.accountId, Field.tokenId, Field.nonce,
    word_isOk_iff, feeByte_isOk_iff]

end ForcedExit

namespace MintNft

/-- The mints the encoder accepts. -/
def Encodable (t : MintNft) : Prop :=
  t.creatorId < 2 ^ 32 ∧ Field.AddressText t.creatorAddress ∧
    Field.ContentHashText t.contentHash ∧ Field.AddressText t.recipient ∧
    t.feeToken.id < 2 ^ 32 ∧ Representable feeMantissaMax feeExponentMax t.fee ∧
    t.nonce < 2 ^ 32

theorem encode_isOk_iff (t : MintNft) : (∃ b, t.encode = .ok b) ↔ t.Encodable := by
  rw [encode_eq_join, join_isOk_iff]
  simp [writers, Encodable, Field.AddressText, Field.ContentHashText, Field.accountId,
    Field.tokenId, Field.nonce, word_isOk_iff, feeByte_isOk_iff]

end MintNft

namespace WithdrawNft

/-- The NFT withdrawals the encoder accepts. -/
def Encodable (t : WithdrawNft) : Prop :=
  t.accountId < 2 ^ 32 ∧ Field.AddressText t.fromAddress ∧ Field.AddressText t.toAddress ∧
    t.tokenId < 2 ^ 32 ∧ t.feeToken.id < 2 ^ 32 ∧
    Representable feeMantissaMax feeExponentMax t.fee ∧ t.nonce < 2 ^ 32

theorem encode_isOk_iff (t : WithdrawNft) : (∃ b, t.encode = .ok b) ↔ t.Encodable := by
  rw [encode_eq_join, join_isOk_iff]
  simp [writers, Encodable, Field.AddressText, Field.accountId, Field.tokenId, Field.nonce,
    word_isOk_iff, feeByte_isOk_iff]

end WithdrawNft

namespace Order

/-- The orders the encoder accepts; both ratio parts are written whole in sixteen bytes. -/
def Encodable (o : Order) : Prop :=
  o.accountId < 2 ^ 32 ∧ Field.AddressText o.recipient ∧ o.nonce < 2 ^ 32 ∧
    o.tokenSell.id < 2 ^ 32 ∧ o.tokenBuy.id < 2 ^ 32 ∧ o.ratio.numerator < 2 ^ 128 ∧
    o.ratio.denominator < 2 ^ 128 ∧ Representable amountMantissaMax amountExponentMax o.amount

theorem encode_isOk_iff (o : Order) : (∃ b, o.encode = .ok b) ↔ o.Encodable := by
  rw [encode_eq_join, join_isOk_iff]
  simp [writers, Encodable, Field.AddressText, Field.accountId, Field.tokenId, Field.nonce,
    Field.ratioPart, word_isOk_iff, wide_isOk_iff, packAmount_isOk_iff]

theorem encode_eq_error_iff (o : Order) (e : EncodeError) :
    o.encode = .error e ↔ firstError o.writers = some e := by
  rw [encode_eq_join, join_eq_error_iff]

end Order

namespace Swap

/-- The swap's own writers in the order the encoder runs them, without the header and the
orders hash, which cannot fail. -/
def fieldWriters (s : Swap) : List (Except EncodeError (List UInt8)) :=
  [Field.accountId s.submitterId, Field.address s.submitterAddress, Field.nonce s.nonce,
    Field.tokenId s.feeToken.id, feeByte s.fee, packAmount s.amounts.1, packAmount s.amounts.2]

/-- The steps a swap's encoder runs, in order: both orders, their hash, then its own fields. -/
def steps (s : Swap) : List (Except TxError (List UInt8)) :=
  [s.orders.1.encode.mapError .encode, s.orders.2.encode.mapError .encode, s.ordersHash] ++
    s.fieldWriters.map (·.mapError .encode)

/-- The swap's own fields that its writers accept. -/
def FieldsEncodable (s : Swap) : Prop :=
  s.submitterId < 2 ^ 32 ∧ Field.AddressText s.submitterAddress ∧ s.nonce < 2 ^ 32 ∧
    s.feeToken.id < 2 ^ 32 ∧ Representable feeMantissaMax feeExponentMax s.fee ∧
    Representable amountMantissaMax amountExponentMax s.amounts.1 ∧
    Representable amountMantissaMax amountExponentMax s.amounts.2

/-- The swaps the encoder accepts: both orders encode, the hasher takes their payloads, and
the swap's own fields are accepted. -/
def Encodable (s : Swap) : Prop :=
  (∃ m₁ m₂ d, s.orders.1.encode = .ok m₁ ∧ s.orders.2.encode = .ok m₂ ∧
      s.hasher.hash (m₁ ++ m₂) = .ok d) ∧
    s.FieldsEncodable

theorem ordersHash_isOk_iff (s : Swap) :
    (∃ d, s.ordersHash = .ok d) ↔
      ∃ m₁ m₂ d, s.orders.1.encode = .ok m₁ ∧ s.orders.2.encode = .ok m₂ ∧
        s.hasher.hash (m₁ ++ m₂) = .ok d := by
  rcases ordersHash_cases s with ⟨e₁, h₁, hh⟩ | ⟨m₁, e₂, h₁, h₂, hh⟩ | ⟨m₁, m₂, h₁, h₂, hh⟩
  · simp [hh, h₁]
  · simp [hh, h₁, h₂]
  · simp [hh, h₁, h₂]

theorem encodeFields_isOk_iff (s : Swap) (hash : List UInt8) :
    (∃ b, s.encodeFields hash = .ok b) ↔ s.FieldsEncodable := by
  rw [encodeFields_eq_join, join_isOk_iff]
  simp [writers, FieldsEncodable, Field.AddressText, Field.accountId, Field.tokenId,
    Field.nonce, word_isOk_iff, feeByte_isOk_iff, packAmount_isOk_iff]

theorem encode_isOk_iff (s : Swap) : (∃ b, s.encode = .ok b) ↔ s.Encodable := by
  rw [Encodable, ← ordersHash_isOk_iff]
  constructor
  · rintro ⟨b, hb⟩
    obtain ⟨hash, hhash, hfields⟩ := encode_eq_ok_iff.1 hb
    exact ⟨⟨hash, hhash⟩, (encodeFields_isOk_iff s hash).1 ⟨b, hfields⟩⟩
  · rintro ⟨⟨hash, hhash⟩, hfields⟩
    obtain ⟨b, hb⟩ := (encodeFields_isOk_iff s hash).2 hfields
    exact ⟨b, encode_eq_ok_iff.2 ⟨hash, hhash, hb⟩⟩

/-- The header and the hash are written without a check, so the first failure of the swap's
writers is that of its own fields. -/
theorem firstError_writers (s : Swap) (hash : List UInt8) :
    firstError (s.writers hash) = firstError s.fieldWriters := by
  simp only [writers, fieldWriters, firstError_cons_ok]
  exact firstError_append_ok [_, _, _] hash [_, _, _, _]

/-- The two order steps fail only as the orders hash does. -/
theorem firstError_steps (s : Swap) :
    firstError s.steps = firstError (s.ordersHash :: s.fieldWriters.map (·.mapError .encode)) := by
  unfold steps
  rcases ordersHash_cases s with ⟨e₁, h₁, hh⟩ | ⟨m₁, e₂, h₁, h₂, hh⟩ | ⟨m₁, m₂, h₁, h₂, hh⟩
  · rw [h₁, hh]
    rfl
  · rw [h₁, h₂, hh]
    rfl
  · rw [h₁, h₂]
    rfl

theorem encode_eq_error_iff (s : Swap) (e : TxError) :
    s.encode = .error e ↔ firstError s.steps = some e := by
  rw [firstError_steps]
  unfold encode
  cases s.ordersHash with
  | error e₀ => simp [bind, Except.bind]
  | ok hash =>
    rw [firstError_cons_ok, firstError_map_mapError, ← firstError_writers s hash,
      ← firstError_map_mapError, ← mapError_join_eq_error_iff, ← encodeFields_eq_join]
    rfl

/-- A swap reports a signer error exactly when both orders encode and the hasher refuses their
payloads: the hasher never runs on an invalid order. -/
theorem encode_eq_signer_iff (s : Swap) (e : SignerError) :
    s.encode = .error (.signer e) ↔
      ∃ m₁ m₂, s.orders.1.encode = .ok m₁ ∧ s.orders.2.encode = .ok m₂ ∧
        s.hasher.hash (m₁ ++ m₂) = .error e := by
  rw [encode_eq_error_iff, firstError_steps]
  rcases ordersHash_cases s with ⟨e₁, h₁, hh⟩ | ⟨m₁, e₂, h₁, h₂, hh⟩ | ⟨m₁, m₂, h₁, h₂, hh⟩
  · simp [hh, h₁]
  · simp [hh, h₁, h₂]
  · rw [hh]
    cases hd : s.hasher.hash (m₁ ++ m₂) with
    | error e' => simp [h₁, h₂, hd]
    | ok d =>
      rw [mapError_ok, firstError_cons_ok, firstError_map_mapError]
      simp [h₁, h₂, hd]

end Swap

namespace Transaction

/-- The transactions the encoder accepts. -/
def Encodable : Transaction → Prop
  | .changePubKey t => t.Encodable
  | .transfer t => t.Encodable
  | .withdraw t => t.Encodable
  | .forcedExit t => t.Encodable
  | .swap s => s.Encodable
  | .mintNft t => t.Encodable
  | .withdrawNft t => t.Encodable

/-- The steps the encoder runs, in order, each failing with the error the encoder reports. -/
def steps : Transaction → List (Except TxError (List UInt8))
  | .changePubKey t => t.writers.map (·.mapError .encode)
  | .transfer t => t.writers.map (·.mapError .encode)
  | .withdraw t => t.writers.map (·.mapError .encode)
  | .forcedExit t => t.writers.map (·.mapError .encode)
  | .swap s => s.steps
  | .mintNft t => t.writers.map (·.mapError .encode)
  | .withdrawNft t => t.writers.map (·.mapError .encode)

theorem encode_isOk_iff (t : Transaction) : (∃ b, t.encode = .ok b) ↔ t.Encodable := by
  cases t with
  | changePubKey t => simpa [encode, Encodable] using t.encode_isOk_iff
  | transfer t => simpa [encode, Encodable] using t.encode_isOk_iff
  | withdraw t => simpa [encode, Encodable] using t.encode_isOk_iff
  | forcedExit t => simpa [encode, Encodable] using t.encode_isOk_iff
  | swap s => exact s.encode_isOk_iff
  | mintNft t => simpa [encode, Encodable] using t.encode_isOk_iff
  | withdrawNft t => simpa [encode, Encodable] using t.encode_isOk_iff

theorem encode_eq_error_iff (t : Transaction) (e : TxError) :
    t.encode = .error e ↔ firstError t.steps = some e := by
  cases t with
  | changePubKey t => rw [encode, steps, ChangePubKey.encode_eq_join, mapError_join_eq_error_iff]
  | transfer t => rw [encode, steps, Transfer.encode_eq_join, mapError_join_eq_error_iff]
  | withdraw t => rw [encode, steps, Withdraw.encode_eq_join, mapError_join_eq_error_iff]
  | forcedExit t => rw [encode, steps, ForcedExit.encode_eq_join, mapError_join_eq_error_iff]
  | swap s => exact s.encode_eq_error_iff e
  | mintNft t => rw [encode, steps, MintNft.encode_eq_join, mapError_join_eq_error_iff]
  | withdrawNft t => rw [encode, steps, WithdrawNft.encode_eq_join, mapError_join_eq_error_iff]

end Transaction

/-- Every encoder succeeds exactly on its domain and otherwise fails with the error of the first
step that fails; of a swap's steps only the hasher reports signer errors. -/
theorem Payload.encode_ok_iff_encodable_error_first_step :
    (∀ t : Transaction, ((∃ b, t.encode = .ok b) ↔ t.Encodable) ∧
      ∀ e, t.encode = .error e ↔ firstError t.steps = some e) ∧
    (∀ o : Order, ((∃ b, o.encode = .ok b) ↔ o.Encodable) ∧
      ∀ e, o.encode = .error e ↔ firstError o.writers = some e) ∧
    (∀ (s : Swap) e, s.encode = .error (.signer e) ↔
      ∃ m₁ m₂, s.orders.1.encode = .ok m₁ ∧ s.orders.2.encode = .ok m₂ ∧
        s.hasher.hash (m₁ ++ m₂) = .error e) :=
  ⟨fun t => ⟨t.encode_isOk_iff, t.encode_eq_error_iff⟩,
    fun o => ⟨o.encode_isOk_iff, o.encode_eq_error_iff⟩, Swap.encode_eq_signer_iff⟩

/-- A swap with an oversized submitter id, two orders with oversized account ids and a hasher
that always fails reports the first order's account id. -/
theorem Payload.swap_reports_first_order_before_hasher :
    Transaction.encode (.swap ⟨2 ^ 32, "", (0, 0),
        (⟨2 ^ 32, "", 0, Token.eth, Token.eth, 0, ⟨1, 1⟩, Window.default, none, none⟩,
          ⟨2 ^ 32 + 1, "", 0, Token.eth, Token.eth, 0, ⟨1, 1⟩, Window.default, none, none⟩),
        Token.eth, 0, 0, none, OrderHasher.failing "unavailable"⟩) =
      .error (.encode (.range "account id" (2 ^ 32) 4)) :=
  ((encode_ok_iff_encodable_error_first_step.1 _).2 _).2 (by decide +kernel)

end RollupTx
