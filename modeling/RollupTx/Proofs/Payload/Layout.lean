import RollupTx.Proofs.Payload.Writers
import RollupTx.Tx.Transaction

/-!
# Payload layouts

Every encoder runs a fixed list of field writers, header first, and joins their bytes
(`encode_eq_join`). Each kind of payload has a layout: the offset, width and meaning of every
field, in the canonical order. Because each writer meets its slot, a payload that encodes holds
its layout (`holds_layout`): it has the kind's fixed length and every field reads back from its
offset. The first byte names the kind, so payloads of different kinds, orders included, never
coincide. `encoded_payloads_hold_layouts` collects the eight layouts and that separation.
-/

namespace RollupTx

open Payload Packed

/-- The header slot of a payload of kind `k`: the discriminator `255 - tag` and version 1. -/
def TxKind.headerSlot (k : TxKind) : Slot :=
  ⟨0, 2, (· = [UInt8.ofNat (255 - k.tag), 1])⟩

theorem meets_header (k : TxKind) :
    Meets (.ok k.header : Except EncodeError (List UInt8)) k.headerSlot :=
  meets_ok rfl rfl

namespace Transfer

/-- The writers of a transfer payload, in the order the encoder runs them. -/
def writers (t : Transfer) : List (Except EncodeError (List UInt8)) :=
  [.ok TxKind.transfer.header, Field.accountId t.accountId, Field.address t.fromAddress,
    Field.address t.toAddress, Field.tokenId t.token.id, packAmount t.amount, feeByte t.fee,
    Field.nonce t.nonce, .ok (Field.timestamp t.window.validFrom),
    .ok (Field.timestamp t.window.validUntil)]

theorem encode_eq_join (t : Transfer) : t.encode = join t.writers := by
  simp only [encode, writers, join_cons_ok, feeByte]
  rcases Field.accountId t.accountId with _ | a
  · rfl
  rcases Field.address t.fromAddress with _ | s
  · rfl
  rcases Field.address t.toAddress with _ | r
  · rfl
  rcases Field.tokenId t.token.id with _ | k
  · rfl
  rcases packAmount t.amount with _ | m
  · rfl
  rcases packFee t.fee with _ | f
  · rfl
  rcases Field.nonce t.nonce with _ | n
  · rfl
  simp [bind, Except.bind, pure, Except.pure, Except.map]

/-- Where each field of a transfer payload lies and what it says. -/
def layout (t : Transfer) : List Slot :=
  [TxKind.transfer.headerSlot,
    ⟨2, 4, fun bs => BigEndian.decode bs = t.accountId⟩,
    ⟨6, 20, fun bs => Field.address t.fromAddress = .ok bs⟩,
    ⟨26, 20, fun bs => Field.address t.toAddress = .ok bs⟩,
    ⟨46, 4, fun bs => BigEndian.decode bs = t.token.id⟩,
    ⟨50, 5, fun bs => unpackAmount bs = t.amount⟩,
    ⟨55, 1, fun bs => bs.map unpackFee = [t.fee]⟩,
    ⟨56, 4, fun bs => BigEndian.decode bs = t.nonce⟩,
    ⟨60, 8, fun bs => BigEndian.decode bs = t.window.validFrom⟩,
    ⟨68, 8, fun bs => BigEndian.decode bs = t.window.validUntil⟩]

theorem holds_layout {t : Transfer} {b : List UInt8} (h : t.encode = .ok b) :
    Holds t.layout 76 b := by
  rw [encode_eq_join] at h
  refine holds_join ?_ (by simp [layout, TxKind.headerSlot, Tiles]) h
  exact .cons (meets_header _) <| .cons (meets_word _ _) <| .cons (meets_address _) <|
    .cons (meets_address _) <| .cons (meets_word _ _) <| .cons (meets_packAmount _) <|
    .cons (meets_feeByte _) <| .cons (meets_word _ _) <|
    .cons (meets_timestamp t.window.validFrom_lt) <|
    .cons (meets_timestamp t.window.validUntil_lt) .nil

end Transfer

namespace Withdraw

def writers (t : Withdraw) : List (Except EncodeError (List UInt8)) :=
  [.ok TxKind.withdraw.header, Field.accountId t.accountId, Field.address t.fromAddress,
    Field.address t.toAddress, Field.tokenId t.token.id, Field.rawAmount t.amount,
    feeByte t.fee, Field.nonce t.nonce, .ok (Field.timestamp t.window.validFrom),
    .ok (Field.timestamp t.window.validUntil)]

theorem encode_eq_join (t : Withdraw) : t.encode = join t.writers := by
  simp only [encode, writers, join_cons_ok, feeByte]
  rcases Field.accountId t.accountId with _ | a
  · rfl
  rcases Field.address t.fromAddress with _ | s
  · rfl
  rcases Field.address t.toAddress with _ | r
  · rfl
  rcases Field.tokenId t.token.id with _ | k
  · rfl
  rcases Field.rawAmount t.amount with _ | m
  · rfl
  rcases packFee t.fee with _ | f
  · rfl
  rcases Field.nonce t.nonce with _ | n
  · rfl
  simp [bind, Except.bind, pure, Except.pure, Except.map]

/-- Where each field of a withdrawal payload lies and what it says; the amount is not packed. -/
def layout (t : Withdraw) : List Slot :=
  [TxKind.withdraw.headerSlot,
    ⟨2, 4, fun bs => BigEndian.decode bs = t.accountId⟩,
    ⟨6, 20, fun bs => Field.address t.fromAddress = .ok bs⟩,
    ⟨26, 20, fun bs => Field.address t.toAddress = .ok bs⟩,
    ⟨46, 4, fun bs => BigEndian.decode bs = t.token.id⟩,
    ⟨50, 16, fun bs => BigEndian.decode bs = t.amount⟩,
    ⟨66, 1, fun bs => bs.map unpackFee = [t.fee]⟩,
    ⟨67, 4, fun bs => BigEndian.decode bs = t.nonce⟩,
    ⟨71, 8, fun bs => BigEndian.decode bs = t.window.validFrom⟩,
    ⟨79, 8, fun bs => BigEndian.decode bs = t.window.validUntil⟩]

theorem holds_layout {t : Withdraw} {b : List UInt8} (h : t.encode = .ok b) :
    Holds t.layout 87 b := by
  rw [encode_eq_join] at h
  refine holds_join ?_ (by simp [layout, TxKind.headerSlot, Tiles]) h
  exact .cons (meets_header _) <| .cons (meets_word _ _) <| .cons (meets_address _) <|
    .cons (meets_address _) <| .cons (meets_word _ _) <|
    .cons (meets_intBytes _ _ 16 (by decide)) <|
    .cons (meets_feeByte _) <| .cons (meets_word _ _) <|
    .cons (meets_timestamp t.window.validFrom_lt) <|
    .cons (meets_timestamp t.window.validUntil_lt) .nil

end Withdraw

namespace ChangePubKey

def writers (t : ChangePubKey) : List (Except EncodeError (List UInt8)) :=
  [.ok TxKind.changePubKey.header, Field.accountId t.accountId, Field.address t.account,
    Field.address t.newPkHash, Field.tokenId t.feeToken.id, feeByte t.fee, Field.nonce t.nonce,
    .ok (Field.timestamp t.window.validFrom), .ok (Field.timestamp t.window.validUntil)]

theorem encode_eq_join (t : ChangePubKey) : t.encode = join t.writers := by
  simp only [encode, writers, join_cons_ok, feeByte]
  rcases Field.accountId t.accountId with _ | a
  · rfl
  rcases Field.address t.account with _ | s
  · rfl
  rcases Field.address t.newPkHash with _ | r
  · rfl
  rcases Field.tokenId t.feeToken.id with _ | k
  · rfl
  rcases packFee t.fee with _ | f
  · rfl
  rcases Field.nonce t.nonce with _ | n
  · rfl
  simp [bind, Except.bind, pure, Except.pure, Except.map]

/-- Where each field of a key change payload lies and what it says. -/
def layout (t : ChangePubKey) : List Slot :=
  [TxKind.changePubKey.headerSlot,
    ⟨2, 4, fun bs => BigEndian.decode bs = t.accountId⟩,
    ⟨6, 20, fun bs => Field.address t.account = .ok bs⟩,
    ⟨26, 20, fun bs => Field.address t.newPkHash = .ok bs⟩,
    ⟨46, 4, fun bs => BigEndian.decode bs = t.feeToken.id⟩,
    ⟨50, 1, fun bs => bs.map unpackFee = [t.fee]⟩,
    ⟨51, 4, fun bs => BigEndian.decode bs = t.nonce⟩,
    ⟨55, 8, fun bs => BigEndian.decode bs = t.window.validFrom⟩,
    ⟨63, 8, fun bs => BigEndian.decode bs = t.window.validUntil⟩]

theorem holds_layout {t : ChangePubKey} {b : List UInt8} (h : t.encode = .ok b) :
    Holds t.layout 71 b := by
  rw [encode_eq_join] at h
  refine holds_join ?_ (by simp [layout, TxKind.headerSlot, Tiles]) h
  exact .cons (meets_header _) <| .cons (meets_word _ _) <| .cons (meets_address _) <|
    .cons (meets_address _) <| .cons (meets_word _ _) <| .cons (meets_feeByte _) <|
    .cons (meets_word _ _) <| .cons (meets_timestamp t.window.validFrom_lt) <|
    .cons (meets_timestamp t.window.validUntil_lt) .nil

end ChangePubKey

namespace ForcedExit

def writers (t : ForcedExit) : List (Except EncodeError (List UInt8)) :=
  [.ok TxKind.forcedExit.header, Field.accountId t.initiatorAccountId, Field.address t.target,
    Field.tokenId t.token.id, feeByte t.fee, Field.nonce t.nonce,
    .ok (Field.timestamp t.window.validFrom), .ok (Field.timestamp t.window.validUntil)]

theorem encode_eq_join (t : ForcedExit) : t.encode = join t.writers := by
  simp only [encode, writers, join_cons_ok, feeByte]
  rcases Field.accountId t.initiatorAccountId with _ | a
  · rfl
  rcases Field.address t.target with _ | s
  · rfl
  rcases Field.tokenId t.token.id with _ | k
  · rfl
  rcases packFee t.fee with _ | f
  · rfl
  rcases Field.nonce t.nonce with _ | n
  · rfl
  simp [bind, Except.bind, pure, Except.pure, Except.map]

/-- Where each field of a forced exit payload lies and what it says. -/
def layout (t : ForcedExit) : List Slot :=
  [TxKind.forcedExit.headerSlot,
    ⟨2, 4, fun bs => BigEndian.decode bs = t.initiatorAccountId⟩,
    ⟨6, 20, fun bs => Field.address t.target = .ok bs⟩,
    ⟨26, 4, fun bs => BigEndian.decode bs = t.token.id⟩,
    ⟨30, 1, fun bs => bs.map unpackFee = [t.fee]⟩,
    ⟨31, 4, fun bs => BigEndian.decode bs = t.nonce⟩,
    ⟨35, 8, fun bs => BigEndian.decode bs = t.window.validFrom⟩,
    ⟨43, 8, fun bs => BigEndian.decode bs = t.window.validUntil⟩]

theorem holds_layout {t : ForcedExit} {b : List UInt8} (h : t.encode = .ok b) :
    Holds t.layout 51 b := by
  rw [encode_eq_join] at h
  refine holds_join ?_ (by simp [layout, TxKind.headerSlot, Tiles]) h
  exact .cons (meets_header _) <| .cons (meets_word _ _) <| .cons (meets_address _) <|
    .cons (meets_word _ _) <| .cons (meets_feeByte _) <| .cons (meets_word _ _) <|
    .cons (meets_timestamp t.window.validFrom_lt) <|
    .cons (meets_timestamp t.window.validUntil_lt) .nil

end ForcedExit

namespace MintNft

def writers (t : MintNft) : List (Except EncodeError (List UInt8)) :=
  [.ok TxKind.mintNft.header, Field.accountId t.creatorId, Field.address t.creatorAddress,
    Field.contentHash t.contentHash, Field.address t.recipient, Field.tokenId t.feeToken.id,
    feeByte t.fee, Field.nonce t.nonce]

theorem encode_eq_join (t : MintNft) : t.encode = join t.writers := by
  simp only [encode, writers, join_cons_ok, feeByte]
  rcases Field.accountId t.creatorId with _ | a
  · rfl
  rcases Field.address t.creatorAddress with _ | s
  · rfl
  rcases Field.contentHash t.contentHash with _ | c
  · rfl
  rcases Field.address t.recipient with _ | r
  · rfl
  rcases Field.tokenId t.feeToken.id with _ | k
  · rfl
  rcases packFee t.fee with _ | f
  · rfl
  rcases Field.nonce t.nonce with _ | n
  · rfl
  simp [bind, Except.bind, pure, Except.pure, Except.map]

/-- Where each field of a mint payload lies and what it says; a mint has no window. -/
def layout (t : MintNft) : List Slot :=
  [TxKind.mintNft.headerSlot,
    ⟨2, 4, fun bs => BigEndian.decode bs = t.creatorId⟩,
    ⟨6, 20, fun bs => Field.address t.creatorAddress = .ok bs⟩,
    ⟨26, 32, fun bs => Field.contentHash t.contentHash = .ok bs⟩,
    ⟨58, 20, fun bs => Field.address t.recipient = .ok bs⟩,
    ⟨78, 4, fun bs => BigEndian.decode bs = t.feeToken.id⟩,
    ⟨82, 1, fun bs => bs.map unpackFee = [t.fee]⟩,
    ⟨83, 4, fun bs => BigEndian.decode bs = t.nonce⟩]

theorem holds_layout {t : MintNft} {b : List UInt8} (h : t.encode = .ok b) :
    Holds t.layout 87 b := by
  rw [encode_eq_join] at h
  refine holds_join ?_ (by simp [layout, TxKind.headerSlot, Tiles]) h
  exact .cons (meets_header _) <| .cons (meets_word _ _) <| .cons (meets_address _) <|
    .cons (meets_contentHash _) <| .cons (meets_address _) <| .cons (meets_word _ _) <|
    .cons (meets_feeByte _) <| .cons (meets_word _ _) .nil

end MintNft

namespace WithdrawNft

def writers (t : WithdrawNft) : List (Except EncodeError (List UInt8)) :=
  [.ok TxKind.withdrawNft.header, Field.accountId t.accountId, Field.address t.fromAddress,
    Field.address t.toAddress, Field.tokenId t.tokenId, Field.tokenId t.feeToken.id,
    feeByte t.fee, Field.nonce t.nonce, .ok (Field.timestamp t.window.validFrom),
    .ok (Field.timestamp t.window.validUntil)]

theorem encode_eq_join (t : WithdrawNft) : t.encode = join t.writers := by
  simp only [encode, writers, join_cons_ok, feeByte]
  rcases Field.accountId t.accountId with _ | a
  · rfl
  rcases Field.address t.fromAddress with _ | s
  · rfl
  rcases Field.address t.toAddress with _ | r
  · rfl
  rcases Field.tokenId t.tokenId with _ | i
  · rfl
  rcases Field.tokenId t.feeToken.id with _ | k
  · rfl
  rcases packFee t.fee with _ | f
  · rfl
  rcases Field.nonce t.nonce with _ | n
  · rfl
  simp [bind, Except.bind, pure, Except.pure, Except.map]

/-- Where each field of an NFT withdrawal payload lies and what it says: the NFT's id comes
before the fee token's. -/
def layout (t : WithdrawNft) : List Slot :=
  [TxKind.withdrawNft.headerSlot,
    ⟨2, 4, fun bs => BigEndian.decode bs = t.accountId⟩,
    ⟨6, 20, fun bs => Field.address t.fromAddress = .ok bs⟩,
    ⟨26, 20, fun bs => Field.address t.toAddress = .ok bs⟩,
    ⟨46, 4, fun bs => BigEndian.decode bs = t.tokenId⟩,
    ⟨50, 4, fun bs => BigEndian.decode bs = t.feeToken.id⟩,
    ⟨54, 1, fun bs => bs.map unpackFee = [t.fee]⟩,
    ⟨55, 4, fun bs => BigEndian.decode bs = t.nonce⟩,
    ⟨59, 8, fun bs => BigEndian.decode bs = t.window.validFrom⟩,
    ⟨67, 8, fun bs => BigEndian.decode bs = t.window.validUntil⟩]

theorem holds_layout {t : WithdrawNft} {b : List UInt8} (h : t.encode = .ok b) :
    Holds t.layout 75 b := by
  rw [encode_eq_join] at h
  refine holds_join ?_ (by simp [layout, TxKind.headerSlot, Tiles]) h
  exact .cons (meets_header _) <| .cons (meets_word _ _) <| .cons (meets_address _) <|
    .cons (meets_address _) <| .cons (meets_word _ _) <| .cons (meets_word _ _) <|
    .cons (meets_feeByte _) <| .cons (meets_word _ _) <|
    .cons (meets_timestamp t.window.validFrom_lt) <|
    .cons (meets_timestamp t.window.validUntil_lt) .nil

end WithdrawNft

namespace Order

/-- The header slot of an order payload: the letter `o` and version 1. -/
def headerSlot : Slot := ⟨0, 2, (· = [111, 1])⟩

def writers (o : Order) : List (Except EncodeError (List UInt8)) :=
  [.ok [orderMarker, formatVersion], Field.accountId o.accountId, Field.address o.recipient,
    Field.nonce o.nonce, Field.tokenId o.tokenSell.id, Field.tokenId o.tokenBuy.id,
    Field.ratioPart o.ratio.numerator, Field.ratioPart o.ratio.denominator, packAmount o.amount,
    .ok (Field.timestamp o.window.validFrom), .ok (Field.timestamp o.window.validUntil)]

theorem encode_eq_join (o : Order) : o.encode = join o.writers := by
  simp only [encode, writers, join_cons_ok]
  rcases Field.accountId o.accountId with _ | a
  · rfl
  rcases Field.address o.recipient with _ | r
  · rfl
  rcases Field.nonce o.nonce with _ | n
  · rfl
  rcases Field.tokenId o.tokenSell.id with _ | s
  · rfl
  rcases Field.tokenId o.tokenBuy.id with _ | k
  · rfl
  rcases Field.ratioPart o.ratio.numerator with _ | p
  · rfl
  rcases Field.ratioPart o.ratio.denominator with _ | q
  · rfl
  rcases packAmount o.amount with _ | m
  · rfl
  simp [bind, Except.bind, pure, Except.pure, Except.map]

/-- Where each field of an order payload lies and what it says. -/
def layout (o : Order) : List Slot :=
  [headerSlot,
    ⟨2, 4, fun bs => BigEndian.decode bs = o.accountId⟩,
    ⟨6, 20, fun bs => Field.address o.recipient = .ok bs⟩,
    ⟨26, 4, fun bs => BigEndian.decode bs = o.nonce⟩,
    ⟨30, 4, fun bs => BigEndian.decode bs = o.tokenSell.id⟩,
    ⟨34, 4, fun bs => BigEndian.decode bs = o.tokenBuy.id⟩,
    ⟨38, 16, fun bs => BigEndian.decode bs = o.ratio.numerator⟩,
    ⟨54, 16, fun bs => BigEndian.decode bs = o.ratio.denominator⟩,
    ⟨70, 5, fun bs => unpackAmount bs = o.amount⟩,
    ⟨75, 8, fun bs => BigEndian.decode bs = o.window.validFrom⟩,
    ⟨83, 8, fun bs => BigEndian.decode bs = o.window.validUntil⟩]

theorem holds_layout {o : Order} {b : List UInt8} (h : o.encode = .ok b) :
    Holds o.layout 91 b := by
  rw [encode_eq_join] at h
  refine holds_join ?_ (by simp [layout, headerSlot, Tiles]) h
  exact .cons (meets_ok rfl rfl) <| .cons (meets_word _ _) <| .cons (meets_address _) <|
    .cons (meets_word _ _) <| .cons (meets_word _ _) <| .cons (meets_word _ _) <|
    .cons (meets_intBytes _ _ 16 (by decide)) <| .cons (meets_intBytes _ _ 16 (by decide)) <|
    .cons (meets_packAmount _) <| .cons (meets_timestamp o.window.validFrom_lt) <|
    .cons (meets_timestamp o.window.validUntil_lt) .nil

end Order

namespace Swap

/-- The writers of a swap payload after its orders hash, in the order the encoder runs them. -/
def writers (s : Swap) (hash : List UInt8) : List (Except EncodeError (List UInt8)) :=
  [.ok TxKind.swap.header, Field.accountId s.submitterId, Field.address s.submitterAddress,
    Field.nonce s.nonce, .ok hash, Field.tokenId s.feeToken.id, feeByte s.fee,
    packAmount s.amounts.1, packAmount s.amounts.2]

theorem encodeFields_eq_join (s : Swap) (hash : List UInt8) :
    s.encodeFields hash = join (s.writers hash) := by
  simp only [encodeFields, writers, join_cons_ok, feeByte]
  rcases Field.accountId s.submitterId with _ | a
  · rfl
  rcases Field.address s.submitterAddress with _ | r
  · rfl
  rcases Field.nonce s.nonce with _ | n
  · rfl
  rcases Field.tokenId s.feeToken.id with _ | k
  · rfl
  rcases packFee s.fee with _ | f
  · rfl
  rcases packAmount s.amounts.1 with _ | m
  · rfl
  rcases packAmount s.amounts.2 with _ | m'
  · rfl
  simp [bind, Except.bind, pure, Except.pure, Except.map]

theorem encode_eq_ok_iff {s : Swap} {b : List UInt8} :
    s.encode = .ok b ↔ ∃ hash, s.ordersHash = .ok hash ∧ s.encodeFields hash = .ok b := by
  unfold encode
  cases s.ordersHash with
  | error e => simp [bind, Except.bind]
  | ok hash => cases h : s.encodeFields hash <;> simp [bind, Except.bind, Except.mapError, h]

/-- The orders hash fails with the first order's error, else the second's, and otherwise is
the hasher's answer on both payloads. -/
theorem ordersHash_cases (s : Swap) :
    (∃ e, s.orders.1.encode = .error e ∧ s.ordersHash = .error (.encode e)) ∨
    (∃ m₁ e, s.orders.1.encode = .ok m₁ ∧ s.orders.2.encode = .error e ∧
      s.ordersHash = .error (.encode e)) ∨
    (∃ m₁ m₂, s.orders.1.encode = .ok m₁ ∧ s.orders.2.encode = .ok m₂ ∧
      s.ordersHash = (s.hasher.hash (m₁ ++ m₂)).mapError .signer) := by
  unfold ordersHash ordersMessage
  cases h₁ : s.orders.1.encode with
  | error e₁ => exact .inl ⟨e₁, rfl, rfl⟩
  | ok m₁ =>
    cases h₂ : s.orders.2.encode with
    | error e₂ => exact .inr (.inl ⟨m₁, e₂, rfl, rfl, rfl⟩)
    | ok m₂ => exact .inr (.inr ⟨m₁, m₂, rfl, rfl, rfl⟩)

/-- The hasher's digest is 32 bytes, whatever hasher the swap carries. -/
theorem length_of_ordersHash {s : Swap} {hash : List UInt8} (h : s.ordersHash = .ok hash) :
    hash.length = 32 := by
  rcases ordersHash_cases s with ⟨e₁, -, hh⟩ | ⟨m₁, e₂, -, -, hh⟩ | ⟨m₁, m₂, -, -, hh⟩
  · rw [hh] at h
    cases h
  · rw [hh] at h
    cases h
  · rw [hh, mapError_eq_ok_iff] at h
    exact s.hasher.length_hash _ _ h

/-- Where each field of a swap payload lies and what it says: the orders are present only
through their hash. -/
def layout (s : Swap) : List Slot :=
  [TxKind.swap.headerSlot,
    ⟨2, 4, fun bs => BigEndian.decode bs = s.submitterId⟩,
    ⟨6, 20, fun bs => Field.address s.submitterAddress = .ok bs⟩,
    ⟨26, 4, fun bs => BigEndian.decode bs = s.nonce⟩,
    ⟨30, 32, fun bs => s.ordersHash = .ok bs⟩,
    ⟨62, 4, fun bs => BigEndian.decode bs = s.feeToken.id⟩,
    ⟨66, 1, fun bs => bs.map unpackFee = [s.fee]⟩,
    ⟨67, 5, fun bs => unpackAmount bs = s.amounts.1⟩,
    ⟨72, 5, fun bs => unpackAmount bs = s.amounts.2⟩]

theorem holds_layout {s : Swap} {b : List UInt8} (h : s.encode = .ok b) :
    Holds s.layout 77 b := by
  obtain ⟨hash, hhash, hfields⟩ := encode_eq_ok_iff.1 h
  rw [encodeFields_eq_join] at hfields
  refine holds_join ?_ (by simp [layout, TxKind.headerSlot, Tiles]) hfields
  exact .cons (meets_header _) <| .cons (meets_word _ _) <| .cons (meets_address _) <|
    .cons (meets_word _ _) <| .cons (meets_ok (length_of_ordersHash hhash) hhash) <|
    .cons (meets_word _ _) <| .cons (meets_feeByte _) <| .cons (meets_packAmount _) <|
    .cons (meets_packAmount _) .nil

end Swap

theorem TxKind.eq_of_discriminator_eq {k₁ k₂ : TxKind}
    (h : UInt8.ofNat (255 - k₁.tag) = UInt8.ofNat (255 - k₂.tag)) : k₁ = k₂ := by
  revert h
  cases k₁ <;> cases k₂ <;> decide

theorem TxKind.discriminator_ne_orderMarker (k : TxKind) : UInt8.ofNat (255 - k.tag) ≠ 111 := by
  cases k <;> decide

namespace Transaction

/-- A payload opens with its kind's discriminator and the version. -/
theorem encode_header {t : Transaction} {b : List UInt8} (h : t.encode = .ok b) :
    b.extract 0 2 = [UInt8.ofNat (255 - t.kind.tag), 1] := by
  cases t with
  | changePubKey t =>
    exact (ChangePubKey.holds_layout (mapError_eq_ok_iff.1 h)).2 _ List.mem_cons_self
  | transfer t => exact (Transfer.holds_layout (mapError_eq_ok_iff.1 h)).2 _ List.mem_cons_self
  | withdraw t => exact (Withdraw.holds_layout (mapError_eq_ok_iff.1 h)).2 _ List.mem_cons_self
  | forcedExit t =>
    exact (ForcedExit.holds_layout (mapError_eq_ok_iff.1 h)).2 _ List.mem_cons_self
  | swap s => exact (Swap.holds_layout h).2 _ List.mem_cons_self
  | mintNft t => exact (MintNft.holds_layout (mapError_eq_ok_iff.1 h)).2 _ List.mem_cons_self
  | withdrawNft t =>
    exact (WithdrawNft.holds_layout (mapError_eq_ok_iff.1 h)).2 _ List.mem_cons_self

/-- Two transactions with the same payload are of the same kind. -/
theorem kind_eq_of_encode_eq {t₁ t₂ : Transaction} {b : List UInt8} (h₁ : t₁.encode = .ok b)
    (h₂ : t₂.encode = .ok b) : t₁.kind = t₂.kind := by
  have hfirst := (encode_header h₁).symm.trans (encode_header h₂)
  simp only [List.cons.injEq, and_true] at hfirst
  exact TxKind.eq_of_discriminator_eq hfirst

/-- No transaction payload is an order payload. -/
theorem encode_ne_order_encode {t : Transaction} {o : Order} {b : List UInt8}
    (h : t.encode = .ok b) : o.encode ≠ .ok b := by
  intro ho
  have horder : b.extract 0 2 = [111, 1] := (Order.holds_layout ho).2 _ List.mem_cons_self
  rw [encode_header h] at horder
  simp only [List.cons.injEq, and_true] at horder
  exact TxKind.discriminator_ne_orderMarker _ horder

end Transaction

/-- Every payload that encodes has its kind's fixed length, every field reads back from its
offset in the canonical order, and the first byte separates the kinds and orders. -/
theorem Payload.encoded_payloads_hold_layouts :
    (∀ (t : Transfer) b, t.encode = .ok b → Holds t.layout 76 b) ∧
    (∀ (t : Withdraw) b, t.encode = .ok b → Holds t.layout 87 b) ∧
    (∀ (t : ChangePubKey) b, t.encode = .ok b → Holds t.layout 71 b) ∧
    (∀ (t : ForcedExit) b, t.encode = .ok b → Holds t.layout 51 b) ∧
    (∀ (t : MintNft) b, t.encode = .ok b → Holds t.layout 87 b) ∧
    (∀ (t : WithdrawNft) b, t.encode = .ok b → Holds t.layout 75 b) ∧
    (∀ (s : Swap) b, s.encode = .ok b → Holds s.layout 77 b) ∧
    (∀ (o : Order) b, o.encode = .ok b → Holds o.layout 91 b) ∧
    (∀ (t₁ t₂ : Transaction) b, t₁.encode = .ok b → t₂.encode = .ok b → t₁.kind = t₂.kind) ∧
    (∀ (t : Transaction) (o : Order) b, t.encode = .ok b → o.encode ≠ .ok b) :=
  ⟨fun _ _ => Transfer.holds_layout, fun _ _ => Withdraw.holds_layout,
    fun _ _ => ChangePubKey.holds_layout, fun _ _ => ForcedExit.holds_layout,
    fun _ _ => MintNft.holds_layout, fun _ _ => WithdrawNft.holds_layout,
    fun _ _ => Swap.holds_layout, fun _ _ => Order.holds_layout,
    fun _ _ _ => Transaction.kind_eq_of_encode_eq, fun _ _ _ => Transaction.encode_ne_order_encode⟩

/-- A transfer of 1 ETH between zero addresses: its payload holds the transfer layout. -/
theorem Payload.one_ether_transfer_holds_layout :
    Holds (⟨5, "0x0000000000000000000000000000000000000000",
        "0x0000000000000000000000000000000000000000", Token.eth, 1000000000000000000, 0, 0,
        Window.default, none⟩ : Transfer).layout 76
      ([0xfa, 1, 0, 0, 0, 5] ++ List.replicate 40 0 ++
        [0, 0, 0, 0, 0x4a, 0x81, 0x7c, 0x80, 0x08, 0, 0, 0, 0, 0] ++ List.replicate 8 0 ++
        [0, 0, 0, 0, 0xff, 0xff, 0xff, 0xff]) :=
  encoded_payloads_hold_layouts.1 _ _ (by decide +kernel)

end RollupTx
