import Mathlib
import RollupTx.Fixture.Vectors
import RollupTx.Proofs.Encode.HexText
import RollupTx.Proofs.Payload.Frame

/-!
# The transport dictionary determines the payload

An operator rebuilds a transaction from its transport dictionary and checks the signature
against the payload of what it rebuilt. That is sound because every field a payload reads
stands in the dictionary in a form that determines it: ids, nonces and timestamps as JSON
naturals, addresses and key hashes as the strings themselves, amounts, fees and ratio parts as
their decimal digits, each order of a swap as its own dictionary, and a key change's batch hash
or CREATE2 salt as `0x` hex. Each dictionary starts with its kind's name.

So two transactions with one dictionary are of one kind, run the same field writers and have
the same payload, a failure included; two key changes with one dictionary also have the same
wallet signing bytes. A swap reaches its orders through a caller's hasher, so two swaps agree
when their hashers do. An order's dictionary has no `type` field and is never a transaction's.
`dictionary_determines_payload` collects these facts.
-/

namespace RollupTx

open Payload

@[simp] theorem Json.ofNat_inj {m n : Nat} : Json.ofNat m = Json.ofNat n ↔ m = n := by
  simp [Json.ofNat]

theorem TxKind.name_injective : Function.Injective TxKind.name := by
  intro k₁ k₂ h
  cases k₁ <;> cases k₂ <;> simp [name] at h ⊢

namespace KeyAuth

theorem prefixedHex_inj {a b : List UInt8} (h : prefixedHex a = prefixedHex b) : a = b :=
  Hex.encode_injective ((String.append_right_inj "0x").mp h)

/-- The `ethAuthData` object determines what the authorization adds to the signed bytes: the
batch hash of an ECDSA authorization and the salt of a CREATE2 one. -/
theorem signingSuffix_eq_of_toJson {a₁ a₂ : KeyAuth} {e₁ e₂ : Option EthSignature}
    (h : a₁.toJson e₁ = a₂.toJson e₂) : a₁.signingSuffix = a₂.signingSuffix := by
  cases a₁ <;> cases a₂ <;> simp [toJson] at h
  case onchain.onchain => rfl
  case ecdsa.ecdsa h₁ h₂ => exact prefixedHex_inj h.2
  case create2.create2 c₁ s₁ d₁ c₂ s₂ d₂ => exact prefixedHex_inj h.1

end KeyAuth

theorem Transfer.writers_eq_of_toJson {t₁ t₂ : Transfer} (h : t₁.toJson = t₂.toJson) :
    t₁.writers = t₂.writers := by
  simp only [Transfer.toJson, Json.obj.injEq, List.cons.injEq, Prod.mk.injEq, Json.str.injEq,
    Json.ofNat_inj, Nat.toString_eq_repr, Nat.repr_inj, true_and] at h
  obtain ⟨hacc, hfrom, hto, htoken, hfee, hnonce, -, hamount, hstart, hend, -⟩ := h
  simp only [Transfer.writers, hacc, hfrom, hto, htoken, hfee, hnonce, hamount, hstart, hend]

theorem Withdraw.writers_eq_of_toJson {t₁ t₂ : Withdraw} (h : t₁.toJson = t₂.toJson) :
    t₁.writers = t₂.writers := by
  simp only [Withdraw.toJson, Json.obj.injEq, List.cons.injEq, Prod.mk.injEq, Json.str.injEq,
    Json.ofNat_inj, Nat.toString_eq_repr, Nat.repr_inj, true_and] at h
  obtain ⟨hacc, hfrom, hto, htoken, hfee, hnonce, -, hamount, hstart, hend, -⟩ := h
  simp only [Withdraw.writers, hacc, hfrom, hto, htoken, hfee, hnonce, hamount, hstart, hend]

theorem ForcedExit.writers_eq_of_toJson {t₁ t₂ : ForcedExit} (h : t₁.toJson = t₂.toJson) :
    t₁.writers = t₂.writers := by
  simp only [ForcedExit.toJson, Json.obj.injEq, List.cons.injEq, Prod.mk.injEq, Json.str.injEq,
    Json.ofNat_inj, Nat.toString_eq_repr, Nat.repr_inj, true_and] at h
  obtain ⟨hacc, htarget, htoken, hfee, hnonce, -, hstart, hend, -⟩ := h
  simp only [ForcedExit.writers, hacc, htarget, htoken, hfee, hnonce, hstart, hend]

theorem MintNft.writers_eq_of_toJson {t₁ t₂ : MintNft} (h : t₁.toJson = t₂.toJson) :
    t₁.writers = t₂.writers := by
  simp only [MintNft.toJson, Json.obj.injEq, List.cons.injEq, Prod.mk.injEq, Json.str.injEq,
    Json.ofNat_inj, Nat.toString_eq_repr, Nat.repr_inj, true_and] at h
  obtain ⟨hcreator, haddress, hcontent, hrecipient, htoken, hfee, hnonce, -, -⟩ := h
  simp only [MintNft.writers, hcreator, haddress, hcontent, hrecipient, htoken, hfee, hnonce]

theorem WithdrawNft.writers_eq_of_toJson {t₁ t₂ : WithdrawNft} (h : t₁.toJson = t₂.toJson) :
    t₁.writers = t₂.writers := by
  simp only [WithdrawNft.toJson, Json.obj.injEq, List.cons.injEq, Prod.mk.injEq, Json.str.injEq,
    Json.ofNat_inj, Nat.toString_eq_repr, Nat.repr_inj, true_and] at h
  obtain ⟨hacc, hfrom, hto, htoken, hfee, hnonce, hstart, hend, hnft, -, -⟩ := h
  simp only [WithdrawNft.writers, hacc, hfrom, hto, htoken, hfee, hnonce, hstart, hend, hnft]

/-- A key change's dictionary determines both its payload writers and the bytes the wallet
signs: the `ethAuthData` object carries the authorization's suffix. -/
theorem ChangePubKey.writers_eq_of_toJson {t₁ t₂ : ChangePubKey} (h : t₁.toJson = t₂.toJson) :
    t₁.writers = t₂.writers ∧ t₁.ethSigningBytes = t₂.ethSigningBytes := by
  simp only [ChangePubKey.toJson, Json.obj.injEq, List.cons.injEq, Prod.mk.injEq, Json.str.injEq,
    Json.ofNat_inj, Nat.toString_eq_repr, Nat.repr_inj, true_and] at h
  obtain ⟨hacc, haccount, hkey, htoken, hfee, hnonce, hauth, -, hstart, hend, -⟩ := h
  have hsuffix := KeyAuth.signingSuffix_eq_of_toJson hauth
  constructor
  · simp only [ChangePubKey.writers, hacc, haccount, hkey, htoken, hfee, hnonce, hstart, hend]
  · simp only [ChangePubKey.ethSigningBytes, hkey, hnonce, hacc, hsuffix]

theorem Order.writers_eq_of_toJson {o₁ o₂ : Order} (h : o₁.toJson = o₂.toJson) :
    o₁.writers = o₂.writers := by
  simp only [Order.toJson, Json.obj.injEq, Json.arr.injEq, List.cons.injEq, Prod.mk.injEq,
    Json.str.injEq, Json.ofNat_inj, Nat.toString_eq_repr, Nat.repr_inj, true_and] at h
  obtain ⟨hacc, hrecipient, hnonce, hsell, hbuy, hamount, ⟨hnum, hden, -⟩, hstart, hend, -⟩ := h
  simp only [Order.writers, hacc, hrecipient, hnonce, hsell, hbuy, hamount, hnum, hden, hstart,
    hend]

theorem Order.encode_eq_of_toJson {o₁ o₂ : Order} (h : o₁.toJson = o₂.toJson) :
    o₁.encode = o₂.encode := by
  rw [encode_eq_join, encode_eq_join, writers_eq_of_toJson h]

/-- A swap's dictionary determines its own writers and, through their dictionaries, the
payloads of both orders. -/
theorem Swap.writers_eq_of_toJson {s₁ s₂ : Swap} (h : s₁.toJson = s₂.toJson) :
    (∀ hash, s₁.writers hash = s₂.writers hash) ∧ s₁.orders.1.encode = s₂.orders.1.encode ∧
      s₁.orders.2.encode = s₂.orders.2.encode := by
  simp only [Swap.toJson, Json.obj.injEq, Json.arr.injEq, List.cons.injEq, Prod.mk.injEq,
    Json.str.injEq, Json.ofNat_inj, Nat.toString_eq_repr, Nat.repr_inj, true_and] at h
  obtain ⟨hsub, haddress, htoken, hfee, hnonce, -, ⟨hfirst, hsecond, -⟩, ⟨hleg₁, hleg₂, -⟩, -⟩ := h
  refine ⟨fun hash => ?_, Order.encode_eq_of_toJson hleg₁, Order.encode_eq_of_toJson hleg₂⟩
  simp only [Swap.writers, hsub, haddress, htoken, hfee, hnonce, hfirst, hsecond]

theorem Swap.encode_eq_of_toJson {s₁ s₂ : Swap} (hh : s₁.hasher = s₂.hasher)
    (h : s₁.toJson = s₂.toJson) : s₁.encode = s₂.encode := by
  obtain ⟨hwriters, hleg₁, hleg₂⟩ := writers_eq_of_toJson h
  refine encode_eq_of_orders hh hleg₁ hleg₂ fun hash => ?_
  rw [encodeFields_eq_join, encodeFields_eq_join, hwriters]

namespace Transaction

/-- Two transactions hashed alike: swaps with one hasher, and any pair that is not two swaps. -/
def SameHasher : Transaction → Transaction → Prop
  | .swap s₁, .swap s₂ => s₁.hasher = s₂.hasher
  | _, _ => True

theorem toJson_eq_type (t : Transaction) :
    ∃ fields, t.toJson = .obj (("type", .str t.kind.name) :: fields) := by
  cases t <;> exact ⟨_, rfl⟩

theorem kind_eq_of_toJson {t₁ t₂ : Transaction} (h : t₁.toJson = t₂.toJson) :
    t₁.kind = t₂.kind := by
  obtain ⟨fields₁, h₁⟩ := toJson_eq_type t₁
  obtain ⟨fields₂, h₂⟩ := toJson_eq_type t₂
  rw [h₁, h₂] at h
  simp only [Json.obj.injEq, List.cons.injEq, Prod.mk.injEq, Json.str.injEq, true_and] at h
  exact TxKind.name_injective h.1

theorem encode_eq_of_toJson {t₁ t₂ : Transaction} (hh : t₁.SameHasher t₂)
    (h : t₁.toJson = t₂.toJson) : t₁.encode = t₂.encode := by
  have hkind := kind_eq_of_toJson h
  -- one dictionary means one kind, which leaves the seven cases of two values of a kind
  cases t₁ <;> cases t₂ <;> simp only [kind, reduceCtorEq] at hkind
  case changePubKey.changePubKey =>
    simp only [encode, ChangePubKey.encode_eq_join, (ChangePubKey.writers_eq_of_toJson h).1]
  case transfer.transfer =>
    simp only [encode, Transfer.encode_eq_join, Transfer.writers_eq_of_toJson h]
  case withdraw.withdraw =>
    simp only [encode, Withdraw.encode_eq_join, Withdraw.writers_eq_of_toJson h]
  case forcedExit.forcedExit =>
    simp only [encode, ForcedExit.encode_eq_join, ForcedExit.writers_eq_of_toJson h]
  case swap.swap => exact Swap.encode_eq_of_toJson hh h
  case mintNft.mintNft =>
    simp only [encode, MintNft.encode_eq_join, MintNft.writers_eq_of_toJson h]
  case withdrawNft.withdrawNft =>
    simp only [encode, WithdrawNft.encode_eq_join, WithdrawNft.writers_eq_of_toJson h]

/-- An order's dictionary has no `type` field, so it is no transaction's. -/
theorem toJson_ne_order (t : Transaction) (o : Order) : t.toJson ≠ o.toJson := by
  obtain ⟨fields, ht⟩ := toJson_eq_type t
  rw [ht]
  simp [Order.toJson]

/-- The transport dictionary determines the signing payload: two transactions with one
dictionary (swaps with one hasher) are of one kind and have the same payload or the same
error, two key changes with one dictionary have the same wallet signing bytes, two orders with
one dictionary have the same payload, and no order has a transaction's dictionary. -/
theorem dictionary_determines_payload :
    (∀ t₁ t₂ : Transaction, t₁.SameHasher t₂ → t₁.toJson = t₂.toJson →
      t₁.kind = t₂.kind ∧ t₁.encode = t₂.encode) ∧
    (∀ c₁ c₂ : ChangePubKey, c₁.toJson = c₂.toJson →
      c₁.ethSigningBytes = c₂.ethSigningBytes) ∧
    (∀ o₁ o₂ : Order, o₁.toJson = o₂.toJson → o₁.encode = o₂.encode) ∧
    (∀ (t : Transaction) (o : Order), t.toJson ≠ o.toJson) :=
  ⟨fun _ _ hh h => ⟨kind_eq_of_toJson h, encode_eq_of_toJson hh h⟩,
    fun _ _ h => (ChangePubKey.writers_eq_of_toJson h).2, fun _ _ => Order.encode_eq_of_toJson,
    toJson_ne_order⟩

/-- A CREATE2 key change's creator address is not transported, and nothing signed reads it:
two key changes that differ only there share dictionary, payload and signing bytes. -/
theorem create2_creator_outside_dictionary :
    ∃ c₁ c₂ : ChangePubKey, c₁ ≠ c₂ ∧ c₁.toJson = c₂.toJson ∧
      (Transaction.changePubKey c₁).encode = (Transaction.changePubKey c₂).encode ∧
      c₁.ethSigningBytes = c₂.ethSigningBytes := by
  refine ⟨⟨7, SampleVector.bob, SampleVector.bob, Token.eth, 0, 1, Window.default,
      .create2 SampleVector.alice (.replicate 32 0x11) (.replicate 32 0x22), none, none⟩,
    ⟨7, SampleVector.bob, SampleVector.bob, Token.eth, 0, 1, Window.default,
      .create2 SampleVector.zero (.replicate 32 0x11) (.replicate 32 0x22), none, none⟩,
    by decide, rfl, ?_⟩
  exact ⟨(dictionary_determines_payload.1 (.changePubKey _) (.changePubKey _) trivial rfl).2,
    dictionary_determines_payload.2.1 _ _ rfl⟩

end Transaction

end RollupTx
