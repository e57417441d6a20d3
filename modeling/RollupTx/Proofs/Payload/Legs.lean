import RollupTx.Proofs.Encode.HexText
import RollupTx.Proofs.Payload.Domain
import RollupTx.Proofs.Payload.Frame

/-!
# A swap commits to its legs in order

The orders message of a swap is the first leg's payload followed by the second's. Both are
91 bytes, so the message splits back into its legs at one place only: equal messages have equal
legs, and exchanging the legs changes the message exactly when their payloads differ. The orders
hash is the hasher's answer on that message, and the hasher is never run when a leg fails.

The swap's payload holds the orders hash at bytes 30 to 62, so with an injective hasher it tells
the two orders of the legs apart, provided the swap's own fields encode. When one of those fails,
the swap reports that field's error whatever its legs are, and exchanging them changes nothing
(`exchanging_legs_keeps_a_field_error`). `swap_commits_to_legs_in_order` collects these facts.
-/

namespace RollupTx

open Payload

/-- An order payload is 91 bytes and opens with `o` and version 1. -/
theorem Order.length_header_of_encode {o : Order} {m : List UInt8} (h : o.encode = .ok m) :
    m.length = 91 ∧ m.take 2 = [111, 1] := by
  have hlayout := holds_layout h
  have hheader : m.extract 0 2 = [111, 1] := hlayout.2 _ List.mem_cons_self
  exact ⟨hlayout.1, by simpa [List.extract_eq_take_drop] using hheader⟩

theorem Order.length_eq_of_encode {o o' : Order} {m m' : List UInt8} (h : o.encode = .ok m)
    (h' : o'.encode = .ok m') : m.length = m'.length := by
  rw [(length_header_of_encode h).1, (length_header_of_encode h').1]

theorem mapError_signer_injective {α : Type} {x y : Except SignerError α}
    (h : x.mapError TxError.signer = y.mapError TxError.signer) : x = y := by
  cases x <;> cases y <;> simp_all [Except.mapError]

namespace Swap

/-- The swap with its two legs exchanged. -/
def exchangeLegs (s : Swap) : Swap := { s with orders := s.orders.swap }

@[simp] theorem exchangeLegs_orders (s : Swap) : s.exchangeLegs.orders = s.orders.swap := rfl

@[simp] theorem exchangeLegs_hasher (s : Swap) : s.exchangeLegs.hasher = s.hasher := rfl

theorem ordersMessage_eq_ok {s : Swap} {m₀ m₁ : List UInt8} (h₀ : s.orders.1.encode = .ok m₀)
    (h₁ : s.orders.2.encode = .ok m₁) : s.ordersMessage = .ok (m₀ ++ m₁) := by
  simp [ordersMessage, h₀, h₁, bind, Except.bind, pure, Except.pure]

theorem exchangeLegs_ordersMessage {s : Swap} {m₀ m₁ : List UInt8}
    (h₀ : s.orders.1.encode = .ok m₀) (h₁ : s.orders.2.encode = .ok m₁) :
    s.exchangeLegs.ordersMessage = .ok (m₁ ++ m₀) :=
  @ordersMessage_eq_ok s.exchangeLegs m₁ m₀ h₁ h₀

theorem ordersMessage_eq_ok_iff {s : Swap} {m : List UInt8} :
    s.ordersMessage = .ok m ↔
      ∃ m₀ m₁, s.orders.1.encode = .ok m₀ ∧ s.orders.2.encode = .ok m₁ ∧ m = m₀ ++ m₁ := by
  constructor
  · intro h
    cases h₀ : s.orders.1.encode with
    | error e => simp [ordersMessage, h₀, bind, Except.bind] at h
    | ok m₀ =>
      cases h₁ : s.orders.2.encode with
      | error e => simp [ordersMessage, h₀, h₁, bind, Except.bind] at h
      | ok m₁ =>
        rw [ordersMessage_eq_ok h₀ h₁, Except.ok.injEq] at h
        exact ⟨m₀, m₁, rfl, rfl, h.symm⟩
  · rintro ⟨m₀, m₁, h₀, h₁, rfl⟩
    exact ordersMessage_eq_ok h₀ h₁

/-- The hasher runs once, on the orders message, and its answer is the orders hash. -/
theorem ordersHash_of_ordersMessage_ok {s : Swap} {m : List UInt8}
    (h : s.ordersMessage = .ok m) : s.ordersHash = (s.hasher.hash m).mapError .signer := by
  simp [ordersHash, h, bind, Except.bind]

/-- A leg that fails is reported without running the hasher. -/
theorem ordersHash_of_ordersMessage_error {s : Swap} {e : EncodeError}
    (h : s.ordersMessage = .error e) : s.ordersHash = .error (.encode e) := by
  simp [ordersHash, h, bind, Except.bind, Except.mapError]

/-- Orders messages of two swaps agree only when their legs' payloads agree, leg by leg: both
halves have the width of an order payload. -/
theorem legs_eq_of_ordersMessage_eq {s s' : Swap} {m : List UInt8} (h : s.ordersMessage = .ok m)
    (h' : s'.ordersMessage = .ok m) :
    s.orders.1.encode = s'.orders.1.encode ∧ s.orders.2.encode = s'.orders.2.encode := by
  obtain ⟨m₀, m₁, h₀, h₁, rfl⟩ := ordersMessage_eq_ok_iff.1 h
  obtain ⟨m₀', m₁', h₀', h₁', hm⟩ := ordersMessage_eq_ok_iff.1 h'
  obtain ⟨hfirst, hsecond⟩ := List.append_inj hm (Order.length_eq_of_encode h₀ h₀')
  rw [h₀, h₀', h₁, h₁', hfirst, hsecond]
  exact ⟨rfl, rfl⟩

theorem append_comm_iff {m₀ m₁ : List UInt8} (hwidth : m₀.length = m₁.length) :
    m₁ ++ m₀ = m₀ ++ m₁ ↔ m₀ = m₁ := by
  constructor
  · intro h
    exact (List.append_inj h hwidth.symm).1.symm
  · rintro rfl
    rfl

theorem exchangeLegs_ordersMessage_eq_iff {s : Swap} {m₀ m₁ : List UInt8}
    (h₀ : s.orders.1.encode = .ok m₀) (h₁ : s.orders.2.encode = .ok m₁) :
    s.exchangeLegs.ordersMessage = s.ordersMessage ↔ m₀ = m₁ := by
  rw [exchangeLegs_ordersMessage h₀ h₁, ordersMessage_eq_ok h₀ h₁, Except.ok.injEq,
    append_comm_iff (Order.length_eq_of_encode h₀ h₁)]

/-- A payload holds its orders hash at bytes 30 to 62. -/
theorem ordersHash_of_encode_ok {s : Swap} {b : List UInt8} (h : s.encode = .ok b) :
    s.ordersHash = .ok (b.extract 30 62) :=
  (holds_layout h).2 ⟨30, 32, fun bs => s.ordersHash = .ok bs⟩ (by simp [layout])

/-- When the swap's own fields encode, a failure can only be the orders hash's. -/
theorem ordersHash_of_encode_error {s : Swap} {e : TxError} (hfields : s.FieldsEncodable)
    (h : s.encode = .error e) : s.ordersHash = .error e := by
  cases hhash : s.ordersHash with
  | error e₀ =>
    have : s.encode = .error e₀ := by simp [encode, hhash, bind, Except.bind]
    rw [this] at h
    cases h
    rfl
  | ok d =>
    obtain ⟨b, hb⟩ := (encodeFields_isOk_iff s d).2 hfields
    have : s.encode = .ok b := encode_eq_ok_iff.2 ⟨d, hhash, hb⟩
    rw [this] at h
    cases h

/-- When the swap's own fields encode, equal payloads, or equal failures, come from equal orders
hashes, or equal failures of the hash. -/
theorem ordersHash_eq_of_encode_eq {s s' : Swap} (hfields : s.FieldsEncodable)
    (hfields' : s'.FieldsEncodable) (h : s'.encode = s.encode) : s'.ordersHash = s.ordersHash := by
  cases hs : s.encode with
  | ok b =>
    rw [hs] at h
    rw [ordersHash_of_encode_ok h, ordersHash_of_encode_ok hs]
  | error e =>
    rw [hs] at h
    rw [ordersHash_of_encode_error hfields' h, ordersHash_of_encode_error hfields hs]

/-- With its own fields encodable and a hasher that is injective on orders messages, a swap's
payload changes under an exchange of its legs exactly when their payloads differ. -/
theorem exchangeLegs_encode_eq_iff {s : Swap} {m₀ m₁ : List UInt8}
    (h₀ : s.orders.1.encode = .ok m₀) (h₁ : s.orders.2.encode = .ok m₁)
    (hfields : s.FieldsEncodable)
    (hinj : ∀ a b : List UInt8, a.length = 182 → b.length = 182 →
      s.hasher.hash a = s.hasher.hash b → a = b) :
    s.exchangeLegs.encode = s.encode ↔ m₀ = m₁ := by
  have hl₀ := (Order.length_header_of_encode h₀).1
  have hl₁ := (Order.length_header_of_encode h₁).1
  constructor
  · intro h
    -- equal payloads have equal hashes, hence, by injectivity, equal messages
    have hhash := @ordersHash_eq_of_encode_eq s s.exchangeLegs hfields hfields h
    rw [ordersHash_of_ordersMessage_ok (exchangeLegs_ordersMessage h₀ h₁),
      ordersHash_of_ordersMessage_ok (ordersMessage_eq_ok h₀ h₁)] at hhash
    have hmsg := hinj _ _ (by simp [hl₀, hl₁]) (by simp [hl₀, hl₁])
      (mapError_signer_injective hhash)
    exact (append_comm_iff (Order.length_eq_of_encode h₀ h₁)).1 hmsg
  · rintro rfl
    exact encode_eq_of_orders rfl (by simp [h₀, h₁]) (by simp [h₀, h₁]) fun _ => rfl

/-- After its orders hash, a swap fails with the first error of its own fields, whatever the
hash. -/
theorem encode_of_fields_error {s : Swap} {d : List UInt8} {e : EncodeError}
    (hd : s.ordersHash = .ok d) (he : firstError s.fieldWriters = some e) :
    s.encode = .error (.encode e) := by
  rw [encode_eq_error_iff, firstError_steps, hd, firstError_cons_ok, firstError_map_mapError, he]
  rfl

/-- When the hasher answers the orders messages in both orders, a failing own field decides
the swap and its exchange alike. -/
theorem exchangeLegs_encode_of_fields_error {s : Swap} {m₀ m₁ d₀ d₁ : List UInt8}
    {e : EncodeError} (h₀ : s.orders.1.encode = .ok m₀) (h₁ : s.orders.2.encode = .ok m₁)
    (hd₀ : s.hasher.hash (m₀ ++ m₁) = .ok d₀) (hd₁ : s.hasher.hash (m₁ ++ m₀) = .ok d₁)
    (he : firstError s.fieldWriters = some e) :
    s.encode = .error (.encode e) ∧ s.exchangeLegs.encode = .error (.encode e) := by
  have hhash : s.ordersHash = .ok d₀ := by
    rw [ordersHash_of_ordersMessage_ok (ordersMessage_eq_ok h₀ h₁), hd₀]
    rfl
  have hhash' : s.exchangeLegs.ordersHash = .ok d₁ := by
    rw [ordersHash_of_ordersMessage_ok (exchangeLegs_ordersMessage h₀ h₁), exchangeLegs_hasher,
      hd₁]
    rfl
  exact ⟨encode_of_fields_error hhash he, encode_of_fields_error hhash' he⟩

end Swap

/-- A hasher that accepts two inputs, `a ++ b` and `b ++ a`, giving them different digests, and
names any other input in its refusal: it is injective. -/
def OrderHasher.pinning (a b : List UInt8) : OrderHasher :=
  ⟨fun m =>
    if m = a ++ b then .ok (List.replicate 32 0)
    else if m = b ++ a then .ok (List.replicate 32 1)
    else .error (.hashing (Hex.encode m)), by
    intro m d h
    split at h
    · cases h
      exact List.length_replicate
    · split at h
      · cases h
        exact List.length_replicate
      · cases h⟩

theorem OrderHasher.pinning_accepts (a b : List UInt8) :
    (∃ d, (pinning a b).hash (a ++ b) = .ok d) ∧ ∃ d, (pinning a b).hash (b ++ a) = .ok d := by
  refine ⟨⟨_, if_pos rfl⟩, ?_⟩
  by_cases h : b ++ a = a ++ b
  · exact ⟨_, if_pos h⟩
  · exact ⟨_, (if_neg h).trans (if_pos rfl)⟩

theorem OrderHasher.pinning_injective (a b : List UInt8) {x y : List UInt8}
    (h : (pinning a b).hash x = (pinning a b).hash y) : x = y := by
  have hdigest : List.replicate 32 (0 : UInt8) ≠ List.replicate 32 1 := by decide
  simp only [pinning] at h
  -- each input is one of the two pinned ones or is named in its refusal
  by_cases hx : x = a ++ b <;> by_cases hy : y = a ++ b <;>
    by_cases hx' : x = b ++ a <;> by_cases hy' : y = b ++ a <;>
    simp_all [Hex.encode_injective.eq_iff]

/-- A swap commits to its legs in order. For every swap whose legs encode, the orders message
is the two payloads in leg order, 91 bytes each opening with `o` and version 1; it determines
both legs' payloads; exchanging the legs changes it exactly when their payloads differ; and the
hasher runs on it alone, never on a failed leg. With a hasher that is injective on 182-byte
inputs and the swap's own fields encodable, exchanging the legs changes the swap's payload
exactly when the legs' payloads differ; when an own field fails and the hasher answers both
orders messages, both runs report the first failing field. -/
theorem swap_commits_to_legs_in_order :
    (∀ (s : Swap) m₀ m₁, s.orders.1.encode = .ok m₀ → s.orders.2.encode = .ok m₁ →
      s.ordersMessage = .ok (m₀ ++ m₁) ∧ (m₀ ++ m₁).length = 182 ∧
        m₀.length = 91 ∧ m₁.length = 91 ∧ m₀.take 2 = [111, 1] ∧ m₁.take 2 = [111, 1]) ∧
    (∀ (s s' : Swap) m, s.ordersMessage = .ok m → s'.ordersMessage = .ok m →
      s.orders.1.encode = s'.orders.1.encode ∧ s.orders.2.encode = s'.orders.2.encode) ∧
    (∀ (s : Swap) m₀ m₁, s.orders.1.encode = .ok m₀ → s.orders.2.encode = .ok m₁ →
      (s.exchangeLegs.ordersMessage ≠ s.ordersMessage ↔ m₀ ≠ m₁)) ∧
    (∀ (s : Swap) m, s.ordersMessage = .ok m → s.ordersHash = (s.hasher.hash m).mapError .signer) ∧
    (∀ (s : Swap) e, s.ordersMessage = .error e → s.ordersHash = .error (.encode e)) ∧
    (∀ (s : Swap) m₀ m₁, s.orders.1.encode = .ok m₀ → s.orders.2.encode = .ok m₁ →
      s.FieldsEncodable →
      (∀ a b : List UInt8, a.length = 182 → b.length = 182 →
        s.hasher.hash a = s.hasher.hash b → a = b) →
      (s.exchangeLegs.encode ≠ s.encode ↔ m₀ ≠ m₁)) ∧
    (∀ (s : Swap) m₀ m₁ d₀ d₁ e, s.orders.1.encode = .ok m₀ → s.orders.2.encode = .ok m₁ →
      s.hasher.hash (m₀ ++ m₁) = .ok d₀ → s.hasher.hash (m₁ ++ m₀) = .ok d₁ →
      firstError s.fieldWriters = some e →
      s.encode = .error (.encode e) ∧ s.exchangeLegs.encode = .error (.encode e)) := by
  refine ⟨?_, fun _ _ _ h h' => Swap.legs_eq_of_ordersMessage_eq h h',
    fun _ _ _ h₀ h₁ => not_congr (Swap.exchangeLegs_ordersMessage_eq_iff h₀ h₁),
    fun _ _ h => Swap.ordersHash_of_ordersMessage_ok h,
    fun _ _ h => Swap.ordersHash_of_ordersMessage_error h,
    fun _ _ _ h₀ h₁ hfields hinj => not_congr (Swap.exchangeLegs_encode_eq_iff h₀ h₁ hfields hinj),
    fun _ _ _ _ _ _ h₀ h₁ hd₀ hd₁ he => Swap.exchangeLegs_encode_of_fields_error h₀ h₁ hd₀ hd₁ he⟩
  intro s m₀ m₁ h₀ h₁
  obtain ⟨hl₀, hhead₀⟩ := Order.length_header_of_encode h₀
  obtain ⟨hl₁, hhead₁⟩ := Order.length_header_of_encode h₁
  exact ⟨Swap.ordersMessage_eq_ok h₀ h₁, by simp [hl₀, hl₁], hl₀, hl₁, hhead₀, hhead₁⟩

namespace Swap

/-- The sample swap of USDC for ETH, with the given submitter id, its hasher pinning the
payloads of its two legs. -/
def pinnedSample (submitterId : Nat) : Swap :=
  ⟨submitterId, SampleVector.bob, (100, 200),
    (SampleVector.order 1 SampleVector.usdc Token.eth,
      SampleVector.order 2 Token.eth SampleVector.usdc),
    SampleVector.usdc, 0, 9, none,
    OrderHasher.pinning ((SampleVector.order 1 SampleVector.usdc Token.eth).encode.toOption.getD [])
      ((SampleVector.order 2 Token.eth SampleVector.usdc).encode.toOption.getD [])⟩

/-- Both sample legs encode, to different payloads, and the hasher pins those payloads. -/
theorem pinnedSample_legs (n : Nat) :
    ∃ m₀ m₁, (pinnedSample n).orders.1.encode = .ok m₀ ∧ (pinnedSample n).orders.2.encode = .ok m₁ ∧
      m₀ ≠ m₁ ∧ (pinnedSample n).hasher = OrderHasher.pinning m₀ m₁ := by
  obtain ⟨m₀, h₀⟩ : ∃ m₀, (SampleVector.order 1 SampleVector.usdc Token.eth).encode = .ok m₀ :=
    exists_eq_ok_of_isSome (by decide +kernel)
  obtain ⟨m₁, h₁⟩ : ∃ m₁, (SampleVector.order 2 Token.eth SampleVector.usdc).encode = .ok m₁ :=
    exists_eq_ok_of_isSome (by decide +kernel)
  have hne : (SampleVector.order 1 SampleVector.usdc Token.eth).encode.toOption.getD [] ≠
      (SampleVector.order 2 Token.eth SampleVector.usdc).encode.toOption.getD [] := by
    decide +kernel
  rw [h₀, h₁] at hne
  exact ⟨m₀, m₁, h₀, h₁, hne, by simp [pinnedSample, h₀, h₁, Except.toOption]⟩

theorem pinnedSample_hasher_injective (n : Nat) {a b : List UInt8}
    (h : (pinnedSample n).hasher.hash a = (pinnedSample n).hasher.hash b) : a = b :=
  OrderHasher.pinning_injective _ _ h

end Swap

/-- The sample swap with submitter id `4`: its own fields encode and its hasher is injective,
and exchanging its legs, whose payloads differ, changes its payload. -/
theorem exchanging_sample_legs_changes_payload :
    ∃ m₀ m₁, (Swap.pinnedSample 4).orders.1.encode = .ok m₀ ∧
      (Swap.pinnedSample 4).orders.2.encode = .ok m₁ ∧ (Swap.pinnedSample 4).FieldsEncodable ∧
      (∀ a b : List UInt8, a.length = 182 → b.length = 182 →
        (Swap.pinnedSample 4).hasher.hash a = (Swap.pinnedSample 4).hasher.hash b → a = b) ∧
      m₀ ≠ m₁ ∧ (Swap.pinnedSample 4).exchangeLegs.encode ≠ (Swap.pinnedSample 4).encode := by
  obtain ⟨m₀, m₁, h₀, h₁, hne, -⟩ := Swap.pinnedSample_legs 4
  have hinj : ∀ a b : List UInt8, a.length = 182 → b.length = 182 →
      (Swap.pinnedSample 4).hasher.hash a = (Swap.pinnedSample 4).hasher.hash b → a = b :=
    fun _ _ _ _ h => Swap.pinnedSample_hasher_injective 4 h
  have hfields : (Swap.pinnedSample 4).FieldsEncodable :=
    ⟨by decide, exists_eq_ok_of_isSome (by decide +kernel), by decide, by decide, by decide,
      by decide, by decide⟩
  exact ⟨m₀, m₁, h₀, h₁, hfields, hinj, hne,
    (swap_commits_to_legs_in_order.2.2.2.2.2.1 _ m₀ m₁ h₀ h₁ hfields hinj).2 hne⟩

/-- The sample swap with a submitter id of `2 ^ 32`, which does not fit in four bytes: its legs
encode to different payloads and its hasher is injective, yet exchanging the legs leaves its
encoding as it was, the error of the submitter id. -/
theorem exchanging_legs_keeps_a_field_error :
    ∃ m₀ m₁, (Swap.pinnedSample 4294967296).orders.1.encode = .ok m₀ ∧
      (Swap.pinnedSample 4294967296).orders.2.encode = .ok m₁ ∧
      (∀ a b : List UInt8, a.length = 182 → b.length = 182 →
        (Swap.pinnedSample 4294967296).hasher.hash a =
          (Swap.pinnedSample 4294967296).hasher.hash b → a = b) ∧
      m₀ ≠ m₁ ∧
      (Swap.pinnedSample 4294967296).exchangeLegs.encode = (Swap.pinnedSample 4294967296).encode := by
  obtain ⟨m₀, m₁, h₀, h₁, hne, hh⟩ := Swap.pinnedSample_legs 4294967296
  refine ⟨m₀, m₁, h₀, h₁, fun _ _ _ _ h => Swap.pinnedSample_hasher_injective _ h, hne, ?_⟩
  obtain ⟨⟨d, hd⟩, d', hd'⟩ := OrderHasher.pinning_accepts m₀ m₁
  have hacc : Field.accountId 4294967296 = .error (.range "account id" 4294967296 4) := rfl
  have he : firstError (Swap.pinnedSample 4294967296).fieldWriters =
      some (.range "account id" 4294967296 4) := by
    simp [Swap.fieldWriters, Swap.pinnedSample, hacc]
  obtain ⟨hs, hs'⟩ := Swap.exchangeLegs_encode_of_fields_error h₀ h₁ (hh ▸ hd) (hh ▸ hd') he
  rw [hs', hs]

end RollupTx
