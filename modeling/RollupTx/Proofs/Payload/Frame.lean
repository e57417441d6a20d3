import RollupTx.Fixture.Vectors
import RollupTx.Proofs.Payload.Layout
import RollupTx.Proofs.Payload.Signing

/-!
# What a payload does not commit to

A payload is written from ids, addresses, amounts, fees, nonces and windows. It never reads a
signature, a key change's authorization or wallet signature, or a token's address, symbol or
decimals: of a token only its id is written. A transaction signed again or holding relabelled
tokens therefore has the same payload, and so does a swap whose orders are signed again.

Signing a leg of a swap in place (`Swap.signLeg`) attaches a signature to that order and keeps
everything else. Since the order's payload does not change, neither do the orders' payloads,
their hash nor the swap's payload; and since each leg is signed over its own payload, the two
legs can be signed in either order with the same result.
`payload_ignores_signatures_and_token_labels` collects these facts.
-/

namespace RollupTx

open Payload

namespace Order

/-- The order under other signatures, its tokens relabelled: `sell` and `buy` lend their
address, symbol and decimals, and the ids stay. -/
def restamp (o : Order) (sig : Option TxSignature) (eth : Option EthSignature)
    (sell buy : Token) : Order :=
  { o with
    signature := sig, ethSignature := eth, tokenSell := { sell with id := o.tokenSell.id },
    tokenBuy := { buy with id := o.tokenBuy.id } }

theorem encode_restamp (o : Order) (sig : Option TxSignature) (eth : Option EthSignature)
    (sell buy : Token) : (o.restamp sig eth sell buy).encode = o.encode := rfl

/-- Signing attaches the layer-2 signature and changes nothing else. -/
theorem eq_restamp_of_signWith {o o' : Order} {signer : Signer} (h : o.signWith signer = .ok o') :
    ∃ sig, o' = o.restamp (some sig) o.ethSignature o.tokenSell o.tokenBuy := by
  obtain ⟨-, sig, -, -, rfl⟩ := signable.sign_eq_ok_iff.1 ((signWith_eq o signer).symm.trans h)
  exact ⟨sig, rfl⟩

theorem encode_of_signWith {o o' : Order} {signer : Signer} (h : o.signWith signer = .ok o') :
    o'.encode = o.encode := by
  obtain ⟨sig, rfl⟩ := eq_restamp_of_signWith h
  exact encode_restamp _ _ _ _ _

end Order

namespace Swap

/-- The orders' payloads, and with the same hasher their hash, depend on the orders only
through their payloads. -/
theorem ordersMessage_eq {s s' : Swap} (h₁ : s'.orders.1.encode = s.orders.1.encode)
    (h₂ : s'.orders.2.encode = s.orders.2.encode) : s'.ordersMessage = s.ordersMessage := by
  unfold ordersMessage
  rw [h₁, h₂]

theorem ordersHash_eq {s s' : Swap} (hh : s'.hasher = s.hasher)
    (h₁ : s'.orders.1.encode = s.orders.1.encode) (h₂ : s'.orders.2.encode = s.orders.2.encode) :
    s'.ordersHash = s.ordersHash := by
  unfold ordersHash
  rw [ordersMessage_eq h₁ h₂, hh]

/-- A swap's payload depends on its orders only through their payloads: with the same hasher
and the same own fields, orders of the same payloads give the same swap payload. -/
theorem encode_eq_of_orders {s s' : Swap} (hh : s'.hasher = s.hasher)
    (h₁ : s'.orders.1.encode = s.orders.1.encode) (h₂ : s'.orders.2.encode = s.orders.2.encode)
    (hfields : ∀ hash, s'.encodeFields hash = s.encodeFields hash) : s'.encode = s.encode := by
  unfold encode
  rw [ordersHash_eq hh h₁ h₂]
  simp only [hfields]

/-- A swap signed again, with its fee token relabelled and orders of the same payloads, has the
same payload: the swap's own fields are read off the same values. -/
theorem encode_reorder (s : Swap) (sig : Option TxSignature) (tok : Token) {o₁ o₂ : Order}
    (h₁ : o₁.encode = s.orders.1.encode) (h₂ : o₂.encode = s.orders.2.encode) :
    { s with
      signature := sig, feeToken := { tok with id := s.feeToken.id }, orders := (o₁, o₂) }.encode =
      s.encode :=
  encode_eq_of_orders rfl h₁ h₂ fun _ => rfl

/-- Sign leg `i` of a swap: that order is signed in place and the rest of the swap is kept. -/
def signLeg (s : Swap) (i : Fin 2) (signer : Signer) : Except TxError Swap :=
  match i with
  | 0 => (s.orders.1.signWith signer).map fun o => { s with orders := (o, s.orders.2) }
  | 1 => (s.orders.2.signWith signer).map fun o => { s with orders := (s.orders.1, o) }

theorem signLeg_zero_eq_ok_iff {s s' : Swap} {signer : Signer} :
    s.signLeg 0 signer = .ok s' ↔
      ∃ o, s.orders.1.signWith signer = .ok o ∧ s' = { s with orders := (o, s.orders.2) } := by
  unfold signLeg
  cases s.orders.1.signWith signer <;> simp [Except.map, eq_comm]

theorem signLeg_one_eq_ok_iff {s s' : Swap} {signer : Signer} :
    s.signLeg 1 signer = .ok s' ↔
      ∃ o, s.orders.2.signWith signer = .ok o ∧ s' = { s with orders := (s.orders.1, o) } := by
  unfold signLeg
  cases s.orders.2.signWith signer <;> simp [Except.map, eq_comm]

/-- Signing a leg keeps the orders' payloads, their hash and the swap's payload. -/
theorem signLeg_keeps_payload {s s' : Swap} {i : Fin 2} {signer : Signer}
    (h : s.signLeg i signer = .ok s') :
    s'.ordersMessage = s.ordersMessage ∧ s'.ordersHash = s.ordersHash ∧ s'.encode = s.encode := by
  obtain ⟨o, ho, rfl⟩ | ⟨o, ho, rfl⟩ : (∃ o, s.orders.1.signWith signer = .ok o ∧
      s' = { s with orders := (o, s.orders.2) }) ∨ (∃ o, s.orders.2.signWith signer = .ok o ∧
      s' = { s with orders := (s.orders.1, o) }) := by
    match i with
    | 0 => exact .inl (signLeg_zero_eq_ok_iff.1 h)
    | 1 => exact .inr (signLeg_one_eq_ok_iff.1 h)
  · have h₁ := Order.encode_of_signWith ho
    exact ⟨ordersMessage_eq h₁ rfl, ordersHash_eq rfl h₁ rfl,
      encode_eq_of_orders rfl h₁ rfl fun _ => rfl⟩
  · have h₂ := Order.encode_of_signWith ho
    exact ⟨ordersMessage_eq rfl h₂, ordersHash_eq rfl rfl h₂,
      encode_eq_of_orders rfl rfl h₂ fun _ => rfl⟩

theorem bind_eq_ok_iff {α β : Type} {x : Except TxError α} {f : α → Except TxError β} {b : β} :
    x >>= f = .ok b ↔ ∃ a, x = .ok a ∧ f a = .ok b := by
  cases x <;> simp [bind, Except.bind]

/-- Signing the first leg and then the second succeeds exactly when each leg signs, and gives
the swap holding both signed orders. -/
theorem signLeg_zero_then_one {s s' : Swap} {S₀ S₁ : Signer} :
    (s.signLeg 0 S₀ >>= (·.signLeg 1 S₁)) = .ok s' ↔
      ∃ o₀ o₁, s.orders.1.signWith S₀ = .ok o₀ ∧ s.orders.2.signWith S₁ = .ok o₁ ∧
        s' = { s with orders := (o₀, o₁) } := by
  simp only [bind_eq_ok_iff, signLeg_zero_eq_ok_iff, signLeg_one_eq_ok_iff]
  constructor
  · rintro ⟨_, ⟨o₀, h₀, rfl⟩, o₁, h₁, rfl⟩
    exact ⟨o₀, o₁, h₀, h₁, rfl⟩
  · rintro ⟨o₀, o₁, h₀, h₁, rfl⟩
    exact ⟨_, ⟨o₀, h₀, rfl⟩, o₁, h₁, rfl⟩

theorem signLeg_one_then_zero {s s' : Swap} {S₀ S₁ : Signer} :
    (s.signLeg 1 S₁ >>= (·.signLeg 0 S₀)) = .ok s' ↔
      ∃ o₀ o₁, s.orders.1.signWith S₀ = .ok o₀ ∧ s.orders.2.signWith S₁ = .ok o₁ ∧
        s' = { s with orders := (o₀, o₁) } := by
  simp only [bind_eq_ok_iff, signLeg_zero_eq_ok_iff, signLeg_one_eq_ok_iff]
  constructor
  · rintro ⟨_, ⟨o₁, h₁, rfl⟩, o₀, h₀, rfl⟩
    exact ⟨o₀, o₁, h₀, h₁, rfl⟩
  · rintro ⟨o₀, o₁, h₀, h₁, rfl⟩
    exact ⟨_, ⟨o₁, h₁, rfl⟩, o₀, h₀, rfl⟩

/-- Signing both legs, one after the other, keeps the orders' payloads, their hash and the
swap's payload: each step keeps them. -/
theorem signLegs_keep_payload {s s' : Swap} {S₀ S₁ : Signer}
    (h : (s.signLeg 0 S₀ >>= (·.signLeg 1 S₁)) = .ok s') :
    s'.ordersMessage = s.ordersMessage ∧ s'.ordersHash = s.ordersHash ∧ s'.encode = s.encode := by
  obtain ⟨mid, hmid, hs'⟩ := bind_eq_ok_iff.1 h
  have first := signLeg_keeps_payload hmid
  have second := signLeg_keeps_payload hs'
  exact ⟨second.1.trans first.1, second.2.1.trans first.2.1, second.2.2.trans first.2.2⟩

end Swap

/-- Payloads ignore signatures, a key change's authorization and wallet signature, and every
label of a token but its id, the orders of a swap included; the legs of a swap can be signed in
either order, with the same swap and the same orders hash and payload as before. -/
theorem Payload.payload_ignores_signatures_and_token_labels :
    (∀ (t : Transfer) (sig : Option TxSignature) (tok : Token),
      { t with signature := sig, token := { tok with id := t.token.id } }.encode = t.encode) ∧
    (∀ (t : Withdraw) (sig : Option TxSignature) (tok : Token),
      { t with signature := sig, token := { tok with id := t.token.id } }.encode = t.encode) ∧
    (∀ (t : ChangePubKey) (sig : Option TxSignature) (auth : KeyAuth)
        (eth : Option EthSignature) (tok : Token),
      { t with
        signature := sig, auth := auth, ethSignature := eth,
        feeToken := { tok with id := t.feeToken.id } }.encode = t.encode) ∧
    (∀ (t : ForcedExit) (sig : Option TxSignature) (tok : Token),
      { t with signature := sig, token := { tok with id := t.token.id } }.encode = t.encode) ∧
    (∀ (t : MintNft) (sig : Option TxSignature) (tok : Token),
      { t with signature := sig, feeToken := { tok with id := t.feeToken.id } }.encode =
        t.encode) ∧
    (∀ (t : WithdrawNft) (sig : Option TxSignature) (tok : Token),
      { t with signature := sig, feeToken := { tok with id := t.feeToken.id } }.encode =
        t.encode) ∧
    (∀ (o : Order) (sig : Option TxSignature) (eth : Option EthSignature) (sell buy : Token),
      (o.restamp sig eth sell buy).encode = o.encode) ∧
    (∀ (s : Swap) (sig sig₁ sig₂ : Option TxSignature) (eth₁ eth₂ : Option EthSignature)
        (tok sell₁ buy₁ sell₂ buy₂ : Token),
      { s with
        signature := sig, feeToken := { tok with id := s.feeToken.id },
        orders := (s.orders.1.restamp sig₁ eth₁ sell₁ buy₁,
          s.orders.2.restamp sig₂ eth₂ sell₂ buy₂) }.encode = s.encode) ∧
    (∀ (s s' : Swap) (S₀ S₁ : Signer),
      (s.signLeg 0 S₀ >>= (·.signLeg 1 S₁)) = .ok s' ↔
        (s.signLeg 1 S₁ >>= (·.signLeg 0 S₀)) = .ok s') ∧
    (∀ (s s' : Swap) (S₀ S₁ : Signer), (s.signLeg 0 S₀ >>= (·.signLeg 1 S₁)) = .ok s' →
      s'.ordersMessage = s.ordersMessage ∧ s'.ordersHash = s.ordersHash ∧
        s'.encode = s.encode) :=
  ⟨fun _ _ _ => rfl, fun _ _ _ => rfl, fun _ _ _ _ _ => rfl, fun _ _ _ => rfl, fun _ _ _ => rfl,
    fun _ _ _ => rfl, Order.encode_restamp,
    fun s sig _ _ _ _ tok _ _ _ _ => Swap.encode_reorder s sig tok rfl rfl,
    fun _ _ _ _ => Swap.signLeg_zero_then_one.trans Swap.signLeg_one_then_zero.symm,
    fun _ _ _ _ => Swap.signLegs_keep_payload⟩

/-- The sample swap of USDC for ETH, hashed by folding, its legs signed by echoing signers:
both legs sign, and the swap keeps its payload. -/
theorem Payload.echo_signed_swap_keeps_payload :
    ∃ s', ((⟨4, SampleVector.bob, (100, 200),
        (SampleVector.order 1 SampleVector.usdc Token.eth,
          SampleVector.order 2 Token.eth SampleVector.usdc),
        SampleVector.usdc, 0, 9, none, OrderHasher.fold⟩ : Swap).signLeg 0 (Signer.hexEcho "a") >>=
          (·.signLeg 1 (Signer.hexEcho "b"))) = .ok s' ∧
      s'.encode = (⟨4, SampleVector.bob, (100, 200),
        (SampleVector.order 1 SampleVector.usdc Token.eth,
          SampleVector.order 2 Token.eth SampleVector.usdc),
        SampleVector.usdc, 0, 9, none, OrderHasher.fold⟩ : Swap).encode := by
  generalize hs : (⟨4, SampleVector.bob, (100, 200),
      (SampleVector.order 1 SampleVector.usdc Token.eth,
        SampleVector.order 2 Token.eth SampleVector.usdc),
      SampleVector.usdc, 0, 9, none, OrderHasher.fold⟩ : Swap) = s
  have hsome : (s.signLeg 0 (Signer.hexEcho "a") >>=
      (·.signLeg 1 (Signer.hexEcho "b"))).toOption.isSome = true := by
    subst hs
    decide +kernel
  obtain ⟨s', hok⟩ := exists_eq_ok_of_isSome hsome
  exact ⟨s', hok, (payload_ignores_signatures_and_token_labels.2.2.2.2.2.2.2.2.2 s s' _ _ hok).2.2⟩

end RollupTx
