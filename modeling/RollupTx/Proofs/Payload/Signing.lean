import Mathlib
import RollupTx.Fixture.Vectors
import RollupTx.Proofs.Payload.Fields

/-!
# Signing in place

Signing encodes the payload, hands it to the signer and attaches what the signer returns, with
the signed value as the state of an `EStateM` program. Every top-level transaction signs this
way through the transaction sum, and an order signs its own payload the same way. `Signable`
names what both provide: a payload, and a way to attach a signature that keeps the payload and
replaces the signature attached before. The laws of signing are proved once, for `Signable`:

* a payload that fails is reported as it is, whatever the signer, which is never asked;
* a signer that fails is reported as a signer error;
* otherwise the value comes back with the signer's signature over its payload attached, and
  nothing else changed.

A failure is thrown before anything is attached, so it leaves the state exactly as it was, its
earlier signature included (`failed_signing_leaves_value_unchanged`). Since attaching keeps the
payload, signing again with the same signer signs the same bytes and changes nothing.
`signing_is_atomic_and_exact` states this of transactions and of orders.
-/

namespace RollupTx

/-- A value that can be signed: its payload, and how a signature is attached to it. Attaching
keeps the payload, and a second attachment replaces the first. -/
structure Signable (α : Type) where
  payload : α → Except TxError (List UInt8)
  attach : α → TxSignature → α
  payload_attach : ∀ x σ, payload (attach x σ) = payload x
  attach_attach : ∀ x σ σ', attach (attach x σ) σ' = attach x σ'

namespace Signable

variable {α : Type} (A : Signable α) {x y : α} {S : Signer} {p : List UInt8} {σ : TxSignature}

def signInPlace (S : Signer) : EStateM TxError α Unit := S.signInPlace A.payload A.attach

/-- The signed value, or why signing failed. -/
def sign (x : α) (S : Signer) : Except TxError α := runInPlace (A.signInPlace S) x

/-- Signing in place, step by step: a failing payload is thrown as it is, a failing signer as a
signer error, both before the state is touched; otherwise the signature is attached. -/
theorem run_signInPlace_eq (x : α) (S : Signer) :
    (A.signInPlace S).run x = match A.payload x with
      | .error e => .error e x
      | .ok p => match S.sign p with
        | .error e => .error (.signer e) x
        | .ok σ => .ok () (A.attach x σ) := by
  cases hp : A.payload x with
  | error e =>
    simp [signInPlace, Signer.signInPlace, EStateM.run, hp, bind, EStateM.bind, get, getThe,
      MonadStateOf.get, EStateM.get, liftExcept, throw, throwThe, MonadExceptOf.throw,
      EStateM.throw]
  | ok p =>
    cases hs : S.sign p <;>
    simp [signInPlace, Signer.signInPlace, EStateM.run, hp, hs, bind, EStateM.bind, get, getThe,
      MonadStateOf.get, EStateM.get, liftExcept, throw, throwThe, MonadExceptOf.throw,
      EStateM.throw, pure, EStateM.pure, Except.mapError, modify, modifyGet,
      MonadStateOf.modifyGet, EStateM.modifyGet]

theorem run_signInPlace_of_payload_error {e : TxError} (h : A.payload x = .error e)
    (S : Signer) : (A.signInPlace S).run x = .error e x := by
  simp only [run_signInPlace_eq, h]

theorem run_signInPlace_of_signer_error {e : SignerError} (h : A.payload x = .ok p)
    (hs : S.sign p = .error e) : (A.signInPlace S).run x = .error (.signer e) x := by
  simp only [run_signInPlace_eq, h, hs]

theorem run_signInPlace_of_signer_ok (h : A.payload x = .ok p) (hs : S.sign p = .ok σ) :
    (A.signInPlace S).run x = .ok () (A.attach x σ) := by
  simp only [run_signInPlace_eq, h, hs]

theorem sign_of_payload_error {e : TxError} (h : A.payload x = .error e) (S : Signer) :
    A.sign x S = .error e := by
  rw [sign, runInPlace, A.run_signInPlace_of_payload_error h]

theorem sign_of_signer_error {e : SignerError} (h : A.payload x = .ok p)
    (hs : S.sign p = .error e) : A.sign x S = .error (.signer e) := by
  rw [sign, runInPlace, A.run_signInPlace_of_signer_error h hs]

theorem sign_of_signer_ok (h : A.payload x = .ok p) (hs : S.sign p = .ok σ) :
    A.sign x S = .ok (A.attach x σ) := by
  rw [sign, runInPlace, A.run_signInPlace_of_signer_ok h hs]

/-- Signing in place leaves the signed value, or throws and leaves the value it was given. -/
theorem run_signInPlace (x : α) (S : Signer) :
    (A.signInPlace S).run x = match A.sign x S with
      | .ok y => .ok () y
      | .error e => .error e x := by
  cases hp : A.payload x with
  | error e => rw [A.run_signInPlace_of_payload_error hp, A.sign_of_payload_error hp]
  | ok p =>
    cases hs : S.sign p with
    | error e => rw [A.run_signInPlace_of_signer_error hp hs, A.sign_of_signer_error hp hs]
    | ok σ => rw [A.run_signInPlace_of_signer_ok hp hs, A.sign_of_signer_ok hp hs]

theorem run_signInPlace_eq_error_iff {e : TxError} {x' : α} :
    (A.signInPlace S).run x = .error e x' ↔ A.sign x S = .error e ∧ x' = x := by
  rw [run_signInPlace]
  cases A.sign x S with
  | ok y => simp
  | error e' => simp [eq_comm]

theorem run_signInPlace_eq_ok_iff : (A.signInPlace S).run x = .ok () y ↔ A.sign x S = .ok y := by
  rw [run_signInPlace]
  cases A.sign x S with
  | ok y' => simp
  | error e => simp

/-- A signing that succeeds attached the signer's signature over the payload. -/
theorem sign_eq_ok_iff :
    A.sign x S = .ok y ↔ ∃ p σ, A.payload x = .ok p ∧ S.sign p = .ok σ ∧ y = A.attach x σ := by
  constructor
  · intro h
    cases hp : A.payload x with
    | error e =>
      rw [A.sign_of_payload_error hp] at h
      cases h
    | ok p =>
      cases hs : S.sign p with
      | error e =>
        rw [A.sign_of_signer_error hp hs] at h
        cases h
      | ok σ =>
        rw [A.sign_of_signer_ok hp hs] at h
        exact ⟨p, σ, rfl, hs, (Except.ok.inj h).symm⟩
  · rintro ⟨p, σ, hp, hs, rfl⟩
    exact A.sign_of_signer_ok hp hs

/-- Signing again with the same signer changes nothing: the signed value has the same
payload, so the signer gives the same signature, and it replaces itself. -/
theorem sign_sign (x : α) (S : Signer) : (A.sign x S >>= (A.sign · S)) = A.sign x S := by
  cases h : A.sign x S with
  | error e => rfl
  | ok y =>
    obtain ⟨p, σ, hp, hs, rfl⟩ := A.sign_eq_ok_iff.1 h
    have hp' : A.payload (A.attach x σ) = .ok p := (A.payload_attach x σ).trans hp
    show A.sign (A.attach x σ) S = .ok (A.attach x σ)
    rw [A.sign_of_signer_ok hp' hs, A.attach_attach]

end Signable

namespace Transaction

@[simp] theorem encode_setSignature (t : Transaction) (sig : Option TxSignature) :
    (t.setSignature sig).encode = t.encode := by
  cases t <;> rfl

@[simp] theorem signature_setSignature (t : Transaction) (sig : Option TxSignature) :
    (t.setSignature sig).signature = sig := by
  cases t <;> rfl

@[simp] theorem setSignature_setSignature (t : Transaction) (sig sig' : Option TxSignature) :
    (t.setSignature sig).setSignature sig' = t.setSignature sig' := by
  cases t <;> rfl

/-- A transaction is signed over its payload, in its signature field. -/
def signable : Signable Transaction where
  payload := encode
  attach t σ := t.setSignature (some σ)
  payload_attach t _ := encode_setSignature t _
  attach_attach t _ _ := setSignature_setSignature t _ _

theorem signInPlace_eq (S : Signer) : signInPlace S = signable.signInPlace S := rfl

theorem signWith_eq (t : Transaction) (S : Signer) : t.signWith S = signable.sign t S := rfl

end Transaction

namespace Order

/-- An order is signed over its payload, in its layer-2 signature field. -/
def signable : Signable Order where
  payload o := o.encode.mapError .encode
  attach o σ := { o with signature := some σ }
  payload_attach _ _ := rfl
  attach_attach _ _ _ := rfl

theorem signInPlace_eq (S : Signer) : signInPlace S = signable.signInPlace S := rfl

theorem signWith_eq (o : Order) (S : Signer) : o.signWith S = signable.sign o S := rfl

end Order

/-- Signing is atomic and exact, for every transaction, every order and every signer. A payload
that fails is reported as it is, for every signer alike; a signer that fails is reported as a
signer error; either way no signed value comes back, so the caller's transaction keeps its
earlier signature. Otherwise the signer's signature over the payload replaces the old one and
nothing else changes: the payload stays the same, and signing again changes nothing. -/
theorem signing_is_atomic_and_exact :
    (∀ (t : Transaction) (e : TxError), t.encode = .error e → ∀ S, t.signWith S = .error e) ∧
    (∀ (t : Transaction) (S : Signer) p (e : SignerError), t.encode = .ok p →
      S.sign p = .error e → t.signWith S = .error (.signer e)) ∧
    (∀ (t : Transaction) (S : Signer) p σ, t.encode = .ok p → S.sign p = .ok σ →
      t.signWith S = .ok (t.setSignature (some σ))) ∧
    (∀ (t t' : Transaction) (S : Signer), t.signWith S = .ok t' →
      t'.encode = t.encode ∧ ∃ p σ, t.encode = .ok p ∧ S.sign p = .ok σ ∧ t'.signature = some σ) ∧
    (∀ (t : Transaction) (S : Signer), (t.signWith S >>= (·.signWith S)) = t.signWith S) ∧
    (∀ (o : Order) (e : EncodeError), o.encode = .error e → ∀ S,
      o.signWith S = .error (.encode e)) ∧
    (∀ (o : Order) (S : Signer) p (e : SignerError), o.encode = .ok p →
      S.sign p = .error e → o.signWith S = .error (.signer e)) ∧
    (∀ (o : Order) (S : Signer) p σ, o.encode = .ok p → S.sign p = .ok σ →
      o.signWith S = .ok { o with signature := some σ }) ∧
    (∀ (o o' : Order) (S : Signer), o.signWith S = .ok o' →
      o'.encode = o.encode ∧ ∃ p σ, o.encode = .ok p ∧ S.sign p = .ok σ ∧ o'.signature = some σ) ∧
    (∀ (o : Order) (S : Signer), (o.signWith S >>= (·.signWith S)) = o.signWith S) := by
  refine ⟨fun t e h S => Transaction.signable.sign_of_payload_error h S,
    fun t S p e h hs => Transaction.signable.sign_of_signer_error h hs,
    fun t S p σ h hs => Transaction.signable.sign_of_signer_ok h hs, ?_,
    fun t S => Transaction.signable.sign_sign t S,
    fun o e h S => Order.signable.sign_of_payload_error (by simp [Order.signable, h]) S,
    fun o S p e h hs => Order.signable.sign_of_signer_error (by simp [Order.signable, h]) hs,
    fun o S p σ h hs => Order.signable.sign_of_signer_ok (by simp [Order.signable, h]) hs, ?_,
    fun o S => Order.signable.sign_sign o S⟩
  · intro t t' S h
    obtain ⟨p, σ, hp, hs, rfl⟩ := Transaction.signable.sign_eq_ok_iff.1 h
    exact ⟨Transaction.encode_setSignature t _, p, σ, hp, hs,
      Transaction.signature_setSignature t _⟩
  · intro o o' S h
    obtain ⟨p, σ, hp, hs, rfl⟩ := Order.signable.sign_eq_ok_iff.1 h
    have hp' : o.encode = .ok p := by simpa [Order.signable] using hp
    exact ⟨rfl, p, σ, hp', hs, rfl⟩

/-- A failed signing leaves the value unchanged: for every transaction, every order and every
signer, signing in place fails exactly when `signWith` fails, with the same error, and then
leaves the transaction or the order as it was, its earlier signature included; otherwise it
leaves what `signWith` returns. -/
theorem failed_signing_leaves_value_unchanged :
    (∀ (t t' : Transaction) (S : Signer) (e : TxError),
      (Transaction.signInPlace S).run t = .error e t' ↔ t.signWith S = .error e ∧ t' = t) ∧
    (∀ (t t' : Transaction) (S : Signer),
      (Transaction.signInPlace S).run t = .ok () t' ↔ t.signWith S = .ok t') ∧
    (∀ (o o' : Order) (S : Signer) (e : TxError),
      (Order.signInPlace S).run o = .error e o' ↔ o.signWith S = .error e ∧ o' = o) ∧
    (∀ (o o' : Order) (S : Signer),
      (Order.signInPlace S).run o = .ok () o' ↔ o.signWith S = .ok o') :=
  ⟨fun _ _ _ _ => Transaction.signable.run_signInPlace_eq_error_iff,
    fun _ _ _ => Transaction.signable.run_signInPlace_eq_ok_iff,
    fun _ _ _ _ => Order.signable.run_signInPlace_eq_error_iff,
    fun _ _ _ => Order.signable.run_signInPlace_eq_ok_iff⟩

/-- The sample transfer of 1 ETH, carrying an earlier signature: a signer that fails is
reported and no signed transfer comes back, so the earlier signature stays. -/
theorem failing_signer_keeps_earlier_signature :
    ∃ p, (Transaction.transfer ⟨5, SampleVector.zero, SampleVector.zero, Token.eth,
        1000000000000000000, 0, 0, Window.default, some ⟨"pk", "earlier"⟩⟩).encode = .ok p ∧
      (Signer.failing "offline").sign p = .error (.signing "offline") ∧
      (Transaction.transfer ⟨5, SampleVector.zero, SampleVector.zero, Token.eth,
        1000000000000000000, 0, 0, Window.default, some ⟨"pk", "earlier"⟩⟩).signWith
          (Signer.failing "offline") = .error (.signer (.signing "offline")) := by
  have hsome : (Transaction.transfer ⟨5, SampleVector.zero, SampleVector.zero, Token.eth,
      1000000000000000000, 0, 0, Window.default, some ⟨"pk", "earlier"⟩⟩).encode.toOption.isSome =
        true := by
    decide +kernel
  obtain ⟨p, hp⟩ := Payload.exists_eq_ok_of_isSome hsome
  exact ⟨p, hp, rfl, signing_is_atomic_and_exact.2.1 _ _ p _ hp rfl⟩

end RollupTx
