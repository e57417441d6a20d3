import Mathlib
import RollupTx.Tx.Transaction
import RollupTx.Proofs.Payload.Signing

/-!
# Envelopes wrap signed transactions

An envelope pairs a transaction with a wallet signature for submission, and it is only ever made
from a transaction that carries its layer-2 signature: the structure holds that fact as a field,
so no value of the type lacks it, and `Envelope.make` is the one way to build one from a
transaction that is not yet known to be signed.

`make` fails exactly on an unsigned transaction, with the transaction's kind, and otherwise
wraps the transaction and the wallet signature as they are given. Every envelope's transport
dictionary holds the transaction's dictionary and the wallet signature's, and the transaction's
`signature` entry in it is the attached signature's object, never `null`: each of the seven kinds
writes its signature under that key. A transaction that signing has returned can always be
wrapped. `envelopes_wrap_signed_transactions` collects these facts.
-/

namespace RollupTx

/-- The value of an object's field of the given key, the first one if the key repeats; nothing
for a missing key or for a value that is not an object. -/
def Json.lookup (key : String) : Json → Option Json
  | .obj fields => fields.lookup key
  | _ => none

theorem TxSignature.toJson_ne_null (σ : TxSignature) : σ.toJson ≠ .null := by
  simp [TxSignature.toJson]

namespace Transaction

/-- Every kind writes its layer-2 signature under `signature`, `null` when there is none. -/
theorem lookup_signature (t : Transaction) :
    t.toJson.lookup "signature" = some (.ofOption TxSignature.toJson t.signature) := by
  cases t <;> rfl

end Transaction

namespace Envelope

variable {t : Transaction} {e : EthSignature} {env : Envelope}

theorem make_of_signature_none (h : t.signature = none) :
    make t e = .error (.missingSignature t.kind) := by
  unfold make
  split
  · simp_all
  · rfl

theorem make_of_signature_some {σ : TxSignature} (h : t.signature = some σ) :
    make t e = .ok ⟨t, e, by simp [h]⟩ := by
  unfold make
  split
  · rfl
  · simp_all

/-- Wrapping has one failure, and it occurs exactly on a transaction without its layer-2
signature. -/
theorem make_eq_error_iff {err : TxError} :
    make t e = .error err ↔ t.signature = none ∧ err = .missingSignature t.kind := by
  cases h : t.signature with
  | none => simp [make_of_signature_none h, eq_comm]
  | some σ => simp [make_of_signature_some h]

/-- A wrapping that succeeds holds the transaction and the wallet signature as given. -/
theorem make_eq_ok_iff :
    make t e = .ok env ↔ t.signature.isSome ∧ env.tx = t ∧ env.signature = e := by
  cases h : t.signature with
  | none => simp [make_of_signature_none h]
  | some σ =>
    rw [make_of_signature_some h]
    constructor
    · rintro ⟨⟩
      exact ⟨rfl, rfl, rfl⟩
    · rintro ⟨-, rfl, rfl⟩
      rfl

theorem signature_eq_some (env : Envelope) : env.tx.signature = some env.txSignature :=
  (Option.some_get env.signed).symm

theorem lookup_tx_signature (env : Envelope) :
    (env.toJson.lookup "tx").bind (Json.lookup "signature") = some env.txSignature.toJson := by
  have htx : env.toJson.lookup "tx" = some env.tx.toJson := rfl
  rw [htx, Option.bind_some, Transaction.lookup_signature, signature_eq_some]
  rfl

end Envelope

/-- A transaction that signing returned carries a signature, so it can be wrapped. -/
theorem Transaction.make_of_signWith {t t' : Transaction} {S : Signer}
    (h : t.signWith S = .ok t') (e : EthSignature) :
    ∃ env, Envelope.make t' e = .ok env ∧ env.tx = t' ∧ env.signature = e := by
  obtain ⟨p, σ, -, -, rfl⟩ := signable.sign_eq_ok_iff.1 ((signWith_eq t S).symm.trans h)
  have hsig : (t.setSignature (some σ)).signature = some σ := signature_setSignature t _
  exact ⟨_, Envelope.make_of_signature_some hsig, rfl, rfl⟩

/-- Every envelope wraps a signed transaction. Wrapping fails exactly on a transaction without
its layer-2 signature, and then only with that transaction's kind; otherwise it holds the
transaction and the wallet signature as given. Every envelope's transaction carries its
signature, and its dictionary is `{tx, signature}` whose transaction entry carries that
signature's object, never `null`. A transaction that signing returned is always wrapped. -/
theorem envelopes_wrap_signed_transactions :
    (∀ (t : Transaction) (e : EthSignature) (err : TxError),
      Envelope.make t e = .error err ↔ t.signature = none ∧ err = .missingSignature t.kind) ∧
    (∀ (t : Transaction) (e : EthSignature) (env : Envelope),
      Envelope.make t e = .ok env ↔ t.signature.isSome ∧ env.tx = t ∧ env.signature = e) ∧
    (∀ env : Envelope, env.tx.signature = some env.txSignature ∧
      env.toJson = .obj [("tx", env.tx.toJson), ("signature", env.signature.toJson)] ∧
      (env.toJson.lookup "tx").bind (Json.lookup "signature") = some env.txSignature.toJson ∧
      env.txSignature.toJson ≠ .null) ∧
    (∀ (t t' : Transaction) (S : Signer) (e : EthSignature), t.signWith S = .ok t' →
      ∃ env, Envelope.make t' e = .ok env ∧ env.tx = t' ∧ env.signature = e) :=
  ⟨fun _ _ _ => Envelope.make_eq_error_iff, fun _ _ _ => Envelope.make_eq_ok_iff,
    fun env => ⟨env.signature_eq_some, rfl, env.lookup_tx_signature,
      env.txSignature.toJson_ne_null⟩,
    fun _ _ _ e h => Transaction.make_of_signWith h e⟩

/-- A forced exit of the sample USDC balance is refused while unsigned, as a forced exit; once
the echo signer has signed it, it is wrapped with the wallet signature `0x01`, and the
transaction entry of the envelope's dictionary carries the echo signer's object. -/
theorem forced_exit_wrapped_once_signed :
    Envelope.make
        (.forcedExit ⟨1, SampleVector.bob, SampleVector.usdc, 0, 0, Window.default, none⟩)
        (.ethereum "0x01") = .error (.missingSignature .forcedExit) ∧
    ∃ t' env, (Transaction.forcedExit
        ⟨1, SampleVector.bob, SampleVector.usdc, 0, 0, Window.default, none⟩).signWith
          (Signer.hexEcho "pk") = .ok t' ∧
      Envelope.make t' (.ethereum "0x01") = .ok env ∧ env.tx = t' ∧
      (env.toJson.lookup "tx").bind (Json.lookup "signature") = some env.txSignature.toJson := by
  have hsome : ((Transaction.forcedExit
      ⟨1, SampleVector.bob, SampleVector.usdc, 0, 0, Window.default, none⟩).signWith
        (Signer.hexEcho "pk")).toOption.isSome = true := by
    decide +kernel
  obtain ⟨t', ht'⟩ := Payload.exists_eq_ok_of_isSome hsome
  obtain ⟨env, henv, htx, -⟩ := envelopes_wrap_signed_transactions.2.2.2 _ t' _ _ ht'
  refine ⟨(envelopes_wrap_signed_transactions.1 _ _ _).2 ⟨rfl, rfl⟩, t', env, ht', henv, htx,
    (envelopes_wrap_signed_transactions.2.2.1 env).2.2.1⟩

end RollupTx
