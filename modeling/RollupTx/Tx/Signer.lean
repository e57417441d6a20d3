import RollupTx.Bytes.Hex
import RollupTx.Encode.Error
import RollupTx.Json.Value
import RollupTx.Tx.Basic

/-!
# Signatures, signers and their errors

A layer-2 signature is a public key and a signature, both as text. A layer-1 (wallet)
signature is a kind and a text. Both travel as small JSON objects.

Signing a payload and hashing the two legs of a swap are capabilities the caller supplies;
the encoder hands them bytes and attaches what they return. Signing runs in place, with the
signed value as its state, and throws before it attaches anything. Besides the two structures
this module holds simple deterministic capabilities: a signer that writes the payload's hex as
its signature, a hasher that returns one byte 32 times, a hasher that folds its input into
32 bytes by xor with rotation, and a signer and a hasher that always fail.

Encoding a transaction fails on a field, signing fails when the signer or the order hasher
fails, and wrapping for submission fails on a transaction without its layer-2 signature.
-/

namespace RollupTx

/-- A layer-2 signature over a payload. -/
structure TxSignature where
  publicKey : String
  signature : String
  deriving DecidableEq, Repr

inductive EthSignatureKind
  | ethereum
  | eip1271
  deriving DecidableEq, Repr

def EthSignatureKind.name : EthSignatureKind → String
  | .ethereum => "EthereumSignature"
  | .eip1271 => "EIP1271Signature"

/-- A wallet signature over a message. -/
structure EthSignature where
  kind : EthSignatureKind
  signature : String
  deriving DecidableEq, Repr

/-- `{pubKey, signature}`. -/
def TxSignature.toJson (s : TxSignature) : Json :=
  .obj [("pubKey", .str s.publicKey), ("signature", .str s.signature)]

/-- `{type, signature}`. -/
def EthSignature.toJson (s : EthSignature) : Json :=
  .obj [("type", .str s.kind.name), ("signature", .str s.signature)]

def EthSignature.ethereum (s : String) : EthSignature := ⟨.ethereum, s⟩

/-- A failure reported by a signer or an order hasher. -/
inductive SignerError
  | signing (message : String)
  | hashing (message : String)
  deriving DecidableEq, Repr

def SignerError.message : SignerError → String
  | .signing m => "signing failed: " ++ m
  | .hashing m => "order hashing failed: " ++ m

/-- Why a transaction could not be encoded, signed or wrapped. -/
inductive TxError
  | encode (e : EncodeError)
  | signer (e : SignerError)
  | missingSignature (k : TxKind)
  deriving DecidableEq, Repr

def TxError.message : TxError → String
  | .encode e => "encoding error: " ++ e.message
  | .signer e => "signer error: " ++ e.message
  | .missingSignature k => k.name ++ " transaction is not signed"

/-- Produces a layer-2 signature over a payload. -/
structure Signer where
  sign : List UInt8 → Except SignerError TxSignature

def OrderHasher.hashBytes : Nat := 32

/-- Hashes the concatenated payloads of a swap's two orders into 32 bytes. -/
structure OrderHasher where
  hash : List UInt8 → Except SignerError (List UInt8)
  length_hash : ∀ bs d, hash bs = .ok d → d.length = OrderHasher.hashBytes

namespace Signer

/-- Signs with the given public key and the payload's hex as the signature. -/
def hexEcho (publicKey : String) : Signer :=
  ⟨fun bs => .ok ⟨publicKey, Hex.encode bs⟩⟩

def failing (message : String) : Signer :=
  ⟨fun _ => .error (.signing message)⟩

/-- Sign the state in place: encode it, ask the signer and attach what it returns. A failure
is thrown before anything is attached, so it leaves the state as it was. -/
def signInPlace {α : Type} (s : Signer) (payload : α → Except TxError (List UInt8))
    (attach : α → TxSignature → α) : EStateM TxError α Unit := do
  let message ← liftExcept (payload (← get))
  let signature ← liftExcept ((s.sign message).mapError TxError.signer)
  modify (attach · signature)

end Signer

/-- The state a program run in place leaves, or the failure it throws. -/
def runInPlace {ε α : Type} (m : EStateM ε α Unit) (x : α) : Except ε α :=
  match m.run x with
  | .ok _ x' => .ok x'
  | .error e _ => .error e

namespace OrderHasher

/-- Always returns 32 copies of `b`. -/
def constant (b : UInt8) : OrderHasher :=
  ⟨fun _ => .ok (List.replicate hashBytes b), by
    intro _ d h
    cases h
    exact List.length_replicate⟩

/-- `b` rotated left by `k` bits within a byte, `k < 8`. -/
def rotateLeft (b : UInt8) (k : Nat) : UInt8 :=
  UInt8.ofNat (b.toNat * 2 ^ k % 256 + b.toNat / 2 ^ (8 - k))

/-- Byte `i` of the input, rotated left by `i / 32 mod 8` bits, is xor-ed into output
byte `i mod 32` of 32 zero bytes. -/
def foldBytes (bs : List UInt8) : List UInt8 :=
  bs.zipIdx.foldl
    (fun acc (b, i) => acc.set (i % hashBytes)
      (acc.getD (i % hashBytes) 0 ^^^ rotateLeft b (i / hashBytes % 8)))
    (List.replicate hashBytes 0)

theorem length_foldBytes (bs : List UInt8) : (foldBytes bs).length = hashBytes := by
  -- every step overwrites one byte of the accumulator, which keeps its length
  have keep : ∀ (l : List (UInt8 × Nat)) (f : List UInt8 → UInt8 × Nat → List UInt8),
      (∀ acc x, (f acc x).length = acc.length) → ∀ acc, (l.foldl f acc).length = acc.length := by
    intro l f hf
    induction l with
    | nil => intro acc; rfl
    | cons x l ih => intro acc; rw [List.foldl_cons, ih, hf]
  unfold foldBytes
  rw [keep _ _ (by intro acc x; cases x; simp)]
  exact List.length_replicate

def fold : OrderHasher :=
  ⟨fun bs => .ok (foldBytes bs), by
    intro bs d h
    cases h
    exact length_foldBytes bs⟩

def failing (message : String) : OrderHasher :=
  ⟨fun _ => .error (.hashing message), by
    intro _ _ h
    cases h⟩

end OrderHasher

end RollupTx
