import RollupTx.Crypto.Curve25519
import RollupTx.Crypto.Sha512

/-!
# Ed25519 signatures

Signing and strict verification of RFC 8032 Ed25519. A 32-byte secret seed is hashed with
SHA-512; the first half, clamped, is the secret scalar `a` and the public key is `[a]B`;
the second half is a prefix for the per-message nonce `r`. A signature of `M` is `R = [r]B`
and `s = r + k a mod L`, where `k` is the SHA-512 hash of `R`, the public key and `M`.

Strict verification refuses an `s` whose top four bits are set and which is not below the
group order, an `R` that does not decode, and an `R` or a public key of small order; then it
accepts exactly when `[s]B - [k]A` is the point `R`.
-/

namespace RollupTx.Ed25519

open Curve25519

/-- The secret scalar of a seed: the first half of its hash, clamped. -/
def secretScalar (seed : List UInt8) : Nat :=
  let h := Point.ofLeBytes ((Sha512.digest seed).take 32)
  h % 2 ^ 254 / 8 * 8 + 2 ^ 254

def publicPoint (seed : List UInt8) : Point :=
  Point.base.smul (secretScalar seed)

/-- The 32-byte public key of a seed. -/
def publicKey (seed : List UInt8) : List UInt8 :=
  (publicPoint seed).encode

/-- A hash read as a scalar modulo the group order. -/
def hashScalar (bs : List UInt8) : Nat :=
  Point.ofLeBytes (Sha512.digest bs) % groupOrder

/-- The 64-byte signature of a message. -/
def sign (seed : List UInt8) (msg : List UInt8) : List UInt8 :=
  let a := secretScalar seed
  let pk := publicKey seed
  let prefix0 := (Sha512.digest seed).drop 32
  let r := hashScalar (prefix0 ++ msg)
  let rBytes := (Point.base.smul r).encode
  let k := hashScalar (rBytes ++ pk ++ msg)
  rBytes ++ Point.leBytes 32 ((r + k * a) % groupOrder)

/-- Whether a signature's scalar is acceptable: below `2 ^ 252`, or below the order. -/
def scalarAccepted (s : Nat) : Bool :=
  s < 2 ^ 252 || s < groupOrder

/-- Strict verification of a 64-byte signature under the public key point `pk`. -/
def verifyStrict (pk : Point) (msg sig : List UInt8) : Bool :=
  let rBytes := sig.take 32
  let s := Point.ofLeBytes (sig.drop 32)
  sig.length == 64 && scalarAccepted s &&
    match Point.decode rBytes with
    | none => false
    | some r =>
      !r.hasSmallOrder && !pk.hasSmallOrder &&
        let k := hashScalar (rBytes ++ pk.encode ++ msg)
        (Point.base.smul s).add ((pk.smul k).negate) |>.same r

end RollupTx.Ed25519
