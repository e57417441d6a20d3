import RollupTx.Crypto.Blake3
import RollupTx.Crypto.Ed25519
import RollupTx.Token.Registry
import RollupTx.Tx.Swap
import RollupTx.Tx.Transfer

/-!
# Test parties

A test party owns an Ed25519 key made from a 32-byte seed, an account id, and an address:
`0x` and the last 20 bytes of the BLAKE3 hash of its public key. Its signer writes the hex
public key and the hex signature; its order hasher is BLAKE3. Every party knows the same
four sample tokens, and builds transfers, limit orders and swaps from its own account.
Asking a party for a token it does not know is a fault of the test, reported as such.
-/

namespace RollupTx

/-- The signer of an Ed25519 seed: hex public key and hex signature of the payload. -/
def Signer.ed25519 (seed : List UInt8) : Signer :=
  ⟨fun msg => .ok ⟨Hex.encode (Ed25519.publicKey seed), Hex.encode (Ed25519.sign seed msg)⟩⟩

/-- The BLAKE3 hash of the orders' payloads. -/
def OrderHasher.blake3 : OrderHasher :=
  ⟨fun bs => .ok (Blake3.hash bs), by
    intro bs d h
    cases h
    exact Blake3.length_hash bs⟩

/-- The tokens every party knows, in this order. -/
def sampleTokens : List Token :=
  [Token.eth, ⟨"0x3b00ef435fa4fcff5c209a37d1f3dcff37c705ad", 1, "USDT", 6⟩,
    ⟨"0xeb8f08a975ab53e34d8a0330e0d34de942c95926", 2, "USDC", 6⟩,
    ⟨"0x2655f7a4c1e5c3d0e1b2c8a8f1d29eff1d1b3d83", 3, "DAI", 18⟩]

/-- A fault of a test: a token the party does not know. -/
inductive FixtureError
  | noToken (symbol : String)
  deriving DecidableEq, Repr

def FixtureError.message : FixtureError → String
  | .noToken s => "fixture has no token " ++ s

/-- A party of a test, with its key seed and account. -/
structure Party where
  seed : List UInt8
  accountId : Nat
  deriving DecidableEq, Repr

namespace Party

/-- A party with the key of `seed` and the given account id. -/
def withKey (seed : List UInt8) (accountId : Nat) : Party := ⟨seed, accountId⟩

/-- The party of a seed; its account id is one more than the seed's first byte. -/
def ofSeed (seed : List UInt8) : Party :=
  withKey seed ((seed.headD 0).toNat + 1)

def publicKey (p : Party) : List UInt8 := Ed25519.publicKey p.seed

/-- The address: `0x` and the last 20 bytes of the BLAKE3 hash of the public key. -/
def address (p : Party) : String :=
  "0x" ++ Hex.encode ((Blake3.hash p.publicKey).drop 12)

def signer (p : Party) : Signer := Signer.ed25519 p.seed

def tokens (_ : Party) : Registry := ⟨sampleTokens⟩

/-- A known token by symbol, matched exactly. -/
def token (p : Party) (symbol : String) : Except FixtureError Token :=
  match p.tokens.findBySymbol symbol with
  | some t => .ok t
  | none => .error (.noToken symbol)

/-- Whether `sig` is a valid signature by this party's key of `msg`: its text must be the
hex of exactly 64 bytes that pass strict verification. -/
def verify (p : Party) (msg : List UInt8) (sig : TxSignature) : Bool :=
  match Hex.decode sig.signature with
  | .ok bs => bs.length == 64 && Ed25519.verifyStrict (Ed25519.publicPoint p.seed) msg bs
  | .error _ => false

/-- An unsigned transfer from the party's account, without fee, valid at all times. -/
def makeTransfer (p : Party) (recipient symbol : String) (amount nonce : Nat) :
    Except FixtureError Transfer := do
  return ⟨p.accountId, p.address, recipient, ← p.token symbol, amount, 0, nonce, Window.default,
    none⟩

/-- An unsigned limit order selling `sell` for `buy` at 1:1, to the party's address. -/
def makeOrder (p : Party) (sell buy : String) (nonce : Nat) : Except FixtureError Order := do
  return ⟨p.accountId, p.address, nonce, ← p.token sell, ← p.token buy, 0, ⟨1, 1⟩,
    Window.default, none, none⟩

/-- An unsigned swap of two orders submitted by the party, without fee, hashed by BLAKE3. -/
def makeSwap (p : Party) (orders : Order × Order) (amounts : Nat × Nat) (nonce : Nat) : Swap :=
  ⟨p.accountId, p.address, amounts, orders, Token.eth, 0, nonce, none, OrderHasher.blake3⟩

end Party

/-- Parties `0 … count - 1`; party `i` has the seed of first byte `i mod 256`, zeros after. -/
def multiParty (count : Nat) : List Party :=
  (List.range count).map fun i => Party.ofSeed (UInt8.ofNat (i % 256) :: List.replicate 31 0)

end RollupTx
