import RollupTx.Amount.Packed
import RollupTx.Encode.Field
import RollupTx.Tx.Order
import RollupTx.Tx.Transfer

/-!
# Generated samples

Random samples of the library's inputs, each drawn so that it satisfies its invariants, and
the checks that say so. A strategy draws packable amounts or fees, mixed-case addresses,
tokens with four-byte ids, validity windows, ratios with positive sixteen-byte parts,
transfers built from such parts, or orders. A survey draws some samples from a seeded
generator and reports, for each named check, whether every sample passed; with no samples
there is nothing to report.
-/

namespace RollupTx

/-- A seeded pseudo-random generator (SplitMix64). -/
structure Rng where
  state : UInt64

namespace Rng

/-- A generator seeded by some bytes. -/
def ofSeed (seed : List UInt8) : Rng :=
  ⟨seed.foldl (fun acc b => acc * 0x100000001B3 ^^^ b.toUInt64) 0xCBF29CE484222325⟩

def next (r : Rng) : UInt64 × Rng :=
  let s := r.state + 0x9E3779B97F4A7C15
  let z := (s ^^^ (s >>> 30)) * 0xBF58476D1CE4E5B9
  let z := (z ^^^ (z >>> 27)) * 0x94D049BB133111EB
  (z ^^^ (z >>> 31), ⟨s⟩)

/-- A natural number below `n`, for `n ≤ 2 ^ 128`. -/
def below (r : Rng) (n : Nat) : Nat × Rng :=
  let (a, r) := r.next
  let (b, r) := r.next
  ((a.toNat * 2 ^ 64 + b.toNat) % n, r)

theorem below_lt (r : Rng) {n : Nat} (h : 0 < n) : (r.below n).1 < n := by
  unfold below
  split
  split
  exact Nat.mod_lt _ h

/-- A natural number in `lo … hi`. -/
def between (r : Rng) (lo hi : Nat) : Nat × Rng :=
  let (x, r) := r.below (hi - lo + 1)
  (lo + x, r)

def bytes : Rng → Nat → List UInt8 × Rng
  | r, 0 => ([], r)
  | r, k + 1 =>
    let (b, r) := r.below 256
    let (bs, r) := bytes r k
    (UInt8.ofNat b :: bs, r)

def many {α : Type} (draw : Rng → α × Rng) : Rng → Nat → List α
  | _, 0 => []
  | r, k + 1 => let (a, r) := draw r; a :: many draw r k

end Rng

namespace Sample

/-- An amount with an exact packed form: `m * 10 ^ e`, `m < 2 ^ 35`, `e ≤ 31`. -/
def packableAmount (r : Rng) : Nat × Rng :=
  let (m, r) := r.below (2 ^ 35)
  let (e, r) := r.below 32
  (m * 10 ^ e, r)

/-- A fee with an exact packed form: `m * 10 ^ e`, `m ≤ 15`, `e ≤ 15`. -/
def packableFee (r : Rng) : Nat × Rng :=
  let (m, r) := r.below 16
  let (e, r) := r.below 16
  (m * 10 ^ e, r)

def upper (s : String) : String := s.map Char.toUpper

/-- `0x` and the hex of 20 random bytes, all lower-case or all upper-case. -/
def address (r : Rng) : String × Rng :=
  let (bs, r) := r.bytes 20
  let (u, r) := r.below 2
  let h := Hex.encode bs
  ("0x" ++ (if u = 1 then upper h else h), r)

def letters : Rng → Nat → List Char × Rng
  | r, 0 => ([], r)
  | r, k + 1 =>
    let (x, r) := r.below 26
    let (cs, r) := letters r k
    (Char.ofNat (65 + x) :: cs, r)

/-- A token with a four-byte id, a symbol of 2 to 6 capitals and at most 18 decimals. -/
def token (r : Rng) : Token × Rng :=
  let (id, r) := r.below (2 ^ 32)
  let (a, r) := address r
  let (k, r) := r.between 2 6
  let (sym, r) := letters r k
  let (d, r) := r.below 19
  (⟨a, id, String.ofList sym, d⟩, r)

/-- A window from two random timestamps, the smaller first. -/
def window (r : Rng) : Window × Rng :=
  let a := r.below (2 ^ 64)
  let b := a.2.below (2 ^ 64)
  have ha : a.1 < 2 ^ 64 := Rng.below_lt r (by decide)
  have hb : b.1 < 2 ^ 64 := Rng.below_lt a.2 (by decide)
  (⟨min a.1 b.1, max a.1 b.1, by omega, by omega⟩, b.2)

/-- A ratio of two positive parts below `2 ^ 128`. -/
def ratio (r : Rng) : Ratio × Rng :=
  let (n, r) := r.between 1 (2 ^ 128 - 1)
  let (d, r) := r.between 1 (2 ^ 128 - 1)
  (⟨n, d⟩, r)

/-- An unsigned transfer with four-byte ids and nonce and packable amount and fee. -/
def transfer (r : Rng) : Transfer × Rng :=
  let (account, r) := r.below (2 ^ 32)
  let (source, r) := address r
  let (target, r) := address r
  let (t, r) := token r
  let (amount, r) := packableAmount r
  let (fee, r) := packableFee r
  let (nonce, r) := r.below (2 ^ 32)
  let (w, r) := window r
  (⟨account, source, target, t, amount, fee, nonce, w, none⟩, r)

/-- An unsigned order whose fields all encode. -/
def order (r : Rng) : Order × Rng :=
  let (account, r) := r.below (2 ^ 32)
  let (recipient, r) := address r
  let (nonce, r) := r.below (2 ^ 32)
  let (sell, r) := token r
  let (buy, r) := token r
  let (amount, r) := packableAmount r
  let (q, r) := ratio r
  let (w, r) := window r
  (⟨account, recipient, nonce, sell, buy, amount, q, w, none, none⟩, r)

end Sample

/-- Whether text is all lower-case or all upper-case hex digits. -/
def singleCaseHex (s : String) : Bool :=
  s.all (fun c => c.isDigit || ('a' ≤ c && c ≤ 'f')) ||
    s.all (fun c => c.isDigit || ('A' ≤ c && c ≤ 'F'))

/-- The sample kinds that can be surveyed. -/
inductive Strategy
  | packableAmount
  | packableFee
  | address
  | token
  | window
  | ratio
  | transfer
  | order
  deriving DecidableEq, Repr

namespace Strategy

def ofName? : String → Option Strategy
  | "packable_amount" => some .packableAmount
  | "packable_fee" => some .packableFee
  | "address" => some .address
  | "token" => some .token
  | "time_range" => some .window
  | "ratio" => some .ratio
  | "transfer_params" => some .transfer
  | "order" => some .order
  | _ => none

/-- Draw `count` samples and report each check as the conjunction over them. -/
def survey {α : Type} (draw : Rng → α × Rng) (checks : List (String × (α → Bool)))
    (seed : List UInt8) (count : Nat) : List (String × Bool) :=
  let samples := Rng.many draw (Rng.ofSeed seed) count
  if samples.isEmpty then [] else checks.map fun (name, check) => (name, samples.all check)

/-- The checks of a strategy over `count` samples drawn from `seed`. -/
def run (s : Strategy) (seed : List UInt8) (count : Nat) : List (String × Bool) :=
  match s with
  | .packableAmount => survey Sample.packableAmount
      [("packable", fun x => (Packed.packAmount x).isOk && Packed.isAmountPackable x),
        ("roundtrip", fun x => match Packed.packAmount x with
          | .ok bs => Packed.unpackAmount bs == x
          | .error _ => false),
        ("in_range", fun x => x ≤ Packed.amountMantissaMax * 10 ^ Packed.amountExponentMax)]
      seed count
  | .packableFee => survey Sample.packableFee
      [("packable", fun x => (Packed.packFee x).isOk && Packed.isFeePackable x),
        ("roundtrip", fun x => match Packed.packFee x with
          | .ok b => Packed.unpackFee b == x
          | .error _ => false)]
      seed count
  | .address => survey Sample.address
      [("len_42", fun a => a.length == 42), ("prefix_0x", fun a => a.startsWith "0x"),
        ("single_case", fun a => singleCaseHex (a.drop 2).toString),
        ("serializes", fun a => (Field.address a).isOk)]
      seed count
  | .token => survey Sample.token
      [("id_fits_u32", fun t => t.id < 2 ^ 32),
        ("symbol_upper_2_to_6", fun t => 2 ≤ t.symbol.length && t.symbol.length ≤ 6 &&
          t.symbol.all fun c => 'A' ≤ c && c ≤ 'Z'),
        ("decimals_le_18", fun t => t.decimals ≤ 18),
        ("address_serializes", fun t => (Field.address t.address).isOk)]
      seed count
  | .window => survey Sample.window [("ordered", fun w => w.validFrom ≤ w.validUntil)] seed count
  | .ratio => survey Sample.ratio
      [("parts_positive", fun q => 0 < q.numerator && 0 < q.denominator),
        ("parts_serialize", fun q =>
          (Field.ratioPart q.numerator).isOk && (Field.ratioPart q.denominator).isOk)]
      seed count
  | .transfer => survey Sample.transfer
      [("encodes", fun t => t.encode.isOk),
        ("len_76", fun t => match t.encode with
          | .ok bs => bs.length == 76
          | .error _ => false),
        ("discriminator_fa01", fun t => match t.encode with
          | .ok bs => bs.take 2 == [0xfa, 0x01]
          | .error _ => false),
        ("deterministic", fun t => match t.encode, t.encode with
          | .ok a, .ok b => a == b
          | _, _ => false),
        ("case_insensitive_to", fun t =>
          let shouted := { t with toAddress := "0x" ++ Sample.upper (t.toAddress.drop 2).toString }
          match t.encode, shouted.encode with
          | .ok a, .ok b => a == b
          | _, _ => false)]
      seed count
  | .order => survey Sample.order
      [("encodes", fun o => o.encode.isOk),
        ("len_91", fun o => match o.encode with
          | .ok bs => bs.length == 91
          | .error _ => false),
        ("first_byte_o", fun o => match o.encode with
          | .ok bs => bs.head? == some orderMarker
          | .error _ => false)]
      seed count

end Strategy

end RollupTx
