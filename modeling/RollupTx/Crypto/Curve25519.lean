import RollupTx.Bytes.BigEndian

/-!
# The Edwards curve of Ed25519

Points of `-x² + y² = 1 + d x² y²` over the field of `p = 2 ^ 255 - 19`, in extended
coordinates `(X : Y : Z : T)` with `x = X / Z`, `y = Y / Z` and `x y = T / Z`. Addition uses
the complete formulas of RFC 8032, so doubling is addition of a point to itself. A point is
written as 32 little-endian bytes of `y` with the parity of `x` in the top bit. Reading a
point takes `y` modulo `p` from the low 255 bits, recovers the even square root `x` and
negates it when the top bit is set; it fails when `x²` has no root.
-/

namespace RollupTx.Curve25519

/-- The field prime `2 ^ 255 - 19`. -/
def prime : Nat := 2 ^ 255 - 19

/-- The order of the base point, `2 ^ 252 + 27742317777372353535851937790883648493`. -/
def groupOrder : Nat := 2 ^ 252 + 27742317777372353535851937790883648493

/-- `b ^ e mod m` by squaring. -/
def powMod (b e m : Nat) : Nat :=
  if h : e = 0 then 1 % m
  else
    let half := powMod (b * b % m) (e / 2) m
    if e % 2 = 1 then half * b % m else half
termination_by e
decreasing_by omega

/-- Field operations modulo the prime. -/
def add (a b : Nat) : Nat := (a + b) % prime
def sub (a b : Nat) : Nat := (a + prime - b % prime) % prime
def mul (a b : Nat) : Nat := a * b % prime
/-- The inverse of a nonzero field element. -/
def inv (a : Nat) : Nat := powMod a (prime - 2) prime
def neg (a : Nat) : Nat := (prime - a % prime) % prime

/-- The curve constant `d = -121665 / 121666`. -/
def curveD : Nat := mul (prime - 121665) (inv 121666)

/-- A square root of `-1`, `2 ^ ((p - 1) / 4)`. -/
def sqrtMinusOne : Nat := powMod 2 ((prime - 1) / 4) prime

/-- A point in extended coordinates. -/
structure Point where
  x : Nat
  y : Nat
  z : Nat
  t : Nat

namespace Point

/-- The neutral element `(0, 1)`. -/
def identity : Point := ⟨0, 1, 1, 0⟩

def add (p q : Point) : Point :=
  let a := mul (sub p.y p.x) (sub q.y q.x)
  let b := mul (Curve25519.add p.y p.x) (Curve25519.add q.y q.x)
  let c := mul (mul p.t (2 * curveD)) q.t
  let d := mul (mul p.z 2) q.z
  let e := sub b a
  let f := sub d c
  let g := Curve25519.add d c
  let h := Curve25519.add b a
  ⟨mul e f, mul g h, mul f g, mul e h⟩

/-- The negated point `(-x, y)`. -/
def negate (p : Point) : Point := ⟨neg p.x, p.y, p.z, neg p.t⟩

/-- `k` times a point, by doubling and adding from the least significant bit. -/
def smul (k : Nat) (p : Point) : Point :=
  if h : k = 0 then identity
  else
    let rest := smul (k / 2) (p.add p)
    if k % 2 = 1 then rest.add p else rest
termination_by k
decreasing_by omega

/-- Equality of the points two coordinate tuples stand for. -/
def same (p q : Point) : Bool :=
  mul p.x q.z == mul q.x p.z && mul p.y q.z == mul q.y p.z

/-- Whether eight times the point is the neutral element. -/
def hasSmallOrder (p : Point) : Bool :=
  same (smul 8 p) identity

def affine (p : Point) : Nat × Nat :=
  let zi := inv p.z
  (mul p.x zi, mul p.y zi)

/-- The little-endian bytes of a number, `n` of them. -/
def leBytes (n v : Nat) : List UInt8 :=
  (List.range n).map fun i => UInt8.ofNat (v / 256 ^ i % 256)

def ofLeBytes (bs : List UInt8) : Nat :=
  bs.foldr (fun b acc => acc * 256 + b.toNat) 0

/-- The 32-byte encoding: `y` with the parity of `x` in the top bit. -/
def encode (p : Point) : List UInt8 :=
  let (x, y) := p.affine
  leBytes 32 (y + 2 ^ 255 * (x % 2))

/-- The square root of `u / v` with even representative, if `u / v` is a square. -/
def sqrtRatio (u v : Nat) : Option Nat :=
  let v3 := mul (mul v v) v
  let v7 := mul (mul v3 v3) v
  let r := mul (mul u v3) (powMod (mul u v7) ((prime - 5) / 8) prime)
  let check := mul v (mul r r)
  let r := if check = u % prime then some r
    else if check = neg u then some (mul r sqrtMinusOne)
    else none
  r.map fun r => if r % 2 = 1 then neg r else r

/-- Read a point from 32 bytes; `y` is taken modulo `p` from the low 255 bits. -/
def decode (bs : List UInt8) : Option Point :=
  let n := ofLeBytes bs
  let y := n % 2 ^ 255 % prime
  let u := sub (mul y y) 1
  let v := Curve25519.add (mul curveD (mul y y)) 1
  (sqrtRatio u v).map fun x =>
    let x := if n / 2 ^ 255 % 2 = 1 then neg x else x
    ⟨x, y, 1, mul x y⟩

/-- The base point: `y = 4 / 5` with even `x`. -/
def base : Point :=
  let y := mul 4 (inv 5)
  let u := sub (mul y y) 1
  let v := Curve25519.add (mul curveD (mul y y)) 1
  let x := (sqrtRatio u v).getD 0
  ⟨x, y, 1, mul x y⟩

end Point

end RollupTx.Curve25519
