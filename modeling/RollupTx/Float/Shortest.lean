import RollupTx.Float.Binary64

/-!
# Shortest decimal text of binary64 values

Every finite nonzero binary64 value owns the interval of reals that round to it: halfway to
each neighbour, both ends included when its significand is even. Below a power of two the lower
neighbour is twice as close, so the interval is narrower on that side. `shortest` looks at the
decimal grids `10 ^ k` from coarse to fine and stops at the first with a point inside the
interval; of the (at most two) candidates, the grid points just below and just above the value,
it takes the nearer one, a tie going to the even one. That decimal has the fewest significant
digits that read back as the value, and among those it is the closest.

`FloatLayout` holds the decisions of a written form: up to which size values are written
positionally, from which size small values get leading zeros, and whether a positive exponent
carries a `+`. `render` writes a value in a layout.
-/

namespace RollupTx

namespace Binary64

/-- The rounding interval of a positive value, in units of `2 ^ (exponent - 2)`: its low end,
the value itself and its high end. -/
def interval (x : Binary64) : Nat × Nat × Nat :=
  let m := x.significand
  let low := if m = 2 ^ 52 && minExponent < x.exponent then 4 * m - 1 else 4 * m - 2
  (low, 4 * m, 4 * m + 2)

/-- The factors `(p, q)` with `t * 2 ^ (exponent - 2) / 10 ^ k = t * p / q`. -/
def gridScale (x : Binary64) (k : Int) : Nat × Nat :=
  let a := x.exponent - 2
  (2 ^ (max a 0).toNat * 10 ^ (max (-k) 0).toNat, 2 ^ (max (-a) 0).toNat * 10 ^ (max k 0).toNat)

/-- The multiple `c` of `10 ^ k` nearest the value among those in its interval, if any. -/
def gridPoint (x : Binary64) (k : Int) : Option Nat :=
  let (lo, v, hi) := x.interval
  let (p, q) := x.gridScale k
  let inside (c : Nat) : Bool :=
    if x.significand % 2 == 0 then lo * p ≤ c * q && c * q ≤ hi * p
    else lo * p < c * q && c * q < hi * p
  let below := v * p / q
  let above := below + 1
  match inside below, inside above with
  | true, true =>
    let toBelow := v * p - below * q
    let toAbove := above * q - v * p
    if toBelow < toAbove then some below
    else if toAbove < toBelow then some above
    else if below % 2 == 0 then some below else some above
  | true, false => some below
  | false, true => some above
  | false, false => none

/-- Grids from `10 ^ k` downwards, at most `fuel` of them; the first with a point wins. -/
def searchGrids (x : Binary64) : Nat → Int → Nat × Int
  | 0, k => (x.interval.2.1 * (x.gridScale k).1 / (x.gridScale k).2, k)
  | fuel + 1, k =>
    match x.gridPoint k with
    | some c => (c, k)
    | none => searchGrids x fuel (k - 1)

/-- A grid at least as coarse as the value's leading digit: from the bit length of the high
end, since `log₁₀ 2 < 0.30103`, with room for the rounding of that estimate. -/
def coarsestGrid (x : Binary64) : Int :=
  let (_, _, hi) := x.interval
  let (p, q) := x.gridScale 0
  let bits := Binary64.log2Ratio (hi * p) q + 1
  bits * 30103 / 100000 + 2

/-- `c * 10 ^ k` with the trailing zeros of `c` moved into the exponent. -/
def dropTrailingZeros (c : Nat) (k : Int) : Nat × Int :=
  if h : 0 < c ∧ c % 10 = 0 then dropTrailingZeros (c / 10) (k + 1) else (c, k)
termination_by c
decreasing_by omega

/-- The shortest decimal `digits * 10 ^ exponent` that reads back as the magnitude of `x`,
with no trailing zero in `digits`; `(0, 0)` for zero. Thirty grids always reach it: the
coarsest grid tried is at most three above the leading digit, and seventeen significant
digits always read back. -/
def shortest (x : Binary64) : Nat × Int :=
  if x.isZero then (0, 0)
  else
    let (c, k) := x.searchGrids 30 x.coarsestGrid
    dropTrailingZeros c k

end Binary64

/-- The decisions of a written form of binary64 values. With `n` the position of the leading
digit (the value lies in `[10 ^ (n - 1), 10 ^ n)`): values with `n ≤ maxPositional` are written
positionally, an integer with `.0` after it; values with `minPositional < n ≤ 0` are written
`0.` and leading zeros; all others as `d.ddde±x`, or `de±x` for a single digit. -/
structure FloatLayout where
  maxPositional : Int
  minPositional : Int
  /-- Whether a positive exponent is written with `+`. -/
  plusSign : Bool

/-- The layout of numbers quoted in the type errors of JSON reading: positional from `1e-5`
to below `1e16`, and `+` on positive exponents. -/
def FloatLayout.json : FloatLayout := ⟨16, -5, true⟩

namespace Binary64

/-- The text of a finite value in a layout: `0.0` for zero, a `-` before a negative value. -/
def render (layout : FloatLayout) (x : Binary64) : String :=
  let sign := if x.negative then "-" else ""
  if x.isZero then sign ++ "0.0"
  else
    let (c, k) := x.shortest
    let ds := Nat.toDigits 10 c
    let n : Int := ds.length + k
    let zeros (i : Int) := String.ofList (List.replicate i.toNat '0')
    let body :=
      if 0 ≤ k && n ≤ layout.maxPositional then String.ofList ds ++ zeros k ++ ".0"
      else if 0 < n && n ≤ layout.maxPositional then
        String.ofList (ds.take n.toNat) ++ "." ++ String.ofList (ds.drop n.toNat)
      else if layout.minPositional < n && n ≤ 0 then "0." ++ zeros (-n) ++ String.ofList ds
      else
        let e := n - 1
        let expSign := if e < 0 then "-" else if layout.plusSign then "+" else ""
        let mantissa := match ds with
          | [d] => String.singleton d
          | d :: rest => String.singleton d ++ "." ++ String.ofList rest
          | [] => "0"
        mantissa ++ "e" ++ expSign ++ toString e.natAbs
    sign ++ body

end Binary64

end RollupTx
