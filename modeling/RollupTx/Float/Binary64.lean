import RollupTx.Bytes.BigEndian

/-!
# Binary64 values

Finite IEEE 754 binary64 numbers held by their fields, with no runtime floating point: a sign,
a significand below `2 ^ 53` and a power of two. A normal value has a significand of at least
`2 ^ 52`; below that the exponent is the least one, `-1074`, and the value is subnormal or zero.
Every value is an integer multiple of `2 ^ -1074`, so all arithmetic here is exact arithmetic on
naturals until the one rounding step.

`round` takes an exact ratio of naturals to the nearest value, a tie going to the even
significand. A ratio that rounds beyond the largest finite magnitude `(2 ^ 53 - 1) * 2 ^ 971`
overflows, reported as `none`. A product or quotient is its exact result rounded once.

`ofDecimal` reads `significand * 10 ^ exponent` the way a fast JSON reader does: it rounds the
significand, then multiplies once by a rounded power of ten, or divides by rounded powers of
ten of at most `10 ^ 308` each. Each step rounds, so the result may differ from the correctly
rounded decimal by a unit in the last place.
-/

namespace RollupTx

/-- A finite binary64 value `±significand * 2 ^ exponent`. -/
structure Binary64 where
  negative : Bool
  significand : Nat
  exponent : Int
  deriving DecidableEq, Repr

namespace Binary64

/-- The exponent of subnormal values and of the least normal ones. -/
def minExponent : Int := -1074

/-- The exponent of the largest finite values. -/
def maxExponent : Int := 971

def zero (negative : Bool) : Binary64 := ⟨negative, 0, minExponent⟩

def isZero (x : Binary64) : Bool := x.significand == 0

def neg (x : Binary64) : Binary64 := { x with negative := !x.negative }

/-- The magnitude as a ratio `(numerator, denominator)` of naturals. -/
def ratio (x : Binary64) : Nat × Nat :=
  if 0 ≤ x.exponent then (x.significand * 2 ^ x.exponent.toNat, 1)
  else (x.significand, 2 ^ (-x.exponent).toNat)

/-- `⌊log₂ (num / den)⌋` for positive `num` and `den`: the bit lengths give it up to one. -/
def log2Ratio (num den : Nat) : Int :=
  let t : Int := (Nat.log2 num : Int) - (Nat.log2 den : Int)
  let reaches := if 0 ≤ t then den * 2 ^ t.toNat ≤ num else den ≤ num * 2 ^ (-t).toNat
  if reaches then t else t - 1

/-- `num / den / 2 ^ e` as quotient, remainder and the denominator the remainder is over. -/
def scaledDiv (num den : Nat) (e : Int) : Nat × Nat × Nat :=
  if 0 ≤ e then
    let d := den * 2 ^ e.toNat
    (num / d, num % d, d)
  else
    let n := num * 2 ^ (-e).toNat
    (n / den, n % den, den)

/-- The value nearest to `num / den` (`den > 0`), ties to the even significand; `none` when
it overflows. -/
def round (negative : Bool) (num den : Nat) : Option Binary64 :=
  if num = 0 then some (zero negative)
  else
    let e := max (log2Ratio num den - 52) minExponent
    let (q, r, d) := scaledDiv num den e
    let q := if 2 * r > d || (2 * r == d && q % 2 == 1) then q + 1 else q
    -- rounding up may carry into a 54th bit
    let (q, e) := if q = 2 ^ 53 then (2 ^ 52, e + 1) else (q, e)
    if maxExponent < e then none else some ⟨negative, q, e⟩

/-- A natural number rounded to binary64. -/
def ofNat (n : Nat) : Option Binary64 := round false n 1

/-- The product, rounded once. -/
def mul (x y : Binary64) : Option Binary64 :=
  let (a, b) := x.ratio
  let (c, d) := y.ratio
  round (x.negative != y.negative) (a * c) (b * d)

/-- The quotient by a nonzero `y`, rounded once. -/
def div (x y : Binary64) : Option Binary64 :=
  let (a, b) := x.ratio
  let (c, d) := y.ratio
  round (x.negative != y.negative) (a * d) (b * c)

/-- The largest power of ten a single scaling step uses. -/
def maxPowerStep : Nat := 308

/-- `10 ^ i` rounded to binary64, for `i ≤ 308`. -/
def pow10 (i : Nat) : Binary64 := (round false (10 ^ i) 1).getD (zero false)

/-- Divide by `10 ^ k`: one division when `k ≤ 308`, else a division by `10 ^ 308` first,
stopping early at zero. -/
def scaleDown (x : Binary64) (k : Nat) : Option Binary64 :=
  if _h : k ≤ maxPowerStep then div x (pow10 k)
  else if x.isZero then some x
  else do scaleDown (← div x (pow10 maxPowerStep)) (k - maxPowerStep)
termination_by k
decreasing_by all_goals (unfold maxPowerStep at *; omega)

/-- `significand * 10 ^ exponent` as a JSON reader computes it (see the module note);
`none` when the result overflows. -/
def ofDecimal (significand : Nat) (exponent : Int) : Option Binary64 := do
  let x ← ofNat significand
  if 0 ≤ exponent then
    if exponent.toNat ≤ maxPowerStep then mul x (pow10 exponent.toNat)
    else if x.isZero then some x
    else none
  else scaleDown x (-exponent).toNat

end Binary64

end RollupTx
