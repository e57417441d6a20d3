import RollupTx.Encode.Error
import RollupTx.Bytes.BigEndian

/-!
# Packed amounts and fees

A packed value is `m * 10 ^ e`. A fee takes one byte, exponent in the high nibble and
mantissa in the low one, so `m ≤ 15` and `e ≤ 15`. An amount takes five bytes holding
`m * 32 + e` big-endian, so `m < 2 ^ 35` and `e ≤ 31`. Packing is exact: a value without
such a form is refused, and rounding is a separate step (`closestFee`, `closestAmount`)
that gives the largest packable value not above its input.

A fee uses the largest exponent that divides it; an amount uses the smallest exponent
whose mantissa fits.
-/

namespace RollupTx.Packed

def feeMantissaMax : Nat := 15
def feeExponentMax : Nat := 15
/-- Largest amount mantissa, `2 ^ 35 - 1`. -/
def amountMantissaMax : Nat := 2 ^ 35 - 1
def amountExponentMax : Nat := 31
def amountBytes : Nat := 5

/-- The fee byte for exponent `e`: the largest exponent first; the first exponent whose
power divides the fee decides, and its quotient must fit the nibble. -/
def packFeeFrom (v : Nat) : Nat → Except EncodeError UInt8
  | 0 => if v ≤ feeMantissaMax then .ok (UInt8.ofNat v) else .error (.packing .fee v)
  | e + 1 =>
    if v % 10 ^ (e + 1) = 0 then
      if v / 10 ^ (e + 1) ≤ feeMantissaMax then .ok (UInt8.ofNat ((e + 1) * 16 + v / 10 ^ (e + 1)))
      else .error (.packing .fee v)
    else packFeeFrom v e

/-- The one-byte form of a fee; zero is `0x00`. -/
def packFee (v : Nat) : Except EncodeError UInt8 :=
  if v = 0 then .ok 0 else packFeeFrom v feeExponentMax

def unpackFee (b : UInt8) : Nat :=
  b.toNat % 16 * 10 ^ (b.toNat / 16)

/-- The word of an amount tried from exponent `e` upwards, with `k` exponents left: the
first power that does not divide the amount ends the search. -/
def packAmountFrom (v : Nat) : Nat → Nat → Except EncodeError Nat
  | _, 0 => .error (.packing .amount v)
  | e, k + 1 =>
    if v % 10 ^ e = 0 then
      if v / 10 ^ e ≤ amountMantissaMax then .ok (v / 10 ^ e * 32 + e)
      else packAmountFrom v (e + 1) k
    else .error (.packing .amount v)

def packAmount (v : Nat) : Except EncodeError (List UInt8) :=
  (packAmountFrom v 0 (amountExponentMax + 1)).map (BigEndian.encode amountBytes)

/-- The amount a word denotes: mantissa `w / 32`, exponent `w % 32`. -/
def unpackWord (w : Nat) : Nat :=
  w / 32 * 10 ^ (w % 32)

def unpackAmount (bs : List UInt8) : Nat :=
  unpackWord (BigEndian.decode bs)

/-- The largest `min (v / 10 ^ e) mMax * 10 ^ e` over `e ≤ eMax`. -/
def closest (v mMax : Nat) : Nat → Nat
  | 0 => min v mMax
  | e + 1 => max (closest v mMax e) (min (v / 10 ^ (e + 1)) mMax * 10 ^ (e + 1))

/-- The largest packable fee not above `v`. -/
def closestFee (v : Nat) : Nat := closest v feeMantissaMax feeExponentMax

/-- The largest packable amount not above `v`. -/
def closestAmount (v : Nat) : Nat := closest v amountMantissaMax amountExponentMax

/-- A fee is packable when rounding keeps it. -/
def isFeePackable (v : Nat) : Bool := closestFee v == v

/-- An amount is packable when rounding keeps it. -/
def isAmountPackable (v : Nat) : Bool := closestAmount v == v

end RollupTx.Packed
