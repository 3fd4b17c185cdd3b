/-
Double precision numbers as exact binary fractions.

A finite double is `mantissa * 2 ^ exponent`; conversely every nonnegative ratio of natural numbers
has a nearest double, a tie going to the even mantissa.  Everything here is exact arithmetic on
natural numbers, so reading and writing decimals rests on no floating point operation.
-/

set_option autoImplicit false

namespace SumProduct.Number

def twoTo (exponent : Nat) : Nat := Nat.pow 2 exponent

def tenTo (exponent : Nat) : Nat := Nat.pow 10 exponent

/-- What the bits of a double stand for; `finite` has the value `mantissa * 2 ^ exponent`. -/
inductive Decoded where
  | notANumber
  | infinite (negative : Bool)
  | finite (negative : Bool) (mantissa : Nat) (exponent : Int)
  deriving DecidableEq, Repr

def decodeBits (bits : Nat) : Decoded :=
  let negative := bits / twoTo 63 % 2 == 1
  let exponentField : Nat := bits / twoTo 52 % 2048
  let fraction : Nat := bits % twoTo 52
  if exponentField == 2047 then
    if fraction == 0 then .infinite negative else .notANumber
  else if exponentField == 0 then .finite negative fraction (-1074)
  else .finite negative (twoTo 52 + fraction) ((exponentField : Int) - 1075)

def decode (x : Float) : Decoded :=
  decodeBits x.toBits.toNat

/-- The bits of positive infinity; every smaller number is a nonnegative finite double. -/
def infinityBits : Nat := 2047 * twoTo 52

/-- A quotient rounded to the nearest natural number, ties to even. -/
def roundQuotient (numerator denominator : Nat) : Nat :=
  let quotient := numerator / denominator
  let remainder := numerator % denominator
  if 2 * remainder < denominator then quotient
  else if denominator < 2 * remainder then quotient + 1
  else quotient + quotient % 2

def scaleDown (numerator denominator : Nat) (exponent : Int) : Nat × Nat :=
  if 0 ≤ exponent then (numerator, denominator * twoTo exponent.toNat)
  else (numerator * twoTo (-exponent).toNat, denominator)

/-- The exponent at which a ratio has 53 mantissa bits, or the least exponent there is. -/
def exponentFor (numerator denominator : Nat) : Int :=
  let guess : Int := max ((numerator.log2 : Int) - denominator.log2 - 53) (-1074)
  let scaled := scaleDown numerator denominator guess
  if twoTo 53 ≤ scaled.1 / scaled.2 then guess + 1 else guess

/-- The bits of the double nearest to a ratio; too large a ratio is infinite. -/
def nearestBits (numerator denominator : Nat) : Nat :=
  if numerator == 0 then 0
  else
    let exponent := exponentFor numerator denominator
    let scaled := scaleDown numerator denominator exponent
    min infinityBits ((exponent + 1074).toNat * twoTo 52 + roundQuotient scaled.1 scaled.2)

def nearest (negative : Bool) (numerator denominator : Nat) : Float :=
  Float.ofBits (UInt64.ofNat ((if negative then twoTo 63 else 0) + nearestBits numerator denominator))

def ofInt? (n : Int) : Option Float :=
  if nearestBits n.natAbs 1 < infinityBits then some (nearest (n < 0) n.natAbs 1) else none

def toInt? (x : Float) : Option Int :=
  match decode x with
  | .finite negative mantissa exponent =>
    let scaled := scaleDown mantissa 1 (-exponent)
    if scaled.1 % scaled.2 = 0 then
      let size : Int := (scaled.1 / scaled.2 : Nat)
      some (if negative then -size else size)
    else none
  | _ => none

/-- The double nearest to `digits * 10 ^ exponent`.  Exponents far out of range are cut off before
any power is formed, which leaves the nearest double unchanged. -/
def ofDecimal (negative : Bool) (digits : Nat) (exponent : Int) : Float :=
  let magnitude : Int := exponent + (Nat.toDigits 10 digits).length
  if digits == 0 then nearest negative 0 1
  else if 400 < magnitude then nearest negative (twoTo 1024) 1
  else if magnitude < -400 then nearest negative 0 1
  else if 0 ≤ exponent then nearest negative (digits * tenTo exponent.toNat) 1
  else nearest negative digits (tenTo (-exponent).toNat)

def signedMultiple (negative : Bool) (mantissa exponent : Nat) : Int :=
  let size : Int := mantissa * twoTo exponent
  if negative then -size else size

/-- The double nearest to `x * y + z`, rounded once.  A finite product leaves an infinite `z`. -/
def multiplyAdd (x y z : Float) : Float :=
  match decode x, decode y, decode z with
  | .finite negativeX mantissaX exponentX, .finite negativeY mantissaY exponentY,
      .finite negativeZ mantissaZ exponentZ =>
    let exponent := min (exponentX + exponentY) exponentZ
    let product := signedMultiple (negativeX != negativeY) (mantissaX * mantissaY)
      (exponentX + exponentY - exponent).toNat
    let sum := product + signedMultiple negativeZ mantissaZ (exponentZ - exponent).toNat
    let scaled := scaleDown sum.natAbs 1 (-exponent)
    nearest (sum < 0) scaled.1 scaled.2
  | .finite .., .finite .., _ => z
  | _, _, _ => x * y + z

def infinity : Float := Float.ofBits (UInt64.ofNat infinityBits)

/-- The least positive double with a full mantissa. -/
def leastNormal : Float := Float.ofBits (UInt64.ofNat (twoTo 52))

def notANumber : Float := 0.0 / 0.0

def isFinite (x : Float) : Bool :=
  match decode x with
  | .finite .. => true
  | _ => false

end SumProduct.Number
