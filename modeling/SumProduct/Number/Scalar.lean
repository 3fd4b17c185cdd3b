/-
The arithmetic that distributions need of their numbers.

Formulas for distributions are written once over `Scalar` and read twice: with doubles, which is how
they run, and with exact rationals, which is how their algebra is studied.  Division of two scalars
is refused when the divisor is zero; division inside arrays is not.
-/

import SumProduct.Fault
import SumProduct.Number.Decimal

set_option autoImplicit false

namespace SumProduct

class Scalar (α : Type) extends Zero α, One α, Add α, Sub α, Mul α, Div α where
  isZero : α → Bool
  isFinite : α → Bool
  /-- Too small to be divided by without loss. -/
  isTiny : α → Bool
  magnitude : α → α
  atMost : α → α → Bool
  /-- A product plus a third number, rounded once. -/
  multiplyAdd : α → α → α → α
  squareRoot? : α → Option α
  same : α → α → Bool
  /-- The share of the largest entry beside it from which on a diagonal entry is a good pivot. -/
  pivotShare : α
  pointTolerance : α × α
  text : α → String

instance : Scalar Float where
  zero := 0.0
  one := 1.0
  isZero x := x == 0.0
  isFinite := Number.isFinite
  isTiny x := x.abs < Number.leastNormal
  magnitude := Float.abs
  atMost x y := x ≤ y
  multiplyAdd := Number.multiplyAdd
  squareRoot? x := if x ≤ 0.0 then none else some x.sqrt
  same x y := x == y
  pivotShare := (1.0 + Float.sqrt 17.0) / 8.0
  pointTolerance := (1e-5, 1e-8)
  text := Number.text

def Number.rationalRoot? (x : Rat) : Option Rat :=
  let root : Rat := (x.num.natAbs.sqrt : Rat) / (x.den.sqrt : Rat)
  if 0 < x ∧ root * root = x then some root else none

instance : Scalar Rat where
  zero := 0
  one := 1
  isZero x := x == 0
  isFinite _ := true
  isTiny _ := false
  magnitude x := if x < 0 then -x else x
  atMost x y := x ≤ y
  multiplyAdd x y z := x * y + z
  squareRoot? := Number.rationalRoot?
  same x y := x == y
  pivotShare := 16 / 25
  pointTolerance := (1 / 100000, 1 / 100000000)
  text x := toString x

namespace Scalar

variable {α : Type} [Scalar α]

def divide (x y : α) : Except Fault α :=
  if isZero y then .error (.lapsed .zeroDivision) else .ok (x / y)

/-- Closeness measured against the second argument: the difference is at most the absolute
tolerance plus the relative one times `y`.  Infinite numbers are close only to themselves. -/
def isClose (relative absolute x y : α) : Bool :=
  (atMost (magnitude (x - y)) (absolute + relative * magnitude y) && isFinite y) || same x y

end Scalar

end SumProduct
