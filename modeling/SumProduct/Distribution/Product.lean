/-
The normalised product of two distributions.

The product combines the two messages on an edge into a marginal.  A point mass absorbs every other
factor, and two point masses have a product only where they agree within the point tolerance,
measured against the second one.  Elsewhere a product exists within a family; a Student's t next to
a Gaussian counts as the Gaussian that matches it at its mode.
-/

import SumProduct.Distribution.Basic

set_option autoImplicit false

namespace SumProduct.Distribution

variable {α : Type} [Scalar α]

def pointMassProduct (left right : Quantity α) : Except Fault (Distribution α) :=
  let tolerance : α × α := Scalar.pointTolerance
  if left.allPairs (Scalar.isClose tolerance.1 tolerance.2) right then .ok (pointMass left)
  else
    .error <| .refused <| .disagreeingPoints <| match left, right with
      | .scalar x, .scalar y => some (Scalar.text x, Scalar.text y)
      | _, _ => none

/-- Precisions and weighted means add up. -/
def gaussianProduct (meanA varianceA meanB varianceB : α) : Except Fault (Distribution α) := do
  let weighted := (← Scalar.divide meanA varianceA) + (← Scalar.divide meanB varianceB)
  let precision := (← Scalar.divide 1 varianceA) + (← Scalar.divide 1 varianceB)
  gaussianOfPrecision weighted precision

def mvGaussianProduct (left right : MvGaussian α) : Except Fault (Distribution α) := do
  if left.dims ≠ right.dims then throw (.refused (.dimensionMismatch left.dims right.dims))
  let precisionA ← left.covariance.inverse
  let precisionB ← right.covariance.inverse
  let weighted ← Tensor.zipWith (· + ·) (← precisionA.product left.mean)
    (← precisionB.product right.mean)
  let precision ← Tensor.zipWith (· + ·) precisionA precisionB
  mvGaussianOfPrecision weighted precision

/-- A Student's t factor enters with its curvature at the mode as precision. -/
def gaussianStudentsT (mean variance location precision freedom : α) :
    Except Fault (Distribution α) := do
  let curvature ← Scalar.divide (precision * (freedom + 1)) freedom
  let weighted := (← Scalar.divide mean variance) + curvature * location
  gaussianOfPrecision weighted ((← Scalar.divide 1 variance) + curvature)

/-- The product of two distributions. -/
def multiply : Distribution α → Distribution α → Except Fault (Distribution α)
  | pointMass left, pointMass right => pointMassProduct left right
  | pointMass value, _ => .ok (pointMass value)
  | _, pointMass value => .ok (pointMass value)
  | gaussian meanA varianceA, gaussian meanB varianceB =>
    gaussianProduct meanA varianceA meanB varianceB
  | mvGaussian left, mvGaussian right => mvGaussianProduct left right
  | gamma shapeA rateA, gamma shapeB rateB => .ok (gamma (shapeA + shapeB - 1) (rateA + rateB))
  | inverseGamma shapeA scaleA, inverseGamma shapeB scaleB =>
    .ok (inverseGamma (shapeA + shapeB + 1) (scaleA + scaleB))
  | gaussian mean variance, studentsT location precision freedom =>
    gaussianStudentsT mean variance location precision freedom
  | studentsT location precision freedom, gaussian mean variance =>
    gaussianStudentsT mean variance location precision freedom
  | left, right => .error (.refused (.noProduct left.familyName right.familyName))

end SumProduct.Distribution
