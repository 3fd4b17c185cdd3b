/-
Distributions that travel as messages.

Each distribution knows the structural type by which rules are chosen, and some of its moments; a
moment that a family does not offer is a missing attribute.  A multivariate Gaussian carries the
proof that its covariance fits its mean.
-/

import SumProduct.Quantity
import SumProduct.Tensor.Inverse

set_option autoImplicit false

namespace SumProduct

structure MvGaussian (α : Type) where
  dims : Nat
  mean : Tensor α
  covariance : Tensor α
  mean_shape : mean.shape = [dims]
  covariance_shape : covariance.shape = [dims, dims]

/-- The families; `bare` is a distribution of no family. -/
inductive Distribution (α : Type) where
  | pointMass (value : Quantity α)
  | gaussian (mean variance : α)
  | mvGaussian (joint : MvGaussian α)
  | gamma (shape rate : α)
  | inverseGamma (shape scale : α)
  | studentsT (location precision freedom : α)
  | bare

/-- A mean of any shape is read as a vector; the covariance has to be square of that length. -/
def MvGaussian.ofTensors {α : Type} (mean covariance : Tensor α) : Except Fault (MvGaussian α) :=
  if fits : covariance.shape = [mean.shape.volume, mean.shape.volume] then
    .ok ⟨mean.shape.volume, mean.flatten, covariance, rfl, fits⟩
  else .error (.refused (.covarianceShape covariance.shape mean.shape.volume))

namespace Distribution

variable {α : Type}

def familyName : Distribution α → String
  | pointMass _ => "PointMass"
  | gaussian .. => "Gaussian"
  | mvGaussian _ => "MvGaussian"
  | gamma .. => "Gamma"
  | inverseGamma .. => "InverseGamma"
  | studentsT .. => "StudentsT"
  | bare => "Distribution"

def fields : Distribution α → List (String × Quantity α)
  | pointMass value => [("value", value)]
  | gaussian mean variance => [("m", .scalar mean), ("V", .scalar variance)]
  | mvGaussian joint => [("m", .array joint.mean), ("V", .array joint.covariance)]
  | gamma shape rate => [("a", .scalar shape), ("b", .scalar rate)]
  | inverseGamma shape scale => [("a", .scalar shape), ("b", .scalar scale)]
  | studentsT location precision freedom =>
    [("m", .scalar location), ("W", .scalar precision), ("nu", .scalar freedom)]
  | bare => []

def messageType : Distribution α → Except Fault MessageType
  | pointMass (.scalar _) => .ok .pointMass
  | pointMass (.array value) =>
    match value.shape with
    | [length] => .ok (.mvPointMass (.number length))
    | [rows, cols] => .ok (.matrixPointMass (.number rows) (.number cols))
    | shape => .error (.refused (.untypedRank shape.length))
  | gaussian .. => .ok .gaussian
  | mvGaussian joint => .ok (.mvGaussian (.number joint.dims))
  | gamma .. => .ok .gamma
  | inverseGamma .. => .ok .inverseGamma
  | studentsT .. => .ok .studentsT
  | bare => .error (.lapsed .notImplemented)

variable [Scalar α]

def mean : Distribution α → Except Fault (Quantity α)
  | pointMass value => .ok value
  | gaussian mean _ => .ok (.scalar mean)
  | mvGaussian joint => .ok (.array joint.mean)
  | gamma shape rate => (Scalar.divide shape rate).map .scalar
  | inverseGamma shape scale => (Scalar.divide scale (shape - 1)).map .scalar
  | studentsT location _ _ => .ok (.scalar location)
  | bare => .error (.lapsed .missingAttribute)

def variance : Distribution α → Except Fault (Quantity α)
  | pointMass value =>
    match value.shape with
    | [] => .ok (.scalar 0)
    | [length] => .ok (.array (Tensor.zeros [length, length]))
    | _ => .error (.refused .undefinedVariance)
  | gaussian _ variance => .ok (.scalar variance)
  | mvGaussian joint => .ok (.array joint.covariance)
  | _ => .error (.lapsed .missingAttribute)

def precision : Distribution α → Except Fault (Quantity α)
  | gaussian _ variance => (Scalar.divide 1 variance).map .scalar
  | mvGaussian joint => joint.covariance.inverse.map .array
  | studentsT _ precision _ => .ok (.scalar precision)
  | _ => .error (.lapsed .missingAttribute)

def weightedMean : Distribution α → Except Fault (Quantity α)
  | gaussian mean variance => (Scalar.divide mean variance).map .scalar
  | _ => .error (.lapsed .missingAttribute)

/-- The expectation of the reciprocal. -/
def inverseMean : Distribution α → Except Fault (Quantity α)
  | pointMass value => Quantity.div (.scalar 1) value
  | inverseGamma shape scale => (Scalar.divide shape scale).map .scalar
  | _ => .error (.lapsed .missingAttribute)

/-- Curvature of the negative log-density of a Student's t at its mode. -/
def modePrecision : Distribution α → Except Fault (Quantity α)
  | studentsT _ precision freedom =>
    (Scalar.divide (precision * (freedom + 1)) freedom).map .scalar
  | _ => .error (.lapsed .missingAttribute)

/-- The quantities that a family defines besides its parameters, by name. -/
def properties (message : Distribution α) : List (String × Except Fault (Quantity α)) :=
  let mean := ("mean", message.mean)
  let spread := [mean, ("variance", message.variance)]
  match message with
  | pointMass _ => spread ++ [("inverse_mean", message.inverseMean)]
  | gaussian _ _ => spread ++ [("W", message.precision), ("xi", message.weightedMean)]
  | mvGaussian _ => spread ++ [("W", message.precision)]
  | gamma _ _ => [mean]
  | inverseGamma _ _ => [mean, ("inverse_mean", message.inverseMean)]
  | studentsT _ _ _ => [mean, ("mode_precision", message.modePrecision)]
  | bare => []

def held : Distribution α → Except Fault (Quantity α)
  | pointMass value => .ok value
  | _ => .error (.lapsed .missingAttribute)

/-- The parameter named `m`. -/
def locationField : Distribution α → Except Fault (Quantity α)
  | gaussian mean _ => .ok (.scalar mean)
  | mvGaussian joint => .ok (.array joint.mean)
  | studentsT location _ _ => .ok (.scalar location)
  | _ => .error (.lapsed .missingAttribute)

/-- The parameter named `V`. -/
def spreadField : Distribution α → Except Fault (Quantity α)
  | gaussian _ variance => .ok (.scalar variance)
  | mvGaussian joint => .ok (.array joint.covariance)
  | _ => .error (.lapsed .missingAttribute)

def isPointMass : Distribution α → Bool
  | pointMass _ => true
  | _ => false

def gaussianOfPrecision (weighted precision : α) : Except Fault (Distribution α) := do
  return gaussian (← Scalar.divide weighted precision) (← Scalar.divide 1 precision)

def mvGaussianOfPrecision (weighted precision : Tensor α) : Except Fault (Distribution α) := do
  let covariance ← precision.inverse
  let mean ← covariance.product weighted
  return mvGaussian (← MvGaussian.ofTensors mean covariance)

/-- A Gaussian in one dimension if the mean is a number, in several otherwise. -/
def gaussianLike (mean variance : Quantity α) : Except Fault (Distribution α) :=
  match mean with
  | .scalar mean => (variance.single).map (gaussian mean)
  | .array mean => (MvGaussian.ofTensors mean variance.toTensor).map mvGaussian

/-- Same family, and the parameters agree in pairs under a relation.  Two distributions without
known parameters cannot be compared. -/
def agree (relation : α → α → Bool) : (left right : Distribution α) → Except Fault Bool
  | bare, bare => .error (.lapsed .wrongType)
  | left, right => .ok (left.familyName == right.familyName &&
      (left.fields.zip right.fields).all fun pair => pair.1.2.allPairs relation pair.2.2)

def equal (left right : Distribution α) : Except Fault Bool := agree Scalar.same left right

/-- Closeness of all parameters, measured against the second argument. -/
def isClose (relative absolute : α) (left right : Distribution α) : Except Fault Bool :=
  agree (Scalar.isClose relative absolute) left right

end Distribution

end SumProduct
