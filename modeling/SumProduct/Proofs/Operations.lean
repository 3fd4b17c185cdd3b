/-
The bundled operations on typed messages.

On messages whose dimensions belong together every bundled operation is safe, and the type of its
result is known beforehand: a sum is a point mass only if both terms are, a product if one of the
factors is, and a linear map changes the dimension from the columns of its matrix to the rows.
-/

import SumProduct.Proofs.Moments
import SumProduct.Rules.Bundled

set_option autoImplicit false

namespace SumProduct

namespace Message

variable {message : Message} {dims : Option Nat}

theorem IsTyped.isPointMass_of_point (typed : message.IsTyped (pointType dims)) :
    message.isPointMass = true := by
  obtain ⟨value, rfl, _⟩ := typed.pointMass_inv
  rfl

theorem IsTyped.isPointMass_of_gaussian (typed : message.IsTyped (gaussianType dims)) :
    message.isPointMass = false := by
  rcases typed.gaussian_inv with ⟨_, mean, variance, rfl⟩ | ⟨joint, _, rfl⟩
  · rfl
  · rfl

end Message

namespace Bundled

/-- Point masses if the flag is set, Gaussians otherwise. -/
def familyType (point : Bool) (dims : Option Nat) : MessageType :=
  if point then pointType dims else gaussianType dims

/-! ### Gaussian factors -/

theorem spreadBy_typed {center known : Message} {dims : Option Nat}
    (located : center.IsLocated dims) (spread : known.IsTyped (spreadType dims)) :
    Safely (fun message => Message.IsTyped message (gaussianType dims))
      (spreadBy (.message center) (.message known)) := by
  obtain ⟨mean, meanFound, meanShape⟩ := located.mean
  obtain ⟨variance, varianceFound, varianceShape⟩ := located.variance
  obtain ⟨extra, rfl, extraShape⟩ := spread.spread_inv
  obtain ⟨total, added, totalShape⟩ := varianceShape.combine (· + ·) extraShape
  obtain ⟨message, made, typed⟩ := Distribution.gaussianLike_typed meanShape totalShape
  refine Safely.of_ok ?_ typed
  simp only [spreadBy, property, meanFound, varianceFound, Distribution.held, Quantity.add, added,
    made, Partial.ok_bind]

/-! ### Sums and differences -/

theorem combined_typed {mean variance : Quantity Float} {dims : Option Nat} (point : Bool)
    (meanShape : mean.Has (dims.map fun n => [n]))
    (varianceShape : variance.Has (dims.map fun n => [n, n])) :
    ∃ message, combined point mean variance = .ok message ∧
      Message.IsTyped message (familyType point dims) := by
  cases point with
  | true => exact ⟨.pointMass mean, rfl, Message.isTyped_pointMass meanShape⟩
  | false => exact Distribution.gaussianLike_typed meanShape varianceShape

/-- Two messages of one dimension yield a point mass if both are, and a Gaussian otherwise. -/
def Combines (implementation : Implementation) : Prop :=
  ∀ (site : Site) (first second : Message) (dims : Option Nat), first.IsLocated dims →
    second.IsLocated dims → ∃ message : Message,
      implementation site [.message first, .message second] none = .ok (.message message) ∧
      message.IsTyped (familyType (first.isPointMass && second.isPointMass) dims)

/-- The moments of two messages of one dimension belong together, and so does what is made of them. -/
theorem moments_combined (f : Float → Float → Float) (point : Bool) {first second : Message}
    {dims : Option Nat} (left : first.IsLocated dims) (right : second.IsLocated dims) :
    ∃ meanA meanB varianceA varianceB mean variance message,
      Distribution.mean first = .ok meanA ∧ Distribution.mean second = .ok meanB ∧
      Distribution.variance first = .ok varianceA ∧ Distribution.variance second = .ok varianceB ∧
      meanA.combine f meanB = .ok mean ∧ varianceA.combine (· + ·) varianceB = .ok variance ∧
      combined point mean variance = .ok message ∧
      Message.IsTyped message (familyType point dims) := by
  obtain ⟨meanA, foundMeanA, meanShapeA⟩ := left.mean
  obtain ⟨meanB, foundMeanB, meanShapeB⟩ := right.mean
  obtain ⟨varianceA, foundVarianceA, varianceShapeA⟩ := left.variance
  obtain ⟨varianceB, foundVarianceB, varianceShapeB⟩ := right.variance
  obtain ⟨mean, madeMean, meanShape⟩ := meanShapeA.combine f meanShapeB
  obtain ⟨variance, madeVariance, varianceShape⟩ := varianceShapeA.combine (· + ·) varianceShapeB
  obtain ⟨message, made, typed⟩ := combined_typed point meanShape varianceShape
  exact ⟨meanA, meanB, varianceA, varianceB, mean, variance, message, foundMeanA, foundMeanB,
    foundVarianceA, foundVarianceB, madeMean, madeVariance, made, typed⟩

theorem sum_combines : Combines sum := by
  intro site first second dims left right
  obtain ⟨_, _, _, _, _, _, message, meanA, meanB, varianceA, varianceB, mean, variance, made, typed⟩ :=
    moments_combined (· + ·) (first.isPointMass && second.isPointMass) left right
  refine ⟨message, ?_, typed⟩
  simp only [sum, binary, property, isPoint, Quantity.add, meanA, meanB, varianceA, varianceB, mean,
    variance, made, Partial.ok_bind, Partial.map_ok]

theorem difference_combines : Combines difference := by
  intro site first second dims left right
  obtain ⟨_, _, _, _, _, _, message, meanB, meanA, varianceB, varianceA, mean, variance, made, typed⟩ :=
    moments_combined (· - ·) (first.isPointMass && second.isPointMass) right left
  refine ⟨message, ?_, typed⟩
  simp only [difference, binary, property, isPoint, Quantity.add, Quantity.sub, meanA, meanB, varianceA,
    varianceB, mean, variance, made, Partial.ok_bind, Partial.map_ok]

end Bundled

/-! ### Products -/

namespace Distribution

theorem pointMassProduct_typed {left right : Quantity Float} {dims : Option Nat}
    (shaped : left.Has (dims.map fun n => [n])) :
    Safely (fun message => Message.IsTyped message (pointType dims)) (pointMassProduct left right) := by
  unfold pointMassProduct
  simp only
  split
  · exact Message.isTyped_pointMass shaped
  · exact .disagreeingPoints _

theorem gaussianProduct_typed (meanA varianceA meanB varianceB : Float) :
    Safely (fun message => Message.IsTyped message .gaussian)
      (gaussianProduct meanA varianceA meanB varianceB) := by
  unfold gaussianProduct gaussianOfPrecision
  refine (Scalar.divide_safe _ _).bind fun _ _ => ?_
  refine (Scalar.divide_safe _ _).bind fun _ _ => ?_
  refine (Scalar.divide_safe _ _).bind fun _ _ => ?_
  refine (Scalar.divide_safe _ _).bind fun _ _ => ?_
  refine (Scalar.divide_safe _ _).bind fun mean _ => ?_
  refine (Scalar.divide_safe _ _).bind fun variance _ => ?_
  exact Message.IsTyped.gaussian mean variance

theorem mvGaussianOfPrecision_typed {weighted precision : Tensor Float} {dims : Nat}
    (vector : weighted.shape = [dims]) (square : precision.shape = [dims, dims]) :
    Safely (fun message => Message.IsTyped message (gaussianType (some dims)))
      (mvGaussianOfPrecision weighted precision) := by
  unfold mvGaussianOfPrecision
  refine ((Tensor.shapeLaws Float).inverse square).bind fun covariance covarianceShape => ?_
  obtain ⟨mean, multiplied, meanShape⟩ := (Tensor.shapeLaws Float).vector covarianceShape vector
  obtain ⟨joint, made, same⟩ := MvGaussian.ofTensors_dims meanShape covarianceShape
  simp only [multiplied, made, Partial.ok_bind, Partial.pure_eq_ok]
  rw [gaussianType, ← same]
  exact Message.IsTyped.mvGaussian joint

theorem mvGaussianProduct_typed {left right : MvGaussian Float} (same : left.dims = right.dims) :
    Safely (fun message => Message.IsTyped message (gaussianType (some left.dims)))
      (mvGaussianProduct left right) := by
  unfold mvGaussianProduct
  rw [if_neg (not_not.mpr same)]
  have otherMean : right.mean.shape = [left.dims] := by rw [same]; exact right.mean_shape
  have otherCovariance : right.covariance.shape = [left.dims, left.dims] := by
    rw [same]
    exact right.covariance_shape
  refine ((Tensor.shapeLaws Float).inverse left.covariance_shape).bind fun precisionA shapeA => ?_
  refine ((Tensor.shapeLaws Float).inverse otherCovariance).bind fun precisionB shapeB => ?_
  obtain ⟨weightedA, multipliedA, vectorA⟩ := (Tensor.shapeLaws Float).vector shapeA left.mean_shape
  obtain ⟨weightedB, multipliedB, vectorB⟩ := (Tensor.shapeLaws Float).vector shapeB otherMean
  obtain ⟨weighted, addedWeighted, vector⟩ := (Tensor.shapeLaws Float).zipWith (· + ·) vectorA vectorB
  obtain ⟨precision, addedPrecision, square⟩ := (Tensor.shapeLaws Float).zipWith (· + ·) shapeA shapeB
  simp only [multipliedA, multipliedB, addedWeighted, addedPrecision, Partial.ok_bind]
  exact mvGaussianOfPrecision_typed vector square

/-- A product of point masses and Gaussians of one dimension: point masses absorb the other factor. -/
theorem multiply_located {first second : Message} {dims : Option Nat}
    (left : first.IsLocated dims) (right : second.IsLocated dims) :
    Safely (fun message => Message.IsTyped message
        (Bundled.familyType (first.isPointMass || second.isPointMass) dims))
      (multiply first second) := by
  rcases left with leftPoint | leftGaussian
  · obtain ⟨value, rfl, shaped⟩ := leftPoint.pointMass_inv
    rcases right with rightPoint | rightGaussian
    · obtain ⟨other, rfl, _⟩ := rightPoint.pointMass_inv
      exact pointMassProduct_typed shaped
    · rcases rightGaussian.gaussian_inv with ⟨_, mean, variance, rfl⟩ | ⟨joint, _, rfl⟩
      · exact Message.isTyped_pointMass shaped
      · exact Message.isTyped_pointMass shaped
  · rcases right with rightPoint | rightGaussian
    · obtain ⟨value, rfl, shaped⟩ := rightPoint.pointMass_inv
      rcases leftGaussian.gaussian_inv with ⟨_, mean, variance, rfl⟩ | ⟨joint, _, rfl⟩
      · exact Message.isTyped_pointMass shaped
      · exact Message.isTyped_pointMass shaped
    · rcases leftGaussian.gaussian_inv with ⟨rfl, meanA, varianceA, rfl⟩ | ⟨jointA, rfl, rfl⟩
      · rcases rightGaussian.gaussian_inv with ⟨_, meanB, varianceB, rfl⟩ | ⟨jointB, impossible, _⟩
        · exact gaussianProduct_typed meanA varianceA meanB varianceB
        · cases impossible
      · rcases rightGaussian.gaussian_inv with ⟨impossible, _⟩ | ⟨jointB, same, rfl⟩
        · cases impossible
        · exact mvGaussianProduct_typed (Option.some.inj same)

end Distribution

namespace Bundled

theorem equalityProduct_eq (site : Site) (first second : Message) :
    equalityProduct site [.message first, .message second] none
      = (first.multiply second).map .message := rfl

/-! ### Fixed gains -/

theorem scalarGain_single {node : Node} {gain : Gain} (role : node.role = .gain gain)
    (rows : gain.rows = 1) (cols : gain.cols = 1) :
    ∃ factor, scalarGain node = .ok factor := by
  have single : gain.matrix.shape = [1, 1] := by
    rw [gain.matrix_shape, rows, cols]
  refine ⟨gain.matrix.get 0, ?_⟩
  simp only [scalarGain, Node.gain, role, single, Partial.ok_bind, if_true, Partial.pure_eq_ok]

section Maps

variable {matrix : Tensor Float} {rows cols : Nat} {message : Message}

theorem mapPoint_typed (shaped : matrix.shape = [rows, cols])
    (typed : message.IsTyped (pointType (some cols))) :
    Safely (fun result => Message.IsTyped result (pointType (some rows)))
      (mapPoint matrix (.message message)) := by
  obtain ⟨value, rfl, valueShape⟩ := typed.pointMass_inv
  cases value with
  | scalar x => cases valueShape
  | array vector =>
      obtain ⟨result, multiplied, resultShape⟩ := (Tensor.shapeLaws Float).vector shaped valueShape
      simp only [mapPoint, property, Distribution.held, times, Quantity.toTensor, multiplied,
        Partial.ok_bind, Partial.pure_eq_ok]
      exact Message.IsTyped.vector result rows resultShape

theorem mapGaussian_typed (shaped : matrix.shape = [rows, cols])
    (typed : message.IsTyped (gaussianType (some cols))) :
    Safely (fun result => Message.IsTyped result (gaussianType (some rows)))
      (mapGaussian matrix (.message message)) := by
  rcases typed.gaussian_inv with ⟨impossible, _⟩ | ⟨joint, same, rfl⟩
  · cases impossible
  · cases same
    obtain ⟨mean, multipliedMean, meanShape⟩ := (Tensor.shapeLaws Float).vector shaped joint.mean_shape
    obtain ⟨half, multipliedHalf, halfShape⟩ := (Tensor.shapeLaws Float).matrix shaped joint.covariance_shape
    have turned := (Tensor.shapeLaws Float).transpose rows joint.dims matrix
    obtain ⟨covariance, multiplied, covarianceShape⟩ := (Tensor.shapeLaws Float).matrix halfShape turned
    obtain ⟨image, made, dims⟩ := MvGaussian.ofTensors_dims meanShape covarianceShape
    simp only [mapGaussian, property, Distribution.locationField, Distribution.spreadField, times,
      Quantity.toTensor, multipliedMean, multipliedHalf, shaped, List.getElem?_cons_zero,
      List.getElem?_cons_succ, Option.getD_some, multiplied, made, Partial.ok_bind,
      Partial.pure_eq_ok]
    rw [gaussianType, ← dims]
    exact Message.IsTyped.mvGaussian image

end Maps

end Bundled

end SumProduct
