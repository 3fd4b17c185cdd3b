/-
Typed messages and their moments.

Point masses and Gaussians come in one dimension, as numbers, and in several, as vectors with square
matrices.  Both are described at once: `none` stands for numbers, and `some n` for vectors of length
`n`.  The moments of a typed message have the shapes that belong to its type, and a Gaussian made of
moments with these shapes has the type again.
-/

import SumProduct.Proofs.Shapes
import SumProduct.Value.Basic

set_option autoImplicit false

namespace SumProduct

/-! ### Types of messages -/

/-- The message has the given type. -/
inductive Message.IsTyped : Message → MessageType → Prop
  | point (x : Float) : IsTyped (.pointMass (.scalar x)) .pointMass
  | vector (tensor : Tensor Float) (length : Nat) (shaped : tensor.shape = [length]) :
      IsTyped (.pointMass (.array tensor)) (.mvPointMass (.number length))
  | matrix (tensor : Tensor Float) (rows cols : Nat) (shaped : tensor.shape = [rows, cols]) :
      IsTyped (.pointMass (.array tensor)) (.matrixPointMass (.number rows) (.number cols))
  | gaussian (mean variance : Float) : IsTyped (.gaussian mean variance) .gaussian
  | mvGaussian (joint : MvGaussian Float) :
      IsTyped (.mvGaussian joint) (.mvGaussian (.number joint.dims))
  | gamma (shape rate : Float) : IsTyped (.gamma shape rate) .gamma
  | inverseGamma (shape scale : Float) : IsTyped (.inverseGamma shape scale) .inverseGamma
  | studentsT (location precision freedom : Float) :
      IsTyped (.studentsT location precision freedom) .studentsT

namespace Message

variable {message : Message} {type : MessageType}

theorem messageType_eq_ok_iff : message.messageType = .ok type ↔ message.IsTyped type := by
  constructor
  · intro typed
    cases message with
    | pointMass value =>
        cases value with
        | scalar x =>
            cases typed
            exact .point x
        | array tensor =>
            simp only [Distribution.messageType] at typed
            split at typed
            · rename_i length shaped
              cases typed
              exact .vector tensor length shaped
            · rename_i rows cols shaped
              cases typed
              exact .matrix tensor rows cols shaped
            · cases typed
    | gaussian mean variance =>
        cases typed
        exact .gaussian mean variance
    | mvGaussian joint =>
        cases typed
        exact .mvGaussian joint
    | gamma shape rate =>
        cases typed
        exact .gamma shape rate
    | inverseGamma shape scale =>
        cases typed
        exact .inverseGamma shape scale
    | studentsT location precision freedom =>
        cases typed
        exact .studentsT location precision freedom
    | bare => cases typed
  · intro typed
    cases typed with
    | vector tensor length shaped => simp only [Distribution.messageType, shaped]
    | matrix tensor rows cols shaped => simp only [Distribution.messageType, shaped]
    | point | gaussian | mvGaussian | gamma | inverseGamma | studentsT => rfl

theorem IsTyped.isConcrete (typed : message.IsTyped type) : type.isConcrete = true := by
  cases typed with
  | point | vector | matrix | gaussian | mvGaussian | gamma | inverseGamma | studentsT => rfl

theorem IsTyped.natural (typed : message.IsTyped type) {value : Int}
    (member : .number value ∈ type.params) : ∃ number : Nat, value = number := by
  cases typed with
  | vector tensor length shaped =>
      exact ⟨length, Param.number.inj (List.mem_singleton.mp member)⟩
  | mvGaussian joint =>
      exact ⟨joint.dims, Param.number.inj (List.mem_singleton.mp member)⟩
  | matrix tensor rows cols shaped =>
      rcases List.mem_cons.mp member with first | second
      · exact ⟨rows, Param.number.inj first⟩
      · exact ⟨cols, Param.number.inj (List.mem_singleton.mp second)⟩
  | point | gaussian | gamma | inverseGamma | studentsT => cases member

end Message

/-- The type of point masses. -/
def pointType : Option Nat → MessageType
  | none => .pointMass
  | some dims => .mvPointMass (.number dims)

/-- The type of Gaussians. -/
def gaussianType : Option Nat → MessageType
  | none => .gaussian
  | some dims => .mvGaussian (.number dims)

/-- The type of point masses that hold a variance. -/
def spreadType : Option Nat → MessageType
  | none => .pointMass
  | some dims => .matrixPointMass (.number dims) (.number dims)

/-- The quantity is a number, or an array of the given shape. -/
def Quantity.Has (shape : Option Shape) (quantity : Quantity Float) : Prop :=
  match shape, quantity with
  | none, .scalar _ => True
  | some shape, .array tensor => tensor.shape = shape
  | _, _ => False

namespace Message

variable {message : Message} {dims : Option Nat}

theorem IsTyped.pointMass_inv (typed : message.IsTyped (pointType dims)) :
    ∃ value, message = .pointMass value ∧ value.Has (dims.map fun n => [n]) := by
  generalize same : pointType dims = type at typed
  cases typed with
  | point x =>
      cases dims with
      | none => exact ⟨.scalar x, rfl, trivial⟩
      | some n => simp [pointType, MessageType.pointMass, MessageType.mvPointMass] at same
  | vector tensor length shaped =>
      cases dims with
      | none => simp [pointType, MessageType.pointMass, MessageType.mvPointMass] at same
      | some n =>
          have cast : (n : Int) = length := by simpa [pointType, MessageType.mvPointMass] using same
          have equal : n = length := Int.ofNat.inj cast
          exact ⟨.array tensor, rfl, by rw [equal]; exact shaped⟩
  | matrix | gaussian | mvGaussian | gamma | inverseGamma | studentsT =>
      cases dims <;> simp [pointType, MessageType.pointMass, MessageType.mvPointMass,
        MessageType.matrixPointMass, MessageType.gaussian, MessageType.mvGaussian,
        MessageType.gamma, MessageType.inverseGamma, MessageType.studentsT] at same

theorem IsTyped.spread_inv (typed : message.IsTyped (spreadType dims)) :
    ∃ value, message = .pointMass value ∧ value.Has (dims.map fun n => [n, n]) := by
  generalize same : spreadType dims = type at typed
  cases typed with
  | point x =>
      cases dims with
      | none => exact ⟨.scalar x, rfl, trivial⟩
      | some n => simp [spreadType, MessageType.pointMass, MessageType.matrixPointMass] at same
  | matrix tensor rows cols shaped =>
      cases dims with
      | none => simp [spreadType, MessageType.pointMass, MessageType.matrixPointMass] at same
      | some n =>
          have cast : (n : Int) = rows ∧ (n : Int) = cols := by
            simpa [spreadType, MessageType.matrixPointMass] using same
          refine ⟨.array tensor, rfl, ?_⟩
          rw [← Int.ofNat.inj cast.1, ← Int.ofNat.inj cast.2] at shaped
          exact shaped
  | vector | gaussian | mvGaussian | gamma | inverseGamma | studentsT =>
      cases dims <;> simp [spreadType, MessageType.pointMass, MessageType.mvPointMass,
        MessageType.matrixPointMass, MessageType.gaussian, MessageType.mvGaussian,
        MessageType.gamma, MessageType.inverseGamma, MessageType.studentsT] at same

theorem IsTyped.gaussian_inv (typed : message.IsTyped (gaussianType dims)) :
    (dims = none ∧ ∃ mean variance, message = .gaussian mean variance) ∨
      ∃ joint, dims = some joint.dims ∧ message = .mvGaussian joint := by
  generalize same : gaussianType dims = type at typed
  cases typed with
  | gaussian mean variance =>
      cases dims with
      | none => exact Or.inl ⟨rfl, mean, variance, rfl⟩
      | some n => simp [gaussianType, MessageType.gaussian, MessageType.mvGaussian] at same
  | mvGaussian joint =>
      cases dims with
      | none => simp [gaussianType, MessageType.gaussian, MessageType.mvGaussian] at same
      | some n =>
          have cast : (n : Int) = joint.dims := by
            simpa [gaussianType, MessageType.mvGaussian] using same
          exact Or.inr ⟨joint, by rw [Int.ofNat.inj cast], rfl⟩
  | point | vector | matrix | gamma | inverseGamma | studentsT =>
      cases dims <;> simp [gaussianType, MessageType.pointMass, MessageType.mvPointMass,
        MessageType.matrixPointMass, MessageType.gaussian, MessageType.mvGaussian,
        MessageType.gamma, MessageType.inverseGamma, MessageType.studentsT] at same

theorem IsTyped.gamma_inv (typed : message.IsTyped .gamma) :
    ∃ shape rate, message = .gamma shape rate := by
  generalize same : MessageType.gamma = type at typed
  cases typed with
  | gamma shape rate => exact ⟨shape, rate, rfl⟩
  | point | vector | matrix | gaussian | mvGaussian | inverseGamma | studentsT =>
      simp [MessageType.pointMass, MessageType.mvPointMass, MessageType.matrixPointMass,
        MessageType.gaussian, MessageType.mvGaussian, MessageType.gamma, MessageType.inverseGamma,
        MessageType.studentsT] at same

theorem IsTyped.inverseGamma_inv (typed : message.IsTyped .inverseGamma) :
    ∃ shape scale, message = .inverseGamma shape scale := by
  generalize same : MessageType.inverseGamma = type at typed
  cases typed with
  | inverseGamma shape scale => exact ⟨shape, scale, rfl⟩
  | point | vector | matrix | gaussian | mvGaussian | gamma | studentsT =>
      simp [MessageType.pointMass, MessageType.mvPointMass, MessageType.matrixPointMass,
        MessageType.gaussian, MessageType.mvGaussian, MessageType.gamma, MessageType.inverseGamma,
        MessageType.studentsT] at same

/-! ### Moments -/

theorem isTyped_pointMass {value : Quantity Float} (shaped : value.Has (dims.map fun n => [n])) :
    Message.IsTyped (.pointMass value) (pointType dims) := by
  cases dims with
  | none =>
      cases value with
      | scalar x => exact .point x
      | array tensor => cases shaped
  | some n =>
      cases value with
      | scalar x => cases shaped
      | array tensor => exact .vector tensor n shaped

/-- Point masses and Gaussians of some dimension. -/
def IsLocated (message : Message) (dims : Option Nat) : Prop :=
  message.IsTyped (pointType dims) ∨ message.IsTyped (gaussianType dims)

theorem IsLocated.mean (located : message.IsLocated dims) :
    ∃ mean, Distribution.mean message = .ok mean ∧ mean.Has (dims.map fun n => [n]) := by
  rcases located with point | gaussian
  · obtain ⟨value, rfl, shaped⟩ := point.pointMass_inv
    exact ⟨value, rfl, shaped⟩
  · rcases gaussian.gaussian_inv with ⟨rfl, mean, variance, rfl⟩ | ⟨joint, rfl, rfl⟩
    · exact ⟨.scalar mean, rfl, trivial⟩
    · exact ⟨.array joint.mean, rfl, joint.mean_shape⟩

theorem IsLocated.variance (located : message.IsLocated dims) :
    ∃ variance, Distribution.variance message = .ok variance ∧
      variance.Has (dims.map fun n => [n, n]) := by
  rcases located with point | gaussian
  · obtain ⟨value, rfl, shaped⟩ := point.pointMass_inv
    cases dims with
    | none =>
        cases value with
        | scalar x => exact ⟨.scalar 0, rfl, trivial⟩
        | array tensor => cases shaped
    | some n =>
        cases value with
        | scalar x => cases shaped
        | array tensor =>
            have length : tensor.shape = [n] := shaped
            refine ⟨.array (Tensor.zeros [n, n]), ?_, rfl⟩
            simp only [Distribution.variance, Quantity.shape, length]
  · rcases gaussian.gaussian_inv with ⟨rfl, mean, variance, rfl⟩ | ⟨joint, rfl, rfl⟩
    · exact ⟨.scalar variance, rfl, trivial⟩
    · exact ⟨.array joint.covariance, rfl, joint.covariance_shape⟩

theorem IsTyped.gaussian_fields (typed : message.IsTyped (gaussianType dims)) :
    ∃ mean variance, Distribution.locationField message = .ok mean ∧
      Distribution.spreadField message = .ok variance ∧
      mean.Has (dims.map fun n => [n]) ∧ variance.Has (dims.map fun n => [n, n]) := by
  rcases typed.gaussian_inv with ⟨rfl, mean, variance, rfl⟩ | ⟨joint, rfl, rfl⟩
  · exact ⟨.scalar mean, .scalar variance, rfl, rfl, trivial, trivial⟩
  · exact ⟨.array joint.mean, .array joint.covariance, rfl, rfl, joint.mean_shape,
      joint.covariance_shape⟩

end Message

namespace Quantity

variable {shape : Option Shape} {first second : Quantity Float}

theorem Has.combine (f : Float → Float → Float) (left : first.Has shape) (right : second.Has shape) :
    ∃ result, Quantity.combine f first second = .ok result ∧ result.Has shape := by
  cases shape with
  | none =>
      cases first with
      | array tensor => cases left
      | scalar x =>
          cases second with
          | array tensor => cases right
          | scalar y => exact ⟨.scalar (f x y), rfl, trivial⟩
  | some extents =>
      cases first with
      | scalar x => cases left
      | array tensor =>
          cases second with
          | scalar y => cases right
          | array other =>
              obtain ⟨result, computed, shaped⟩ := (Tensor.shapeLaws Float).zipWith f left right
              exact ⟨.array result, by rw [Quantity.combine, computed]; rfl, shaped⟩

theorem Has.div_safe (left : first.Has none) (right : second.Has none) :
    Safely (fun quotient => quotient.Has none) (first.div second) := by
  cases first with
  | array tensor => cases left
  | scalar x =>
      cases second with
      | array tensor => cases right
      | scalar y => exact (Scalar.divide_safe x y).map fun _ _ => trivial

theorem Has.single_eq (shaped : first.Has none) : ∃ x, first.single = .ok x := by
  cases first with
  | array tensor => cases shaped
  | scalar x => exact ⟨x, rfl⟩

end Quantity

theorem Distribution.gaussianLike_typed {dims : Option Nat} {mean variance : Quantity Float}
    (center : mean.Has (dims.map fun n => [n])) (spread : variance.Has (dims.map fun n => [n, n])) :
    ∃ message, Distribution.gaussianLike mean variance = .ok message ∧
      Message.IsTyped message (gaussianType dims) := by
  cases dims with
  | none =>
      cases mean with
      | array tensor => cases center
      | scalar x =>
          cases variance with
          | array tensor => cases spread
          | scalar y => exact ⟨.gaussian x y, rfl, .gaussian x y⟩
  | some n =>
      cases mean with
      | scalar x => cases center
      | array vector =>
          cases variance with
          | scalar y => cases spread
          | array square =>
              obtain ⟨joint, made, same⟩ := MvGaussian.ofTensors_dims center spread
              refine ⟨.mvGaussian joint, ?_, ?_⟩
              · rw [Distribution.gaussianLike, Quantity.toTensor, made]
                rfl
              · rw [gaussianType, ← same]
                exact .mvGaussian joint

end SumProduct
