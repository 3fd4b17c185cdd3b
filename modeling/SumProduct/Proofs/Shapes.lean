/-
Shapes of arrays, and computations that fail for numeric reasons only.

A computation is safe for a property if its result has the property, or if it fails because of the
numbers it met: a zero divisor, a singular matrix, a matrix that is not finite, or two points that
disagree.  Operations on arrays whose shapes fit together are safe, and the shape of the result is
known beforehand.  These laws are all that later modules use of the operations; which numbers a result
has, and how they are found, does not matter to the types of messages.
-/

import SumProduct.Distribution.Product
import SumProduct.Proofs.Partial
import SumProduct.Tensor.PseudoInverse

set_option autoImplicit false

namespace SumProduct

/-- Failures that depend on numbers and not on shapes. -/
inductive Fault.IsNumeric : Fault → Prop
  | zeroDivision : IsNumeric (.lapsed .zeroDivision)
  | singularMatrix : IsNumeric (.lapsed .singularMatrix)
  | matrixNotFinite : IsNumeric (.refused .matrixNotFinite)
  | disagreeingPoints (places : Option (String × String)) :
      IsNumeric (.refused (.disagreeingPoints places))

/-- The result has the property, or the failure is numeric. -/
def Safely {α : Type} (holds : α → Prop) : Except Fault α → Prop
  | .ok value => holds value
  | .error fault => fault.IsNumeric

namespace Safely

variable {α β : Type} {holds : α → Prop} {result : Except Fault α}

theorem of_ok {value : α} (same : result = .ok value) (held : holds value) : Safely holds result := by
  rw [same]
  exact held

theorem held {value : α} (safe : Safely holds result) (made : result = .ok value) : holds value := by
  rw [made] at safe
  exact safe

theorem bind {next : α → Except Fault β} {other : β → Prop} (safe : Safely holds result)
    (later : ∀ value, holds value → Safely other (next value)) : Safely other (result >>= next) := by
  cases result with
  | error fault => exact safe
  | ok value => exact later value safe

theorem map {f : α → β} {other : β → Prop} (safe : Safely holds result)
    (later : ∀ value, holds value → other (f value)) : Safely other (result.map f) := by
  cases result with
  | error fault => exact safe
  | ok value => exact later value safe

theorem mapM {f : α → Except Fault β} {items : List α}
    (each : ∀ item ∈ items, Safely (fun _ => True) (f item)) :
    Safely (fun _ => True) (items.mapM f) := by
  cases computed : items.mapM f with
  | ok results => trivial
  | error fault =>
      obtain ⟨item, member, failed⟩ := Partial.mapM_eq_error computed
      have safe := each item member
      rw [failed] at safe
      exact safe

theorem foldlM {f : β → α → Except Fault β} {items : List α} (start : β)
    (each : ∀ state item, Safely (fun _ => True) (f state item)) :
    Safely (fun _ => True) (items.foldlM f start) := by
  induction items generalizing start with
  | nil => trivial
  | cons item rest ih =>
      rw [List.foldlM_cons]
      exact (each start item).bind fun state _ => ih state

end Safely

theorem Scalar.divide_safe {α : Type} [Scalar α] (x y : α) :
    Safely (fun _ => True) (Scalar.divide x y) := by
  unfold Scalar.divide
  split
  · exact .zeroDivision
  · trivial

/-! ### Elementwise operations -/

theorem Shape.alignReversed_self (shape : Shape) : Shape.alignReversed shape shape = some shape := by
  induction shape with
  | nil => rfl
  | cons extent rest ih =>
      rw [Shape.alignReversed, Shape.commonExtent, if_pos rfl, ih]
      rfl

theorem Shape.align_self (shape : Shape) : shape.align shape = some shape := by
  rw [Shape.align, Shape.alignReversed_self, Option.map_some, List.reverse_reverse]

namespace Tensor

variable {α : Type} [Scalar α]

theorem zipWith_shape (f : α → α → α) {left right : Tensor α} {shape : Shape}
    (first : left.shape = shape) (second : right.shape = shape) :
    ∃ result, Tensor.zipWith f left right = .ok result ∧ result.shape = shape := by
  rw [Tensor.zipWith, first, second, Shape.align_self]
  exact ⟨_, rfl, rfl⟩

/-! ### Matrix operations -/

theorem product_vector {matrix vector : Tensor α} {rows cols : Nat}
    (first : matrix.shape = [rows, cols]) (second : vector.shape = [cols]) :
    ∃ result, matrix.product vector = .ok result ∧ result.shape = [rows] := by
  unfold Tensor.product
  rw [first, second]
  simp only [List.reverse_cons, List.reverse_nil, List.nil_append, List.cons_append, if_true]
  exact ⟨_, rfl, rfl⟩

theorem product_matrix {left right : Tensor α} {rows cols width : Nat}
    (first : left.shape = [rows, cols]) (second : right.shape = [cols, width]) :
    ∃ result, left.product right = .ok result ∧ result.shape = [rows, width] := by
  unfold Tensor.product
  rw [first, second]
  simp only [List.reverse_cons, List.reverse_nil, List.nil_append, List.cons_append, ne_eq,
    not_true_eq_false, if_false]
  exact ⟨_, rfl, rfl⟩

theorem invertTriangular_safe (columns : List (List α)) :
    Safely (fun _ => True) (invertTriangular columns) := by
  unfold invertTriangular
  simp only
  split
  · exact .singularMatrix
  · split
    · trivial
    · trivial

theorem Symmetric.eliminate_safe (size : Nat) (matrix : Symmetric α) :
    Safely (fun _ => True) (Symmetric.eliminate size matrix) := by
  induction size generalizing matrix with
  | zero =>
      cases matrix with
      | nil => trivial
      | cons column rest => exact .singularMatrix
  | succ size ih =>
      cases matrix with
      | nil => trivial
      | cons column rest =>
          unfold Symmetric.eliminate
          simp only
          split
          · exact .singularMatrix
          · exact (ih _).bind fun _ _ => trivial
          · exact (ih _).bind fun _ _ => trivial

theorem Symmetric.inverse_safe (matrix : Symmetric α) :
    Safely (fun _ => True) (Symmetric.inverse matrix) := by
  unfold Symmetric.inverse
  split
  · trivial
  · exact Symmetric.eliminate_safe _ matrix

theorem Factors.extend_safe (factors : Factors α) (column : List α) :
    Safely (fun _ => True) (factors.extend column) := by
  unfold Factors.extend
  simp only
  split
  · exact .singularMatrix
  · trivial

theorem invertColumns_safe (columns : List (List α)) :
    Safely (fun _ => True) (invertColumns columns) := by
  unfold invertColumns
  split
  · exact invertTriangular_safe columns
  · split
    · exact (invertTriangular_safe _).map fun _ _ => trivial
    · split
      · exact (Symmetric.inverse_safe _).map fun _ _ => trivial
      · exact (Safely.foldlM _ Factors.extend_safe).bind fun _ _ => trivial

/-- The inverse of a square matrix is one of the same shape. -/
theorem inverse_safe {matrix : Tensor α} {size : Nat} (square : matrix.shape = [size, size]) :
    Safely (fun result => result.shape = [size, size]) matrix.inverse := by
  unfold Tensor.inverse
  rw [square]
  simp only [List.reverse_cons, List.reverse_nil, List.nil_append, List.cons_append, ne_eq,
    not_true_eq_false, if_false]
  split
  · exact .matrixNotFinite
  · refine (Safely.mapM fun place _ => invertColumns_safe _).bind fun inverses _ => ?_
    rfl

/-- The pseudo-inverse of a matrix has its extents exchanged. -/
theorem pseudoInverse_safe {matrix : Tensor Float} {rows cols : Nat}
    (shaped : matrix.shape = [rows, cols]) :
    Safely (fun result => result.shape = [cols, rows]) matrix.pseudoInverse := by
  unfold Tensor.pseudoInverse
  split
  · rename_i foundRows foundCols found
    rw [shaped] at found
    cases found
    split
    · exact .matrixNotFinite
    · rfl
  · rename_i other
    exact absurd shaped (other rows cols)

/-- The laws of operations on arrays by which messages keep their types: what a result looks like is
known from what goes in, and a number at most makes an inverse fail. -/
structure ShapeLaws {α : Type} (zipWith : (α → α → α) → Tensor α → Tensor α → Except Fault (Tensor α))
    (transpose : Nat → Nat → Tensor α → Tensor α)
    (product : Tensor α → Tensor α → Except Fault (Tensor α))
    (inverse : Tensor α → Except Fault (Tensor α))
    (pseudoInverse : Tensor Float → Except Fault (Tensor Float)) : Prop where
  zipWith : ∀ (f : α → α → α) {left right : Tensor α} {shape : Shape}, left.shape = shape →
    right.shape = shape → ∃ result, zipWith f left right = .ok result ∧ result.shape = shape
  transpose : ∀ (rows cols : Nat) (matrix : Tensor α), (transpose rows cols matrix).shape = [cols, rows]
  vector : ∀ {matrix vector : Tensor α} {rows cols : Nat}, matrix.shape = [rows, cols] →
    vector.shape = [cols] → ∃ result, product matrix vector = .ok result ∧ result.shape = [rows]
  matrix : ∀ {left right : Tensor α} {rows cols width : Nat}, left.shape = [rows, cols] →
    right.shape = [cols, width] → ∃ result, product left right = .ok result ∧ result.shape = [rows, width]
  inverse : ∀ {matrix : Tensor α} {size : Nat}, matrix.shape = [size, size] →
    Safely (fun result => result.shape = [size, size]) (inverse matrix)
  pseudoInverse : ∀ {matrix : Tensor Float} {rows cols : Nat}, matrix.shape = [rows, cols] →
    Safely (fun result => result.shape = [cols, rows]) (pseudoInverse matrix)

theorem shapeLaws (α : Type) [Scalar α] :
    ShapeLaws (α := α) Tensor.zipWith Tensor.transpose Tensor.product Tensor.inverse
      Tensor.pseudoInverse where
  zipWith := zipWith_shape
  transpose _ _ _ := rfl
  vector := product_vector
  matrix := product_matrix
  inverse := inverse_safe
  pseudoInverse := pseudoInverse_safe

end Tensor

theorem MvGaussian.ofTensors_dims {α : Type} {mean covariance : Tensor α} {dims : Nat}
    (vector : mean.shape = [dims]) (square : covariance.shape = [dims, dims]) :
    ∃ joint, MvGaussian.ofTensors mean covariance = .ok joint ∧ joint.dims = dims := by
  have volume : mean.shape.volume = dims := by
    rw [vector]
    exact Nat.mul_one dims
  have fits : covariance.shape = [mean.shape.volume, mean.shape.volume] := by
    rw [square, volume]
  refine ⟨⟨mean.shape.volume, mean.flatten, covariance, rfl, fits⟩, ?_, volume⟩
  rw [MvGaussian.ofTensors, dif_pos fits]

end SumProduct
