/-
A quantity is a number or an array of numbers: the value of a point mass, a mean or a variance.

Numbers and arrays mix freely in elementwise arithmetic.  A quotient of two numbers is refused when
the divisor is zero; as soon as an array is involved the quotient is formed entry by entry.
-/

import SumProduct.Tensor.Basic

set_option autoImplicit false

namespace SumProduct

inductive Quantity (α : Type) where
  | scalar (value : α)
  | array (tensor : Tensor α)

namespace Quantity

variable {α : Type}

def shape : Quantity α → Shape
  | scalar _ => []
  | array tensor => tensor.shape

def rank (quantity : Quantity α) : Nat := quantity.shape.length

variable [Scalar α]

def combine (f : α → α → α) : Quantity α → Quantity α → Except Fault (Quantity α)
  | scalar x, scalar y => .ok (scalar (f x y))
  | scalar x, array right => .ok (array (right.map (f x)))
  | array left, scalar y => .ok (array (left.map (f · y)))
  | array left, array right => (left.zipWith f right).map array

def add : Quantity α → Quantity α → Except Fault (Quantity α) := combine (· + ·)

def sub : Quantity α → Quantity α → Except Fault (Quantity α) := combine (· - ·)

def mul : Quantity α → Quantity α → Except Fault (Quantity α) := combine (· * ·)

def div : Quantity α → Quantity α → Except Fault (Quantity α)
  | scalar x, scalar y => (Scalar.divide x y).map scalar
  | left, right => combine (· / ·) left right

/-- Entrywise agreement under a relation; numbers and arrays never agree. -/
def allPairs (relation : α → α → Bool) : Quantity α → Quantity α → Bool
  | scalar x, scalar y => relation x y
  | array left, array right => left.allPairs relation right
  | _, _ => false

/-- A quantity that has to be a single number.  An array is none, whatever its size, unless it has
no axes. -/
def single : Quantity α → Except Fault α
  | scalar x => .ok x
  | array tensor => if tensor.shape.isEmpty then .ok (tensor.get 0) else .error (.lapsed .wrongType)

/-- A quantity as an array; a number is an array without axes. -/
def toTensor : Quantity α → Tensor α
  | scalar x => Tensor.ofFn [] fun _ => x
  | array tensor => tensor

/-- The entries in row-major order. -/
def entries (quantity : Quantity α) : List α := quantity.toTensor.entries.toList

/-- A quantity repeated along the axes of another one. -/
def spread (quantity other : Quantity α) : Except Fault (Quantity α) :=
  combine (fun item _ => item) quantity other

/-- Entrywise closeness, measured against the second of two quantities of one shape.  Tolerances may
be arrays; quantities and tolerances are repeated along the axes that they do not have. -/
def isClose (relative absolute left right : Quantity α) : Except Fault Bool := do
  let bound ← absolute.add (← combine (fun share y => share * Scalar.magnitude y) relative right)
  let first ← left.spread bound
  let second ← right.spread bound
  return (first.entries.zip (second.entries.zip bound.entries)).all fun (x, y, bound) =>
    (Scalar.atMost (Scalar.magnitude (x - y)) bound && Scalar.isFinite y) || Scalar.same x y

/-- For single numbers this is closeness of scalars. -/
theorem isClose_scalar (relative absolute x y : α) :
    isClose (scalar relative) (scalar absolute) (scalar x) (scalar y)
      = .ok (Scalar.isClose relative absolute x y) := by
  simp [isClose, combine, add, spread, entries, toTensor, Scalar.isClose, Tensor.ofFn,
    Shape.volume, bind, Except.bind, pure, Except.pure]

end Quantity

end SumProduct
