/-
Arrays of numbers with any number of axes.

A tensor keeps its shape and its entries in row-major order; their number is the volume of the
shape.  Elementwise operations broadcast: shapes are aligned at their last axis, and an axis of
extent one is repeated.
-/

import SumProduct.Number.Scalar

set_option autoImplicit false

namespace SumProduct

def Shape.volume (shape : Shape) : Nat :=
  shape.foldr (· * ·) 1

structure Tensor (α : Type) where
  shape : Shape
  entries : Array α
  complete : entries.size = shape.volume

namespace Shape

/-- The position along each axis of the entry with the given row-major index. -/
def position : (shape : Shape) → (index : Nat) → List Nat
  | [], _ => []
  | _ :: rest, index => index / volume rest :: position rest (index % volume rest)

/-- The row-major index of a position. -/
def index : (shape : Shape) → (position : List Nat) → Nat
  | _ :: rest, place :: places => place * volume rest + index rest places
  | _, _ => 0

def commonExtent (left right : Nat) : Option Nat :=
  if left = right then some left
  else if left = 1 then some right
  else if right = 1 then some left
  else none

/-- Common shape of two shapes that are listed from the last axis on. -/
def alignReversed : Shape → Shape → Option Shape
  | [], right => some right
  | left, [] => some left
  | left :: lefts, right :: rights => do
    let extent ← commonExtent left right
    let rest ← alignReversed lefts rights
    return extent :: rest

def align (left right : Shape) : Option Shape :=
  (alignReversed left.reverse right.reverse).map List.reverse

/-- The position in an operand that feeds a position of the result. -/
def feeding (operand : Shape) (position : List Nat) : List Nat :=
  List.zipWith (fun extent place => if extent = 1 then 0 else place) operand
    (position.drop (position.length - operand.length))

end Shape

namespace Tensor

variable {α : Type}

def ofFn (shape : Shape) (entry : Nat → α) : Tensor α :=
  ⟨shape, Array.ofFn (fun i : Fin shape.volume => entry i.val), Array.size_ofFn⟩

def rank (tensor : Tensor α) : Nat := tensor.shape.length

def get [Zero α] (tensor : Tensor α) (index : Nat) : α :=
  tensor.entries.getD index 0

def map {β : Type} (f : α → β) (tensor : Tensor α) : Tensor β :=
  ⟨tensor.shape, tensor.entries.map f, by simp [tensor.complete]⟩

/-- Elementwise combination; shapes that cannot be aligned are refused. -/
def zipWith [Zero α] (f : α → α → α) (left right : Tensor α) : Except Fault (Tensor α) :=
  match left.shape.align right.shape with
  | none => .error (.lapsed .badValue)
  | some shape => .ok <| ofFn shape fun i =>
      let position := shape.position i
      f (left.get (left.shape.index (left.shape.feeding position)))
        (right.get (right.shape.index (right.shape.feeding position)))

def zeros [Zero α] (shape : Shape) : Tensor α := ofFn shape fun _ => 0

/-- The vector of all entries in row-major order. -/
def flatten (tensor : Tensor α) : Tensor α :=
  ⟨[tensor.shape.volume], tensor.entries, by simp [tensor.complete, Shape.volume]⟩

def row [Zero α] (tensor : Tensor α) (place : Nat) : Tensor α :=
  ofFn tensor.shape.tail fun i => tensor.get (place * Shape.volume tensor.shape.tail + i)

/-- Parts of shape `part`, taken from the given places and put along the axes `outer`. -/
def gather [Zero α] (outer part : Shape) (places : List Nat) (tensor : Tensor α) : Tensor α :=
  ofFn (outer ++ part) fun i =>
    tensor.get ((places[i / part.volume]?).getD 0 * part.volume + i % part.volume)

/-- All entries satisfy a relation in pairs; shapes have to be equal. -/
def allPairs [Zero α] (relation : α → α → Bool) (left right : Tensor α) : Bool :=
  left.shape == right.shape &&
    (List.range left.entries.size).all fun i => relation (left.get i) (right.get i)

/-- The transpose of a matrix with the given extents. -/
def transpose [Zero α] (rows cols : Nat) (matrix : Tensor α) : Tensor α :=
  ofFn [cols, rows] fun i => matrix.get (i % rows * cols + i / rows)

def sumOfProducts [Scalar α] (count : Nat) (left right : Nat → α) : α :=
  (List.range count).foldl (fun sum k => sum + left k * right k) 0

/-- Matrices, of which there may be a stack, times a vector. -/
def applyVector [Scalar α] (outer : Shape) (rows cols : Nat) (matrices vector : Tensor α) :
    Tensor α :=
  ofFn (outer ++ [rows]) fun i =>
    sumOfProducts cols (fun k => matrices.get (i * cols + k)) fun k => vector.get k

/-- The place in a stack that feeds a place of the aligned stack. -/
def stackPlace (operand aligned : Shape) (place : Nat) : Nat :=
  operand.index (operand.feeding (aligned.position place))

/-- Matrices times matrices; the axes in front of the last two are aligned. -/
def applyStack [Scalar α] (leftOuter rightOuter outer : Shape) (rows cols width : Nat)
    (left right : Tensor α) : Tensor α :=
  ofFn (outer ++ [rows, width]) fun i =>
    let place := i / (rows * width)
    let row := stackPlace leftOuter outer place * rows + i % (rows * width) / width
    let first := stackPlace rightOuter outer place * (cols * width) + i % width
    sumOfProducts cols (fun k => left.get (row * cols + k)) fun k => right.get (first + k * width)

/-- The product of a matrix with a vector or a matrix.  Either operand may be a stack. -/
def product [Scalar α] (left right : Tensor α) : Except Fault (Tensor α) :=
  match left.shape.reverse, right.shape.reverse with
  | cols :: rows :: outer, [length] =>
    if cols = length then .ok (applyVector outer.reverse rows cols left right)
    else .error (.lapsed .badValue)
  | cols :: rows :: leftOuter, width :: length :: rightOuter =>
    if cols ≠ length then .error (.lapsed .badValue)
    else match Shape.align leftOuter.reverse rightOuter.reverse with
      | some outer =>
        .ok (applyStack leftOuter.reverse rightOuter.reverse outer rows cols width left right)
      | none => .error (.lapsed .badValue)
  | _, _ => .error (.lapsed .badValue)

end Tensor

end SumProduct
