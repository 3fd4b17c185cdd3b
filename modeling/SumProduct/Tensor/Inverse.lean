/-
The inverse of a square matrix, or of every matrix in a stack.

The form of a matrix decides how it is inverted.  A diagonal or triangular matrix is inverted as
such, so its zeros stay, and a symmetric matrix in a way that keeps the symmetry.  Every other matrix
is factored column by column into two triangular ones, with rows exchanged so that each pivot is the
largest entry left in its column.  A pivot that is zero makes the matrix singular.  Factors are
inverted only if the entries of each row have a finite sum; the factors of a larger matrix stand for
its inverse.
-/

import SumProduct.Tensor.Symmetric

set_option autoImplicit false

namespace SumProduct.Tensor

variable {α : Type} [Scalar α]

/-! ### Factors of matrices without symmetry -/

def exchange {β : Type} (i j : Nat) (items : List β) : List β :=
  match items[i]?, items[j]? with
  | some first, some second => (items.set i second).set j first
  | _, _ => items

/-- The first `count` entries of a column, each freed of the earlier ones. -/
def reduceAbove (columns : List (List α)) (column : List α) : (count : Nat) → List α
  | 0 => []
  | i + 1 =>
    let above := reduceAbove columns column i
    above ++ [entry column i - combined columns above i]

/-- Both triangular factors in one list of columns: one on and above the diagonal, the other, with
ones on its diagonal, below it.  `order` tells which row of the matrix stands where. -/
structure Factors (α : Type) where
  columns : List (List α)
  order : List Nat

/-- Takes one more column into the factors.  What stands below a pivot is divided by it, unless the
pivot is too small to be divided by. -/
def Factors.extend (factors : Factors α) (column : List α) : Except Fault (Factors α) :=
  let place := factors.columns.length
  let arranged := factors.order.map (entry column)
  let above := reduceAbove factors.columns arranged place
  let below := (List.range (arranged.length - place)).map fun offset =>
    entry arranged (place + offset) - combined factors.columns above (place + offset)
  let chosen := largestPosition below
  let pivot := entry below chosen
  if Scalar.isZero pivot then .error (.lapsed .singularMatrix)
  else
    let exchanged := exchange 0 chosen below
    let shares := if Scalar.isTiny pivot then exchanged.drop 1
      else scaled (1 / pivot) (exchanged.drop 1)
    .ok ⟨factors.columns.map (exchange place (place + chosen)) ++ [above ++ pivot :: shares],
      exchange place (place + chosen) factors.order⟩

def factorise (columns : List (List α)) : Except Fault (Factors α) :=
  columns.foldlM Factors.extend ⟨[], List.range columns.length⟩

/-- The inverse of the factored matrix: the inverse of the upper factor, freed of the lower one from
the last column on, its columns in the order of the rows of the matrix. -/
def Factors.inverse (factors : Factors α) : List (List α) :=
  let size := factors.columns.length
  let freed := ((invertUpper (upperPart factors.columns)).zip factors.columns.zipIdx).foldr
    (fun (column, factor, place) later =>
      (List.range size).map (fun i =>
        entry column i - combined later (factor.drop (place + 1)) i) :: later) []
  (List.range size).map fun row => (freed[factors.order.idxOf row]?).getD []

/-- No row has entries whose absolute values add up to infinity. -/
def hasFiniteRows (columns : List (List α)) : Bool :=
  (rowsOf columns).all fun row =>
    Scalar.isFinite (row.foldl (fun sum item => sum + Scalar.magnitude item) 0)

/-! ### All matrices -/

def invertColumns (columns : List (List α)) : Except Fault (List (List α)) :=
  if isUpper columns then invertTriangular columns
  else if isUpper (rowsOf columns) then (invertTriangular (turned columns)).map turned
  else if isSymmetric columns then (Symmetric.inverse (upperPart columns)).map Symmetric.toColumns
  else do
    let factors ← factorise columns
    return if hasFiniteRows columns then factors.inverse else factors.columns

def columnsAt (size place : Nat) (stack : Tensor α) : List (List α) :=
  (List.range size).map fun j =>
    (List.range size).map fun i => stack.get (place * (size * size) + i * size + j)

/-- The inverse of a matrix, or of every matrix in a stack.  Matrices that are not square or not
finite are refused. -/
def inverse (stack : Tensor α) : Except Fault (Tensor α) :=
  match stack.shape.reverse with
  | cols :: rows :: outer =>
    if rows ≠ cols then .error (.lapsed .badValue)
    else if !stack.entries.all Scalar.isFinite then .error (.refused .matrixNotFinite)
    else do
      let inverses ← (List.range (Shape.volume outer)).mapM fun place =>
        invertColumns (columnsAt rows place stack)
      return ofFn stack.shape fun i =>
        entry (((inverses[i / (rows * rows)]?).getD [])[i % rows]?.getD []) (i % (rows * rows) / rows)
  | _ => .error (.lapsed .badValue)

end SumProduct.Tensor
