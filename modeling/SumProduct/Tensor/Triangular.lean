/-
Triangular and diagonal matrices and their inverses.

Matrices are lists of columns.  A column may stop at the diagonal; entries that are not listed are
zero.  Sums of products are formed with one rounding per term.
-/

import SumProduct.Tensor.Basic

set_option autoImplicit false

namespace SumProduct.Tensor

variable {α : Type} [Scalar α]

def entry (column : List α) (row : Nat) : α := (column[row]?).getD 0

def overlap (left right : List α) : α :=
  (left.zip right).foldl (fun sum term => Scalar.multiplyAdd term.1 term.2 sum) 0

def combined (columns : List (List α)) (coefficients : List α) (row : Nat) : α :=
  overlap (columns.map fun column => entry column row) coefficients

def rowsOf (columns : List (List α)) : List (List α) :=
  (List.range columns.length).map fun i => columns.map fun column => entry column i

def diagonal (entries : List α) : List (List α) :=
  entries.zipIdx.map fun kept =>
    (List.range entries.length).map fun i => if i = kept.2 then kept.1 else 0

def isUpper (columns : List (List α)) : Bool :=
  columns.zipIdx.all fun column => (column.1.drop (column.2 + 1)).all Scalar.isZero

def upperPart (columns : List (List α)) : List (List α) :=
  columns.zipIdx.map fun column => column.1.take (column.2 + 1)

/-- Entries times a factor.  A factor of zero leaves nothing, not even of an infinite entry. -/
def scaled (factor : α) (entries : List α) : List α :=
  entries.map fun item => if Scalar.isZero factor then 0 else factor * item

/-- The next column of the inverse of an upper triangular matrix, behind the columns found. -/
def inverseColumn (found : List (List α)) (column : List α) : List α :=
  let factor := 1 / entry column found.length
  let sums := (List.range found.length).map fun i => combined (found.drop i) (column.drop i) i
  scaled (0 - factor) sums ++ [factor]

def invertUpper (columns : List (List α)) : List (List α) :=
  columns.foldl (fun found column => found ++ [inverseColumn found column]) []

/-- The inverse of an upper triangular matrix, which must not have a zero on its diagonal. -/
def invertTriangular (columns : List (List α)) : Except Fault (List (List α)) :=
  let pivots := columns.zipIdx.map fun column => entry column.1 column.2
  if pivots.any Scalar.isZero then .error (.lapsed .singularMatrix)
  else if isUpper (rowsOf columns) then .ok (diagonal (pivots.map (1 / ·)))
  else .ok (invertUpper columns)

/-- A square matrix turned by half a turn, which makes an upper triangular matrix a lower one. -/
def turned (columns : List (List α)) : List (List α) :=
  (columns.map fun column => ((List.range columns.length).map (entry column)).reverse).reverse

/-- The position of the largest entry, the first one among equals. -/
def largestPosition (entries : List α) : Nat :=
  let better (best : Nat × α) (candidate : α × Nat) : Nat × α :=
    let size := Scalar.magnitude candidate.1
    if Scalar.atMost size best.2 then best else (candidate.2, size)
  (entries.zipIdx.foldl better (0, Scalar.magnitude (entries.headD 0))).1

end SumProduct.Tensor
