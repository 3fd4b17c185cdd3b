/-
Symmetric matrices and their inverses.

A symmetric matrix is kept by its columns down to the diagonal.  If it is the product of the
transpose of a triangular matrix and that matrix, it is inverted through this factor.  Otherwise rows
and columns are eliminated from the last one on.  The pivot is a diagonal entry that is not small
compared with its row, or else a block of two rows and columns; it is moved to the end, the rest is
freed of it, and the inverse of the rest is extended by it again.
-/

import SumProduct.Tensor.Triangular

set_option autoImplicit false

namespace SumProduct.Tensor

variable {α : Type} [Scalar α]

def isSymmetric (columns : List (List α)) : Bool :=
  (columns.zip (rowsOf columns)).all fun pair =>
    (pair.1.zip pair.2).all fun entries => Scalar.same entries.1 entries.2

/-- The columns of a symmetric matrix, each down to the diagonal. -/
abbrev Symmetric (α : Type) := List (List α)

namespace Symmetric

/-- The entry at a row and a column, in either order. -/
def get (matrix : Symmetric α) (i j : Nat) : α := entry ((matrix[max i j]?).getD []) (min i j)

def ofFn (size : Nat) (value : Nat → Nat → α) : Symmetric α :=
  (List.range size).map fun j => (List.range (j + 1)).map fun i => value i j

def toColumns (matrix : Symmetric α) : List (List α) :=
  (List.range matrix.length).map fun j => (List.range matrix.length).map fun i => matrix.get i j

/-- Exchanges two rows and the two columns at the same places. -/
def exchange (matrix : Symmetric α) (first second : Nat) : Symmetric α :=
  let moved (i : Nat) : Nat := if i = first then second else if i = second then first else i
  ofFn matrix.length fun i j => matrix.get (moved i) (moved j)

/-! ### Triangular factors -/

/-- A number less a sum of products.  Products are taken four at a time; one that is left over is
subtracted without rounding it first. -/
def lessProducts (value : α) (left right : List α) : α :=
  let pairs := left.zip right
  let sum (terms : List (α × α)) : α :=
    terms.foldl (fun sum term => Scalar.multiplyAdd term.1 term.2 sum) 0
  let whole := pairs.length - pairs.length % 4
  let reduced := if whole = 0 then value else value - sum (pairs.take whole)
  match pairs.drop whole with
  | [] => reduced
  | [term] => Scalar.multiplyAdd (0 - term.1) term.2 reduced
  | rest => reduced - sum rest

/-- The entries of a factor column above its diagonal, `count` of them. -/
def rootAbove (factor : List (List α)) (column : List α) : (count : Nat) → List α
  | 0 => []
  | i + 1 =>
    let above := rootAbove factor column i
    let earlier := (factor[i]?).getD []
    above ++ scaled (1 / entry earlier i) [lessProducts (entry column i) earlier above]

/-- The upper triangular matrix whose transpose times itself is the given one. -/
def rootFactor? (matrix : Symmetric α) : Option (List (List α)) :=
  matrix.foldlM (fun factor column => do
    let above := rootAbove factor column factor.length
    let root ← Scalar.squareRoot? (entry column factor.length - overlap above above)
    return factor ++ [above ++ [root]]) []

def timesTranspose (columns : List (List α)) : Symmetric α :=
  ofFn columns.length fun i j =>
    let row (k : Nat) : List α := (columns.drop j).map fun column => entry column k
    (row i).headD 0 * (row j).headD 0 + overlap ((row i).drop 1) ((row j).drop 1)

/-! ### Pivots -/

/-- The diagonal entry to divide by, or the row that goes with the last one into a block. -/
inductive Pivot where
  | single (row : Nat)
  | pair (row : Nat)
  deriving Repr

/-- The pivot of a matrix with the given last row; none if the last column is zero. -/
def pivot? (matrix : Symmetric α) (last : Nat) : Option Pivot :=
  let size (i j : Nat) : α := Scalar.magnitude (matrix.get i j)
  let above := (List.range last).map fun i => matrix.get i last
  let row := largestPosition above
  let largest := Scalar.magnitude (entry above row)
  let corner := size last last
  if (Scalar.isZero corner && Scalar.isZero largest) || !Scalar.same corner corner then none
  else if Scalar.atMost (Scalar.pivotShare * largest) corner then some (.single last)
  else
    let others := ((List.range (last + 1)).filter (· ≠ row)).map (size row)
    let widest := entry others (largestPosition others)
    if Scalar.atMost (Scalar.pivotShare * largest * (largest / widest)) corner then
      some (.single last)
    else if Scalar.atMost (Scalar.pivotShare * widest) (size row row) then some (.single row)
    else some (.pair row)

def negatedProduct (matrix : Symmetric α) (vector : List α) : List α :=
  (matrix.zip vector).foldl (fun sums (column, factor) =>
    let above := column.take sums.length
    (sums.zip above).map (fun (sum, item) => Scalar.multiplyAdd (0 - factor) item sum)
      ++ [Scalar.multiplyAdd (0 - factor) (entry column sums.length) (0 - overlap above vector)]) []

/-! ### Elimination of one row -/

def multipliers (matrix : Symmetric α) (last : Nat) : List α :=
  scaled (1 / matrix.get last last) ((List.range last).map fun i => matrix.get i last)

/-- What is left of a matrix without its last row and column. -/
def reduce (matrix : Symmetric α) (last : Nat) : Symmetric α :=
  let share := 1 / matrix.get last last
  ofFn last fun i j =>
    if Scalar.isZero share || Scalar.isZero (matrix.get j last) then matrix.get i j
    else Scalar.multiplyAdd ((0 - share) * matrix.get j last) (matrix.get i last) (matrix.get i j)

/-- The inverse of a matrix from the inverse of what is left without its last row. -/
def extend (matrix : Symmetric α) (last : Nat) (inner : Symmetric α) : Symmetric α :=
  let factors := matrix.multipliers last
  let column := inner.negatedProduct factors
  inner ++ [column ++ [1 / matrix.get last last - overlap factors column]]

/-! ### Elimination of two rows -/

def pairMultipliers (matrix : Symmetric α) (last : Nat) : List α × List α :=
  let before := last - 1
  let side := matrix.get before last
  let upper := matrix.get before before / side
  let lower := matrix.get last last / side
  let share := 1 / (lower * upper - 1) / side
  let rows := List.range before
  (rows.map fun j => share * (lower * matrix.get j before - matrix.get j last),
   rows.map fun j => share * (upper * matrix.get j last - matrix.get j before))

/-- What is left of a matrix without its last two rows and columns. -/
def reducePair (matrix : Symmetric α) (last : Nat) : Symmetric α :=
  let (first, second) := matrix.pairMultipliers last
  ofFn (last - 1) fun i j =>
    matrix.get i j - matrix.get i last * entry second j - matrix.get i (last - 1) * entry first j

/-- The inverse of a matrix from the inverse of what is left without its last two rows. -/
def extendPair (matrix : Symmetric α) (last : Nat) (inner : Symmetric α) : Symmetric α :=
  let before := last - 1
  let scale := Scalar.magnitude (matrix.get before last)
  let upper := matrix.get before before / scale
  let lower := matrix.get last last / scale
  let divisor := scale * (upper * lower - 1)
  let side := (0 - matrix.get before last / scale) / divisor
  let (first, second) := matrix.pairMultipliers last
  let firstColumn := inner.negatedProduct first
  let secondColumn := inner.negatedProduct second
  inner ++ [firstColumn ++ [lower / divisor - overlap first firstColumn],
    secondColumn ++ [side - overlap firstColumn second, upper / divisor - overlap second secondColumn]]

/-! ### Inverses -/

/-- The inverse by elimination of a matrix with at most `size` rows. -/
def eliminate : (size : Nat) → Symmetric α → Except Fault (Symmetric α)
  | _, [] => .ok []
  | 0, _ => .error (.lapsed .singularMatrix)
  | size + 1, matrix =>
    let last := matrix.length - 1
    match matrix.pivot? last with
    | none => .error (.lapsed .singularMatrix)
    | some (.single row) => do
      let arranged := matrix.exchange row last
      let inner ← eliminate size (arranged.reduce last)
      return (arranged.extend last inner).exchange row last
    | some (.pair row) => do
      let arranged := matrix.exchange row (last - 1)
      let inner ← eliminate size (arranged.reducePair last)
      return (arranged.extendPair last inner).exchange row (last - 1)

def inverse (matrix : Symmetric α) : Except Fault (Symmetric α) :=
  match matrix.rootFactor? with
  | some factor => .ok (timesTranspose (invertUpper factor))
  | none => matrix.eliminate matrix.length

end Symmetric

end SumProduct.Tensor
