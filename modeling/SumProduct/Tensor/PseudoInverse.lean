/-
The pseudo-inverse of a matrix.

Columns are rotated in pairs until they are orthogonal; their lengths are then the singular values.
Each column carries along the combination of the matrix columns that produces it, which gives the
two singular vectors of the value.  The pseudo-inverse is a sum over the values that are not
negligible against the largest one.
-/

import SumProduct.Tensor.Inverse

set_option autoImplicit false

namespace SumProduct.Tensor

/-- A column together with its coordinates in the columns of the matrix. -/
structure RotatedColumn where
  image : List Float
  source : List Float
  deriving Inhabited

def dot (left right : List Float) : Float :=
  (List.zipWith (· * ·) left right).foldl (· + ·) 0.0

def mix (c d : Float) (left right : List Float) : List Float :=
  List.zipWith (fun x y => c * x + d * y) left right

/-- Makes two columns orthogonal by a rotation in their plane. -/
def rotate (left right : RotatedColumn) : RotatedColumn × RotatedColumn :=
  let alpha := dot left.image left.image
  let beta := dot right.image right.image
  let overlap := dot left.image right.image
  if overlap.abs ≤ 1e-17 * (alpha * beta).sqrt then (left, right)
  else
    let zeta := (beta - alpha) / (2.0 * overlap)
    let tangent := (if zeta < 0.0 then -1.0 else 1.0) / (zeta.abs + (1.0 + zeta * zeta).sqrt)
    let cosine := 1.0 / (1.0 + tangent * tangent).sqrt
    let sine := cosine * tangent
    (⟨mix cosine (-sine) left.image right.image, mix cosine (-sine) left.source right.source⟩,
     ⟨mix sine cosine left.image right.image, mix sine cosine left.source right.source⟩)

/-- One rotation for every pair of columns. -/
def sweep (columns : Array RotatedColumn) : Array RotatedColumn :=
  (List.range columns.size).foldl (fun columns i =>
    (List.range (columns.size - (i + 1))).foldl (fun columns offset =>
      let j := i + 1 + offset
      let (left, right) := rotate (columns.getD i default) (columns.getD j default)
      (columns.setIfInBounds i left).setIfInBounds j right) columns) columns

def sweeps : (count : Nat) → Array RotatedColumn → Array RotatedColumn
  | 0, columns => columns
  | count + 1, columns => sweeps count (sweep columns)

def columnsOf (rows cols : Nat) (matrix : Tensor Float) : Array RotatedColumn :=
  ((List.range cols).map fun j =>
    ⟨(List.range rows).map fun i => matrix.get (i * cols + j),
     (List.range cols).map fun i => if i = j then 1.0 else 0.0⟩).toArray

def unitSpacing : Float := 2.220446049250313e-16

/-- The binary exponent of the largest entry, zero for a matrix of zeros. -/
def largestExponent (matrix : Tensor Float) : Int :=
  let largest := matrix.entries.foldl (fun best entry => if entry.abs ≤ best then best else entry.abs) 0.0
  match Number.decode largest with
  | .finite _ mantissa exponent => if mantissa = 0 then 0 else exponent + mantissa.log2
  | _ => 0

/-- Every entry times a power of two. -/
def scaleBinary (exponent : Int) (matrix : Tensor Float) : Tensor Float :=
  ofFn matrix.shape fun i => (matrix.get i).scaleB exponent

/-- A singular value with a unit vector on each side. -/
structure SingularValue where
  value : Float
  left : List Float
  right : List Float

def SingularValue.swap (singular : SingularValue) : SingularValue :=
  ⟨singular.value, singular.right, singular.left⟩

/-- The singular values of a matrix with at least as many rows as columns, times a power of two. -/
def singularValuesTall (rows cols : Nat) (exponent : Int) (matrix : Tensor Float) :
    List SingularValue :=
  (sweeps 40 (columnsOf rows cols matrix)).toList.map fun column =>
    let length := (dot column.image column.image).sqrt
    ⟨length.scaleB exponent, column.image.map (· / length), column.source⟩

/-- The singular values of a matrix.  Entries are brought near one by a power of two before they
are multiplied, so that no square is lost. -/
def singularValues (rows cols : Nat) (matrix : Tensor Float) : List SingularValue :=
  let exponent := matrix.largestExponent
  let scaled := matrix.scaleBinary (-exponent)
  if cols ≤ rows then singularValuesTall rows cols exponent scaled
  else (singularValuesTall cols rows exponent (transpose rows cols scaled)).map SingularValue.swap

/-- The singular values that count: those above the rounding error of the largest one. -/
def significant (rows cols : Nat) (singulars : List SingularValue) : List SingularValue :=
  let largest := singulars.foldl (fun best singular =>
    if singular.value ≤ best then best else singular.value) 0.0
  let cutoff := largest * ((max rows cols).toFloat * unitSpacing)
  singulars.filter fun singular => cutoff < singular.value

/-- The pseudo-inverse; a matrix that is not finite is refused. -/
def pseudoInverse (matrix : Tensor Float) : Except Fault (Tensor Float) :=
  match matrix.shape with
  | [rows, cols] =>
    if !matrix.entries.all Number.isFinite then .error (.refused .matrixNotFinite)
    else
      let kept := significant rows cols (singularValues rows cols matrix)
      .ok <| ofFn [cols, rows] fun index =>
        kept.foldl (fun sum singular =>
          sum + entry singular.left (index % rows) / singular.value
            * entry singular.right (index / rows)) 0.0
  | _ => .error (.lapsed .badValue)

end SumProduct.Tensor
