/-
Values as they come from outside: data buffers, constants of a model, marginals supplied by a
caller.

A value may already be a message.  Otherwise it stands for a point mass, provided that it can be
read as a number or as a rectangular array of numbers.  `toReal` reads a single number, `toTensor`
an array, `toMessage` either of them.
-/

import SumProduct.Distribution.Product
import SumProduct.Number.Numeral

set_option autoImplicit false

namespace SumProduct

/-- Messages are distributions over doubles. -/
abbrev Message := Distribution Float

inductive Value where
  | absent
  | flag (value : Bool)
  | whole (value : Int)
  | real (value : Float)
  | text (value : String)
  | list (items : List Value)
  | record (fields : List (String × Value))
  | array (tensor : Tensor Float)
  | message (message : Message)
  deriving Inhabited

namespace Value

def toReal : Value → Except Fault Float
  | flag value => .ok (if value then 1.0 else 0.0)
  | whole value =>
    match Number.ofInt? value with
    | some number => .ok number
    | none => .error (.lapsed .overflow)
  | real value => .ok value
  | text value =>
    match Number.readReal? value with
    | some number => .ok number
    | none => .error (.lapsed .badValue)
  | array tensor => Quantity.single (.array tensor)
  | _ => .error (.lapsed .wrongType)

/-- An entry of an array; an absent entry is not a number. -/
def toEntry : Value → Except Fault Float
  | absent => .ok Number.notANumber
  | value => value.toReal

mutual

/-- The extents of a rectangular value: a list has one axis more than its items. -/
def extents? : Value → Option Shape
  | list [] => some [0]
  | list (first :: rest) =>
    match first.extents? with
    | some inner => (extentBehind? inner rest).map fun count => (count + 1) :: inner
    | none => none
  | array tensor => some tensor.shape
  | _ => some []

/-- The number of items, if all of them have the given extents. -/
def extentBehind? (inner : Shape) : List Value → Option Nat
  | [] => some 0
  | item :: rest =>
    if item.extents? = some inner then (extentBehind? inner rest).map (· + 1) else none

end

/-- Arrays have at most this many axes. -/
def mostAxes : Nat := 64

/-- The shape of a value read as an array; nested lists have to be rectangular and not too deep. -/
def shape? (value : Value) : Option Shape :=
  value.extents?.filter fun shape => shape.length ≤ mostAxes

mutual

def leaves : Value → List Value
  | list items => leavesOf items
  | array tensor => tensor.entries.toList.map real
  | value => [value]

def leavesOf : List Value → List Value
  | [] => []
  | item :: rest => item.leaves ++ leavesOf rest

end

def toTensor (value : Value) : Except Fault (Tensor Float) :=
  match value.shape? with
  | none => .error (.lapsed .badValue)
  | some shape => (value.leaves.mapM toEntry).map fun entries =>
      let stored := entries.toArray
      Tensor.ofFn shape fun i => stored.getD i 0.0

mutual

def integers : Value → List Int
  | whole value => [value]
  | list items => integersOf items
  | record fields => fieldIntegers fields
  | _ => []

def integersOf : List Value → List Int
  | [] => []
  | item :: rest => item.integers ++ integersOf rest

def fieldIntegers : List (String × Value) → List Int
  | [] => []
  | (_, value) :: rest => value.integers ++ fieldIntegers rest

end

/-- A value all integers of which can be read as doubles. -/
def measurable (value : Value) : Except Fault Value := do
  for number in value.integers do
    let _ ← (whole number).toReal
  return value

/-- A number if the value has no axes, and an array otherwise. -/
def toQuantity (value : Value) : Except Fault (Quantity Float) :=
  match value.shape? with
  | none => .error (.lapsed .badValue)
  | some [] => value.toReal.map .scalar
  | some _ => value.toTensor.map .array

/-- The message that a value is or stands for. -/
def toMessage : Value → Except Fault Message
  | message held => .ok held
  | value => value.toQuantity.map .pointMass

def messageType (value : Value) : Except Fault MessageType := do
  (← value.toMessage).messageType

/-- An integer, where truth values count as zero and one. -/
def toIndex? : Value → Option Int
  | whole value => some value
  | flag value => some (if value then 1 else 0)
  | _ => none

/-- The number of words of 64 bits. -/
def wordCount : Int := 18446744073709551616

/-- An integer that no word of 64 bits holds, neither with a sign nor without. -/
def isWide : Value → Bool
  | whole value => decide (2 * value < -wordCount ∨ wordCount ≤ value)
  | _ => false

def isAbsent : Value → Bool
  | absent => true
  | _ => false

/-- A value counts as set unless it is nothing, zero or empty. -/
def isSet : Value → Bool
  | absent | flag false | whole 0 | text "" | list [] | record [] => false
  | real number => number != 0.0
  | _ => true

def isText (value : Value) (expected : String) : Bool :=
  match value with
  | text characters => characters == expected
  | _ => false

/-- The place in a sequence of the given length, counted from the end if negative. -/
def place? (length : Nat) (index : Int) : Option Nat :=
  let place := if index < 0 then index + length else index
  if 0 ≤ place ∧ place < length then some place.toNat else none

/-- The values met when a value is gone through one by one: items, characters, or field names. -/
def elements : Value → Except Fault (List Value)
  | list items => .ok items
  | text characters => .ok ((Text.units characters).map text)
  | record fields => .ok (fields.map fun field => .text field.1)
  | _ => .error (.lapsed .wrongType)

def pair (value : Value) : Except Fault (Value × Value) := do
  match ← value.elements with
  | [first, second] => return (first, second)
  | _ => throw (.lapsed .badValue)

def isNumber : Value → Bool
  | flag _ | whole _ | real _ => true
  | _ => false

/-- The quotient of two plain numbers; a quotient of integers is rounded once, and it is negative,
even as zero, when exactly one of them is. -/
def divide (left right : Value) : Except Fault Float :=
  match left.toIndex?, right.toIndex? with
  | some numerator, some denominator =>
    if denominator = 0 then .error (.lapsed .zeroDivision)
    else if Number.nearestBits numerator.natAbs denominator.natAbs = Number.infinityBits then
      .error (.lapsed .overflow)
    else
      .ok (Number.nearest (decide (numerator < 0) != decide (denominator < 0)) numerator.natAbs
        denominator.natAbs)
  | _, _ =>
    if left.isNumber && right.isNumber then do Scalar.divide (← left.toReal) (← right.toReal)
    else .error (.lapsed .wrongType)

end Value

/-! ### Distributions from outside values -/

namespace Message

def ofPoint (value : Value) : Except Fault Message := value.toQuantity.map .pointMass

def ofGaussian (mean variance : Value) : Except Fault Message := do
  return .gaussian (← mean.toReal) (← variance.toReal)

def ofGaussianPrecision (weighted precision : Value) : Except Fault Message := do
  return .gaussian (← weighted.divide precision) (← (Value.real 1.0).divide precision)

def ofMvGaussian (mean covariance : Value) : Except Fault Message := do
  return .mvGaussian (← MvGaussian.ofTensors (← mean.toTensor) (← covariance.toTensor))

def ofMvGaussianPrecision (weighted precision : Value) : Except Fault Message := do
  let covariance ← (← precision.toTensor).inverse
  let mean ← covariance.product (← weighted.toTensor)
  return .mvGaussian (← MvGaussian.ofTensors mean covariance)

def ofGamma (shape rate : Value) : Except Fault Message := do
  return .gamma (← shape.toReal) (← rate.toReal)

def ofInverseGamma (shape scale : Value) : Except Fault Message := do
  return .inverseGamma (← shape.toReal) (← scale.toReal)

def ofStudentsT (location precision freedom : Value) : Except Fault Message := do
  return .studentsT (← location.toReal) (← precision.toReal) (← freedom.toReal)

/-- A Gaussian in one dimension if the mean is a single number, in several otherwise. -/
def ofGaussianLike (mean variance : Value) : Except Fault Message :=
  match mean.shape? with
  | none => .error (.lapsed .badValue)
  | some [] => ofGaussian mean variance
  | some _ => ofMvGaussian mean variance

/-- Families that can be given by weighted mean and precision. -/
def preciseFamilies : List String := ["Gaussian", "MvGaussian"]

/-- The families of distributions by name; the first one has no parameters. -/
def families : List String :=
  ["Distribution", "PointMass", "Gamma", "InverseGamma", "StudentsT"] ++ preciseFamilies

/-- A distribution from the name of its family and its parameters by name.  Gaussians may be given
by weighted mean and precision. -/
def ofFields (family : String) (fields : List (String × Value)) : Except Fault Message :=
  let names := fields.map Prod.fst
  let given := fun (wanted : List String) => names.all wanted.contains && wanted.all names.contains
  let value := fun (name : String) => (fields.lookup name).getD .absent
  if family = "Distribution" && given [] then .ok .bare
  else if family = "PointMass" && given ["value"] then ofPoint (value "value")
  else if family = "Gaussian" && given ["m", "V"] then ofGaussian (value "m") (value "V")
  else if family = "Gaussian" && given ["xi", "W"] then
    ofGaussianPrecision (value "xi") (value "W")
  else if family = "MvGaussian" && given ["m", "V"] then ofMvGaussian (value "m") (value "V")
  else if family = "MvGaussian" && given ["xi", "W"] then
    ofMvGaussianPrecision (value "xi") (value "W")
  else if family = "Gamma" && given ["a", "b"] then ofGamma (value "a") (value "b")
  else if family = "InverseGamma" && given ["a", "b"] then ofInverseGamma (value "a") (value "b")
  else if family = "StudentsT" && given ["m", "W", "nu"] then
    ofStudentsT (value "m") (value "W") (value "nu")
  else if !families.contains family then .error (.lapsed (.missingKey (Text.quote family)))
  else if names.contains "xi" && !preciseFamilies.contains family then
    .error (.lapsed .missingAttribute)
  else .error (.lapsed .wrongType)

end Message

/-! ### Gains and data buffers -/

/-- The matrix of a linear map. -/
structure Gain where
  rows : Nat
  cols : Nat
  matrix : Tensor Float
  matrix_shape : matrix.shape = [rows, cols]

/-- A gain given as an array: a matrix, or any array with one entry. -/
def Gain.ofTensor (tensor : Tensor Float) : Except Fault Gain :=
  match found : tensor.shape with
  | [rows, cols] => .ok ⟨rows, cols, tensor, found⟩
  | shape =>
    if shape.volume = 1 then .ok ⟨1, 1, Tensor.ofFn [1, 1] fun _ => tensor.get 0, rfl⟩
    else .error (.refused (.gainShape shape))

/-- A gain given as a number, as an array with one entry, or as a matrix. -/
def gainMatrix (value : Value) : Except Fault Gain := do
  Gain.ofTensor (← value.toTensor)

end SumProduct
