/-
External data buffers.

A buffer is found by its name; an index picks one element of it.  Elements of lists, texts and
arrays are picked by position, counted from the end if negative; fields of a record by name.  From
an array a list picks several elements at once: those at the listed positions, or those whose mark
in a list of truth values is set.
-/

import SumProduct.Value.Key

set_option autoImplicit false

namespace SumProduct

abbrev Buffers := Table Value

namespace Value

/-- Position of an index in a sequence; an index that is no integer does not fit. -/
def position (length : Nat) (index : Value) (unfit : Lapse) : Except Fault Nat :=
  match index.toIndex? with
  | none => .error (.lapsed unfit)
  | some number =>
    match place? length number with
    | some place => .ok place
    | none => .error (.lapsed .outOfRange)

def isFlag : Value → Bool
  | flag _ => true
  | _ => false

/-- Parts picked from an array as an array, which cannot have too many axes. -/
def picked (tensor : Tensor Float) : Except Fault Value :=
  if tensor.shape.length ≤ mostAxes then .ok (.array tensor) else .error (.lapsed .outOfRange)

/-- The parts of an array whose marks are set; the marks have to cover its first axes. -/
def markedItems (tensor : Tensor Float) (shape : Shape) (marks : List Value) : Except Fault Value :=
  if tensor.shape.take shape.length ≠ shape then .error (.lapsed .outOfRange)
  else
    let places := (marks.zipIdx.filter fun mark => mark.1.toIndex? == some 1).map Prod.snd
    picked (tensor.gather [places.length] (tensor.shape.drop shape.length) places)

def isUnsigned (index : Value) : Bool :=
  match index with
  | whole value => decide (wordCount ≤ 2 * value ∧ value < wordCount)
  | _ => false

def signed (index : Value) : Value :=
  match index with
  | whole value => .whole (value - wordCount)
  | _ => index

/-- Listed positions as words.  Words without a sign stand only beside each other; they are then
read as words with a sign. -/
def asWords (indices : List Value) : List Value :=
  if indices.all fun index => index.isFlag || index.isUnsigned then indices.map signed else indices

def listedItems (tensor : Tensor Float) (items : List Value) : Except Fault Value :=
  match (list items).shape? with
  | none => .error (.lapsed .badValue)
  | some shape =>
    let leaves := (list items).leaves
    if !leaves.isEmpty && leaves.all isFlag then markedItems tensor shape leaves
    else do
      let places ← (asWords leaves).mapM fun leaf =>
        position (tensor.shape.headD 0) leaf .outOfRange
      picked (tensor.gather shape tensor.shape.tail places)

/-- An element of an array: a number of a vector, or a part with one axis less.  A truth value
instead of a position puts an axis of extent one or zero in front.  A position is a word with a
sign. -/
def arrayItem (tensor : Tensor Float) (index : Value) : Except Fault Value :=
  match index with
  | list items => listedItems tensor items
  | flag value =>
    let shape := (if value then 1 else 0) :: tensor.shape
    picked (Tensor.ofFn shape fun i => tensor.get i)
  | _ => do
    if index.isUnsigned then throw (.lapsed .overflow)
    let place ← position (tensor.shape.headD 0) index .outOfRange
    let part := tensor.row place
    return if part.shape.isEmpty then .real (part.get 0) else .array part

/-- A field of a record; lists, records, arrays and messages cannot be names. -/
def field (fields : List (String × Value)) (name : Value) : Except Fault Value := do
  let found := match ← name.key with
    | .text key => fields.lookup key
    | _ => none
  match found with
  | some value => return value
  | none => throw (.lapsed (.missingKey name.literal))

def item (value index : Value) : Except Fault Value :=
  match value with
  | list items => do
    let place ← position items.length index .wrongType
    return (items[place]?).getD .absent
  | text characters => do
    let units := Text.units characters
    let place ← position units.length index .wrongType
    return .text ((units[place]?).getD "")
  | record fields => field fields index
  | array tensor => arrayItem tensor index
  | _ => .error (.lapsed .wrongType)

end Value

namespace Buffers

def read (buffers : Buffers) (buffer index : Value) : Except Fault Value :=
  let found : Except Fault Value := do
    match buffers.get? (← buffer.key) with
    | some value => return value
    | none => throw (.refused (.bufferNotFound buffer.literal))
  match index with
  | .absent => found
  | _ => do (← found).item index

def observe (buffers : Buffers) (buffer index : Value) : Except Fault Message := do
  (← buffers.read buffer index).toMessage

end Buffers

end SumProduct
