/-
Comparing values.

Numbers are equal if they are the same number, whether they are integers, doubles or truth values;
a double that is not a number equals nothing.  Lists and records are compared part by part, messages
by family and parameters.  Values of different kinds differ.  Closeness is measured with tolerances
that are values themselves.
-/

import SumProduct.Value.Basic

set_option autoImplicit false

namespace SumProduct.Value

def sameNumber (left right : Value) : Bool :=
  match left.toIndex?, right.toIndex?, left, right with
  | some x, some y, _, _ => x == y
  | some x, none, _, real y => Number.toInt? y == some x
  | none, some y, real x, _ => Number.toInt? x == some y
  | none, none, real x, real y => x == y
  | _, _, _, _ => false

mutual

def same : Value → Value → Except Fault Bool
  | absent, absent => .ok true
  | text left, text right => .ok (left == right)
  | list left, list right => if left.length = right.length then sameItems left right else .ok false
  | record left, record right =>
    if left.length = right.length then sameFields left right else .ok false
  | array left, array right => .ok (left.allPairs Scalar.same right)
  | message left, message right => left.equal right
  | left, right => .ok (sameNumber left right)

/-- Equality of items in pairs, up to the first difference. -/
def sameItems : List Value → List Value → Except Fault Bool
  | left :: lefts, right :: rights => do
    if ← left.same right then sameItems lefts rights else return false
  | _, _ => .ok true

/-- Every field is among the others with an equal value. -/
def sameFields : List (String × Value) → List (String × Value) → Except Fault Bool
  | [], _ => .ok true
  | (name, left) :: rest, others =>
    match others.lookup name with
    | none => .ok false
    | some right => do
      if ← left.same right then sameFields rest others else return false

end

/-- Membership as a value decides it: among the items of a list, as a part of a text, or among the
names of a record.  Nothing else has members. -/
def contains (whole member : Value) : Except Fault Bool :=
  match whole, member with
  | list items, _ => items.anyM fun item => item.same member
  | text characters, text part => .ok (Text.contains characters part)
  | record fields, text name => .ok (fields.any fun field => field.1 == name)
  | record _, _ => .ok false
  | _, _ => .error (.lapsed .wrongType)

/-! ### Closeness -/

/-- A tolerance: a number, or an array of numbers.  Integers have to be words if `narrow` is set. -/
def tolerance (narrow : Bool) (value : Value) : Except Fault (Quantity Float) :=
  if value.leaves.all fun leaf => leaf.isNumber && !(narrow && leaf.isWide) then value.toQuantity
  else .error (.lapsed .wrongType)

/-- A relative and an absolute tolerance.  Beside an absolute tolerance that is not finite the
relative one may be any number. -/
def tolerances (relative absolute : Value) : Except Fault (Quantity Float × Quantity Float) := do
  if relative.shape?.isNone || absolute.shape?.isNone then throw (.lapsed .badValue)
  let absolute ← absolute.tolerance true
  let relative ← relative.tolerance (absolute.toTensor.entries.all Number.isFinite)
  return (relative, absolute)

/-- Closeness of quantities; tolerances are looked at only if the shapes are equal. -/
def nearBy (relative absolute : Value) (left right : Quantity Float) : Except Fault Bool := do
  if left.shape ≠ right.shape then return false
  let (relative, absolute) ← tolerances relative absolute
  Quantity.isClose relative absolute left right

/-- Closeness of messages, parameter by parameter up to the first difference; only a message can be
close to something. -/
def isClose (relative absolute : Value) : Value → Value → Except Fault Bool
  | message .bare, message .bare => .error (.lapsed .wrongType)
  | message left, message right =>
    if left.familyName = right.familyName then
      (left.fields.zip right.fields).allM fun (first, second) =>
        nearBy relative absolute first.2 second.2
    else .ok false
  | message _, _ => .ok false
  | _, _ => .error (.lapsed .missingAttribute)

end SumProduct.Value
