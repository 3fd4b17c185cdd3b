/-
Keys, and tables that are looked up by them.

A key is text as a rule, but a number, a truth value or nothing at all may be a key as well.  Keys
that are the same number lead to the same entry, whether they are integers, doubles or truth values;
an entry keeps the key under which it was first made.  Tables remember the order of insertion.
-/

import SumProduct.Number.Decimal
import SumProduct.Number.Numeral
import SumProduct.Text.Quoted

set_option autoImplicit false

namespace SumProduct

inductive Key where
  | text (name : String)
  | absent
  | flag (value : Bool)
  | whole (value : Int)
  | real (value : Float)
  deriving DecidableEq, Repr, Inhabited

instance : Coe String Key where
  coe := Key.text

namespace Key

/-- The form that is common to all keys that lead to the same entry. -/
def normal : Key → Key
  | flag value => whole (if value then 1 else 0)
  | real value =>
    match Number.toInt? value with
    | some number => whole number
    | none => real value
  | key => key

/-- The keys lead to the same entry. -/
def same (left right : Key) : Bool := left.normal = right.normal

def literal : Key → String
  | text name => Text.quote name
  | absent => "None"
  | flag value => if value then "True" else "False"
  | whole value => Number.integerText value
  | real value => Number.text value

def plain : Key → String
  | text name => name
  | key => key.literal

def isText : Key → Bool
  | text _ => true
  | _ => false

/-- The order of keys that are numbers.  An integer is compared with a fraction as a double, which is
exact wherever it matters: fractions are small.  The two are never equal. -/
def atMost (left right : Key) : Bool :=
  match left.normal, right.normal with
  | whole first, whole second => first ≤ second
  | whole first, real second => Float.ofInt first ≤ second
  | real first, whole second => first < Float.ofInt second
  | real first, real second => first ≤ second
  | _, _ => false

def isNumber (key : Key) : Bool :=
  match key.normal with
  | whole _ | real _ => true
  | _ => false

/-- Keys in ascending order; text cannot be compared with numbers. -/
def sorted? (keys : List Key) : Option (List Key) :=
  if keys.all isText then some (keys.mergeSort fun left right => Text.atMost left.plain right.plain)
  else if keys.all isNumber then some (keys.mergeSort atMost)
  else if keys.length = 1 then some keys
  else none

end Key

/-- Entries by key, in order of insertion. -/
abbrev Table (β : Type) := List (Key × β)

namespace Table

variable {β : Type}

def get? (table : Table β) (key : Key) : Option β :=
  (table.find? fun entry => entry.1.same key).map Prod.snd

def contains (table : Table β) (key : Key) : Bool := (table.get? key).isSome

def put (key : Key) (value : β) : Table β → Table β
  | [] => [(key, value)]
  | (other, old) :: rest =>
    if other.same key then (other, value) :: rest else (other, old) :: put key value rest

/-- Sets several entries, one after the other. -/
def putAll (updates table : Table β) : Table β :=
  updates.foldl (fun table update => Table.put update.1 update.2 table) table

end Table

end SumProduct
