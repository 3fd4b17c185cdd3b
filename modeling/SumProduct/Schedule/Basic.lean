/-
Schedules of message computations.

An entry computes the message that leaves one socket of a node from messages computed by earlier
entries.  Before resolution an entry may carry a pinned type and an approximation method; resolution
fills in the rule, the type and the status, and for a composite node the resolved inner schedule.
-/

import SumProduct.Association
import SumProduct.Method
import SumProduct.Value.Key

set_option autoImplicit false

namespace SumProduct

abbrev GraphKey := Nat

abbrev NodeKey := Nat

abbrev EdgeKey := Nat

abbrev VariableKey := Nat

/-- What is offered where a node is wanted: a node, or something else with the given text. -/
inductive Offer where
  | node (key : NodeKey)
  | other (text : String)
  deriving Inhabited

/-- One interface of a node, by its position on the node. -/
structure Socket where
  node : NodeKey
  slot : Nat
  deriving DecidableEq, Repr, Inhabited

inductive Status where
  | unresolved
  | leaf
  | exact
  | approximate
  | composite
  deriving DecidableEq, Repr, Inhabited

def Status.text : Status → String
  | unresolved => "unresolved"
  | leaf => "leaf"
  | exact => "exact"
  | approximate => "approximate"
  | composite => "composite"

def Status.ofText? (name : String) : Option Status :=
  [unresolved, leaf, exact, approximate, composite].find? fun status => status.text = name

/-- A reference to an entry: its index, or another value that was given instead of one. -/
inductive Reference where
  | entry (index : Int)
  | given (value : Value)
  deriving Inhabited

namespace Reference

/-- The reference that a value stands for; an absent value stands for none. -/
def ofValue? : Value → Option Reference
  | .absent => none
  | .whole index => some (.entry index)
  | value => some (.given value)

def toValue : Reference → Value
  | entry index => .whole index
  | given value => value

/-- The value that stands for a reference or for none. -/
def optionValue : Option Reference → Value
  | some reference => reference.toValue
  | none => .absent

def text (reference : Reference) : String := reference.toValue.plain

/-- The index of the entry referred to; numbers with a fraction and other values have none. -/
def index? : Reference → Option Int
  | entry index => some index
  | given (.real number) => Number.toInt? number
  | given value => value.toIndex?

/-- The reference points to an entry before the given one.  Only numbers can be compared. -/
def isBefore (index : Int) : Reference → Except Fault Bool
  | entry earlier => .ok (decide (0 ≤ earlier ∧ earlier < index))
  | given (.real number) => .ok (0.0 ≤ number && number < Float.ofInt index)
  | given value =>
    match value.toIndex? with
    | some earlier => .ok (decide (0 ≤ earlier ∧ earlier < index))
    | none => .error (.lapsed .wrongType)

end Reference

/-- One message computation.  `inbounds` has one reference per other interface of the node, or
nothing in its place. -/
structure Entry where
  socket : Socket
  inbounds : List (Option Reference) := []
  outbound : Option Pattern := none
  approximation : Option Method := none
  rule : Option Value := none
  status : Status := .unresolved
  inner : Option (List Entry) := none
  pinned : Option Pattern := none
  deriving Inhabited

abbrev Schedule := List Entry

namespace Entry

/-- An unresolved entry with an outbound type is pinned to that type. -/
def withImpliedPin (entry : Entry) : Entry :=
  if entry.pinned.isNone && entry.status = .unresolved then { entry with pinned := entry.outbound }
  else entry

def isResolved (entry : Entry) : Bool := entry.status ≠ .unresolved

def isPinned (entry : Entry) : Bool := entry.pinned.isSome

end Entry

namespace Schedule

def isResolved (schedule : Schedule) : Bool := schedule.all Entry.isResolved

/-- The last entry that computes the message on a socket, searched from position `first` on. -/
def lastFrom (socket : Socket) : (first : Nat) → Schedule → Option Nat
  | _, [] => none
  | first, entry :: rest =>
    match lastFrom socket (first + 1) rest with
    | some index => some index
    | none => if entry.socket = socket then some first else none

/-- The index of the last entry that computes the message on a socket. -/
def indexOf (schedule : Schedule) (socket : Socket) : Option Nat := lastFrom socket 0 schedule

end Schedule

/-- Indices of entries by socket, noted while the entries are gone through: a later entry for a socket
takes the place of an earlier one. -/
abbrev SocketIndex := List (Socket × Nat)

/-- Notes that the entry at an index computes the message on a socket. -/
def SocketIndex.note (noted : SocketIndex) (socket : Socket) (index : Nat) : SocketIndex :=
  Association.set socket index noted

end SumProduct
