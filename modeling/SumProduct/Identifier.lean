/-
Identifiers that are unique within a graph.

An identifier is either chosen by the caller and then claimed, or generated from a stem as the stem
in small letters, an underscore and a number.  The number last used for a stem is remembered; taken
identifiers are skipped.  Generated identifiers are texts; a chosen one may be any key.
-/

import SumProduct.Association
import SumProduct.Value.Basic

set_option autoImplicit false

namespace SumProduct

structure IdRegistry where
  taken : List Key := []
  counters : List (String × Nat) := []
  deriving DecidableEq, Repr, Inhabited

namespace IdRegistry

def contains (registry : IdRegistry) (id : Key) : Bool := registry.taken.any id.same

/-- Reserves a chosen identifier. -/
def claim (registry : IdRegistry) (id : Key) : Except Fault IdRegistry :=
  if registry.contains id then .error (.refused (.duplicateId id.literal))
  else .ok { registry with taken := registry.taken ++ [id] }

def numbered (stem : String) (number : Nat) : String :=
  stem ++ "_" ++ Number.integerText number

/-- The first number above `last` whose identifier is free.  Among `steps + 1` numbers one is free
as soon as at most `steps` identifiers are taken. -/
def firstFree (taken : List Key) (stem : String) : (steps last : Nat) → Nat
  | 0, last => last + 1
  | steps + 1, last =>
    if taken.contains (.text (numbered stem (last + 1))) then firstFree taken stem steps (last + 1)
    else last + 1

/-- Reserves a fresh identifier with the given stem. -/
def generate (registry : IdRegistry) (stem : String) : String × IdRegistry :=
  let base := Text.lower stem
  let last := (registry.counters.lookup base).getD 0
  let number := firstFree registry.taken base registry.taken.length last
  let id := numbered base number
  (id, ⟨registry.taken ++ [.text id], Association.set base number registry.counters⟩)

/-- Claims the identifier if one is given and generates one otherwise, for which the stem has to be
text. -/
def assign (registry : IdRegistry) (id : Option Key) (stem : Value) :
    Except Fault (Key × IdRegistry) :=
  match id, stem with
  | some id, _ => (registry.claim id).map fun updated => (id, updated)
  | none, .text stem =>
    let (id, updated) := registry.generate stem
    .ok (.text id, updated)
  | none, _ => .error (.lapsed .missingAttribute)

end IdRegistry

end SumProduct
