/-
A library: a catalog of rules and what each rule computes.

A rule is carried out at a node of a network, on one value per other interface of the node.  Rules
that approximate also read the marginals known so far; exact rules take none.
-/

import SumProduct.Network.Basic
import SumProduct.Rules.Catalog
import SumProduct.Value.Buffer

set_option autoImplicit false

namespace SumProduct

/-- Marginals by the name of their variable. -/
abbrev Marginals := Table Value

/-- The place where a rule is carried out: a node, or something that is none. -/
structure Site where
  network : Network
  key : Option NodeKey

/-- The node, which has to be one as soon as a rule reads it. -/
def Site.node (site : Site) : Except Fault Node :=
  match site.key with
  | some key => .ok (site.network.node key)
  | none => .error (.lapsed .missingAttribute)

/-- What a rule computes: the outbound value from the arriving ones, an absent value standing for
an absent message.  Marginals are handed over only where the caller has an approximate rule. -/
abbrev Implementation := Site → List Value → Option Marginals → Except Fault Value

namespace Implementation

def passing (index : Value) : Implementation := fun _ arriving _ => (Value.list arriving).item index

/-- Computes the same message always, or fails in the same way. -/
def constant (value : Except Fault Value) : Implementation := fun _ _ _ => do
  return .message (← (← value).toMessage)

def reading (name : Value) : Implementation := fun _ _ marginals => do
  let some known := marginals | throw (.lapsed .wrongType)
  match known.get? (← name.key) with
  | some value => value.toMessage.map .message
  | none => throw (.lapsed (.missingKey name.literal))

end Implementation

abbrev Implementations := Table Implementation

structure Library where
  catalog : Catalog := {}
  implementations : Implementations := []
  deriving Inhabited

namespace Library

/-- Registers a rule together with its implementation; the implementation of a rule that fails to be
registered is dropped. -/
def add (library : Library) (id : Key) (implementation : Implementation) (kind slot : Value)
    (inbound : List (Option Pattern)) (outbound : Option Pattern) (category : Category)
    (approximation : Option Method) (requirements : List Requirement) :
    Except Fault Rule × Library :=
  match library.catalog.register id kind slot inbound outbound category approximation requirements with
  | (.ok rule, catalog) => (.ok rule, ⟨catalog, Table.put id implementation library.implementations⟩)
  | (.error fault, catalog) => (.error fault, { library with catalog := catalog })

def text (library : Library) : String :=
  "RuleLibrary(rules=" ++ Number.integerText library.implementations.length ++ ")"

end Library

end SumProduct
