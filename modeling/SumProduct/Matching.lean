/-
Matching of rule patterns against arriving message types.

Patterns are walked from left to right.  A free parameter is bound where it first occurs, and every
later occurrence has to carry the same value.  The bindings are then put into the outbound pattern;
a parameter that no arriving message carries is asked of the node.

`unify` hides the bindings that are threaded through the walk.  An arriving type is normally a
message type; where a caller supplies one of the other two patterns instead, comparing it with a
type has no answer.  A pattern may also be left out: it fits nothing, not even an absent message.
-/

import SumProduct.Value.Comparison

set_option autoImplicit false

namespace SumProduct

/-- Parameter values by name, in the order in which they were bound. -/
abbrev Bindings := List (String × Param)

/-- Compares parameters position by position.  The result tells whether all agree, together with
the bindings made up to the first disagreement. -/
def bindParams : (wanted arriving : List Param) → Bindings → Bool × Bindings
  | .free name :: wanted, value :: arriving, bindings =>
    match bindings.lookup name with
    | none => bindParams wanted arriving (bindings ++ [(name, value)])
    | some bound => if bound = value then bindParams wanted arriving bindings else (false, bindings)
  | .number number :: wanted, value :: arriving, bindings =>
    if value = .number number then bindParams wanted arriving bindings else (false, bindings)
  | _, _, bindings => (true, bindings)

def Pattern.compare : (pattern : Pattern) → (arriving : Option Pattern) → Bindings →
    Except Fault (Bool × Bindings)
  | .any, _, bindings => .ok (true, bindings)
  | .absent, arriving, bindings => .ok (arriving.isNone, bindings)
  | .typed _, none, bindings => .ok (false, bindings)
  | .typed wanted, some (.typed found), bindings =>
    if wanted.family = found.family ∧ wanted.params.length = found.params.length then
      .ok (bindParams wanted.params found.params bindings)
    else .ok (false, bindings)
  | .typed _, some _, _ => .error (.lapsed .missingAttribute)

/-- Compares where a pattern may be missing: with nothing arriving that is a mismatch, while a type
that arrives has nothing to be compared with. -/
def comparePattern (pattern arriving : Option Pattern) (bindings : Bindings) :
    Except Fault (Bool × Bindings) :=
  match pattern, arriving with
  | some pattern, _ => pattern.compare arriving bindings
  | none, none => .ok (false, bindings)
  | none, some _ => .error (.lapsed .missingAttribute)

/-- Walks patterns and arriving types together, starting from given bindings. -/
def unifyFrom : (patterns arriving : List (Option Pattern)) → Bindings →
    Except Fault (Option Bindings)
  | pattern :: patterns, arriving :: rest, bindings =>
    match comparePattern pattern arriving bindings with
    | .ok (true, extended) => unifyFrom patterns rest extended
    | .ok (false, _) => .ok none
    | .error fault => .error fault
  | [], [], bindings => .ok (some bindings)
  | _, _, _ => .ok none

def unify (patterns arriving : List (Option Pattern)) : Except Fault (Option Bindings) :=
  if patterns.length = arriving.length then unifyFrom patterns arriving [] else .ok none

/-- What a node itself knows about the parameters of its messages.  Something that is no node cannot
be asked. -/
structure NodeFacts where
  id : Key
  static : String → Except Fault (Option Int)

/-- The value of one outbound parameter: its binding, or else what the node says. -/
def substituteParam (outbound : MessageType) (bindings : Bindings) (node : Option NodeFacts) :
    Param → Except Fault Param
  | .number value => .ok (.number value)
  | .free name =>
    match bindings.lookup name with
    | some value => .ok value
    | none => do
      match ← node.bindM fun facts => facts.static name with
      | some value => return .number value
      | none => throw (.compile
          { cause := .unboundParameter name outbound, nodeId := node.map NodeFacts.id })

def MessageType.substitute (outbound : MessageType) (bindings : Bindings)
    (node : Option NodeFacts) : Except Fault MessageType :=
  if outbound.isConcrete then .ok outbound
  else
    (outbound.params.mapM (substituteParam outbound bindings node)).map fun params =>
      ⟨outbound.family, params⟩

/-- Substitutes the bound parameters only; the others stay free. -/
def MessageType.substituteKnown (outbound : MessageType) (bindings : Bindings) : MessageType :=
  ⟨outbound.family, outbound.params.map fun param => match param with
    | .free name => (bindings.lookup name).getD param
    | .number _ => param⟩

/-- What a rule demands of a node: the value of a parameter that the node knows by itself.  Another
value that was stated instead is looked at when the rule is tried at a node. -/
inductive Requirement where
  | parameter (name : String) (value : Int)
  | stated (value : Value)
  deriving Inhabited

namespace Requirement

def ofValue : Value → Requirement
  | .list [.text name, .whole value] => parameter name value
  | value => stated value

def toValue : Requirement → Value
  | parameter name value => .list [.text name, .whole value]
  | stated value => value

/-- The node's own value is the demanded one; a parameter that the node does not know has an absent
value.  What was stated has to have two parts. -/
def holds (node : NodeFacts) : Requirement → Except Fault Bool
  | parameter name value => do return (← node.static name) == some value
  | stated value => do
    let (name, wanted) ← value.pair
    match name with
    | .text name => (((← node.static name).map Value.whole).getD .absent).same wanted
    | _ => Value.absent.same wanted

end Requirement

/-- A match agrees with a node if no binding differs from the node's own value for it, and every
requirement holds. -/
def agreesWithNode (bindings : Bindings) (requirements : List Requirement) (node : NodeFacts) :
    Except Fault Bool := do
  let fits ← bindings.allM fun binding => do
    return ((← node.static binding.1).map fun value => Param.number value == binding.2).getD true
  if fits then requirements.allM (Requirement.holds node) else return false

end SumProduct
