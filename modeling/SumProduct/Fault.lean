/-
Everything that can go wrong, as causes.

A `CompileFault` is a failure of resolution or emission and collects the schedule entry, the node
and the arriving types as they become known.  A `Refusal` is a stated objection to an argument.  A
`Lapse` is an operation that has no result for the values it met.  Wording is kept apart from the
causes, in the functions named `text`.
-/

import SumProduct.Key
import SumProduct.MessageType

set_option autoImplicit false

namespace SumProduct

open Text (quote joinWith)

inductive CompileFamily where
  | general
  | ambiguousRule
  | noMatchingRule
  | unresolvedParameter
  | invalidPin
  | incompleteSchedule
  | malformedTopology
  deriving DecidableEq, Repr

/-- Causes of compilation failures.  Interfaces, nodes, places and references are given by their
written forms. -/
inductive CompileCause where
  | stated (family : CompileFamily) (text : String)
  | selfLoop (edge node : String)
  | alreadyConnected (iface : String)
  | foreignInterface (iface : String)
  | notATerminal (node : String)
  | ownsItself (composite : String)
  | innerScheduleMisses (composite terminal : String)
  | referenceCount (found : Nat) (kind : String) (expected : Int)
  | referenceOrder (reference : String)
  | referenceUnresolved (reference : String)
  | referenceElsewhere (reference iface : String)
  | untypedTerminal (terminal : String)
  | entryUnresolved
  | leafPin (pinned : Pattern) (actual : Option Pattern)
  | innerPin (pinned : Pattern) (actual : Option Pattern)
  | unproduciblePin (pinned : Pattern) (place : String)
  | unboundParameter (parameter : String) (outbound : MessageType)
  | ambiguous (place : String) (candidates : List (String × Described)) (hint : String)
  | noRule (place : String)
  | uncarriedVariable (variableId : Key)
  | missingDirections (variableId : Key) (first second : String) (missing : List String)
  deriving DecidableEq, Repr

namespace CompileCause

def family : CompileCause → CompileFamily
  | stated family _ => family
  | leafPin .. | innerPin .. | unproduciblePin .. => .invalidPin
  | unboundParameter .. => .unresolvedParameter
  | ambiguous .. => .ambiguousRule
  | noRule .. => .noMatchingRule
  | uncarriedVariable .. | missingDirections .. => .incompleteSchedule
  | _ => .malformedTopology

def text : CompileCause → String
  | stated _ text => text
  | selfLoop edge node => "Edge " ++ edge ++ " would be a self-loop on node " ++ node
  | alreadyConnected iface => iface ++ " is already connected"
  | foreignInterface iface => iface ++ " does not belong to this FactorGraph"
  | notATerminal node => node ++ " is not a terminal of the inner graph"
  | ownsItself composite => "Composite node " ++ composite ++ " cannot own the graph it lives in"
  | innerScheduleMisses composite terminal =>
    "Inner schedule of " ++ composite ++ " never computes the message toward terminal " ++ terminal
  | referenceCount found kind expected =>
    "Entry has " ++ Number.integerText found ++ " inbound references, " ++ kind ++ " requires "
      ++ Number.integerText expected
  | referenceOrder reference =>
    "Inbound reference " ++ reference ++ " does not point to an earlier schedule entry"
  | referenceUnresolved reference =>
    "Inbound reference " ++ reference ++ " points to an entry that is not resolved yet"
  | referenceElsewhere reference iface =>
    "Entry " ++ reference ++ " does not compute the message arriving at " ++ iface
  | untypedTerminal terminal => "No message type supplied for terminal " ++ terminal
  | entryUnresolved => "Schedule entry is not resolved"
  | leafPin pinned actual =>
    "Pinned type " ++ pinned.text ++ " differs from the type " ++ arrivingText actual
      ++ " of the held value"
  | innerPin pinned actual =>
    "Pinned type " ++ pinned.text ++ " differs from the inner schedule result "
      ++ arrivingText actual
  | unproduciblePin pinned place =>
    "No suitable calculation rule produces pinned type " ++ pinned.text ++ " for " ++ place
  | unboundParameter parameter outbound =>
    "Outbound parameter " ++ parameter ++ " of " ++ outbound.text
      ++ " is bound neither by the inbound types nor by static data of the node"
  | ambiguous place candidates hint =>
    "There are multiple outbound type possibilities for " ++ place ++ ": "
      ++ joinWith ", " (candidates.map fun candidate => candidate.1 ++ " -> " ++ candidate.2.text)
      ++ ". " ++ hint
  | noRule place => "No calculation rule available for " ++ place
  | uncarriedVariable variableId => "Variable " ++ variableId.plain ++ " is not carried by any edge"
  | missingDirections variableId first second missing =>
    "Marginal of " ++ variableId.plain ++ " requires the outbound messages on " ++ first ++ " and " ++ second
      ++ "; the schedule never computes " ++ joinWith ", " missing

def pinned? : CompileCause → Option Pattern
  | leafPin pinned _ | innerPin pinned _ | unproduciblePin pinned _ => some pinned
  | _ => none

def parameter? : CompileCause → Option String
  | unboundParameter parameter _ => some parameter
  | _ => none

def target? : CompileCause → Option Key
  | uncarriedVariable variableId | missingDirections variableId .. => some variableId
  | _ => none

/-- The outbound types between which no choice could be made. -/
def candidates : CompileCause → List Described
  | ambiguous _ candidates _ => candidates.map Prod.snd
  | _ => []

end CompileCause

/-- A cause with what is known about where it arose. -/
structure CompileFault where
  cause : CompileCause
  entryIndex : Option Key := none
  nodeId : Option Key := none
  inboundTypes : Option (List (Option Pattern)) := none
  deriving DecidableEq, Repr

namespace CompileFault

/-- Fills in what is still unknown; what is known stays. -/
def addContext (fault : CompileFault) (entryIndex nodeId : Option Key)
    (inboundTypes : Option (List (Option Pattern))) : CompileFault :=
  { fault with
    entryIndex := fault.entryIndex.or entryIndex
    nodeId := fault.nodeId.or nodeId
    inboundTypes := fault.inboundTypes.or inboundTypes }

/-- The cause, followed by one line for each known part of the context. -/
def text (fault : CompileFault) : String :=
  joinWith "\n" <|
    [fault.cause.text]
    ++ (fault.entryIndex.map fun index => "Schedule entry: " ++ index.plain).toList
    ++ (fault.nodeId.map fun id => "Node: " ++ id.plain).toList
    ++ (fault.inboundTypes.map fun types =>
        "Inbound types: [" ++ joinWith ", " (types.map arrivingText) ++ "]").toList

end CompileFault

/-- The shape of an array: its extent along each axis. -/
abbrev Shape := List Nat

def Shape.text : Shape → String
  | [] => "()"
  | [extent] => "(" ++ Number.integerText extent ++ ",)"
  | extents => "(" ++ joinWith ", " (extents.map fun (extent : Nat) => Number.integerText extent) ++ ")"

/-- Stated objections.  Arguments that are shown as literals are given in their written form. -/
inductive Refusal where
  | duplicateId (literal : String)
  | notAMessageType (text : String)
  | untypedRank (rank : Nat)
  | undefinedVariance
  | covarianceShape (shape : Shape) (length : Nat)
  | disagreeingPoints (places : Option (String × String))
  | dimensionMismatch (left right : Nat)
  | matrixNotFinite
  | univariateGain (node : String) (shape : Shape)
  | gainShape (shape : Shape)
  | onlyConstants (node : String)
  | ruleRegistered (rule : Key)
  | methodMissing (rule : Key)
  | methodNotAllowed (rule : Key)
  | outboundNotAType (rule : Key) (literal : String)
  | unknownOperation (operation : String)
  | unknownKind (literal : String) (available : List String)
  | interfaceReference (reference : String)
  | noInterface (kind id literal : String)
  | noNode (literal : String)
  | slotNotComputed (literal : String)
  | bufferNotFound (literal : String)
  | noImplementation (literal : String)
  | unconnected (node iface : String)
  | marginalMissing (node literal : String)
  | noProduct (left right : String)
  deriving DecidableEq, Repr

/-- What an objection is about: an argument's value, a missing key, or an argument's type. -/
inductive RefusalKind where
  | value
  | key
  | type
  deriving DecidableEq, Repr

namespace Refusal

def kind : Refusal → RefusalKind
  | noInterface .. | noNode .. | slotNotComputed .. | bufferNotFound .. | noImplementation ..
  | unconnected .. | marginalMissing .. => .key
  | noProduct .. => .type
  | _ => .value

/-- The wording; objections to arrays as a whole are stated without one. -/
def text? : Refusal → Option String
  | duplicateId literal => some ("Duplicate id " ++ literal ++ " in this FactorGraph")
  | notAMessageType text => some ("Not a message type: " ++ quote text)
  | untypedRank rank =>
    some ("PointMass value with " ++ Number.integerText rank ++ " dimensions has no message type")
  | undefinedVariance => some "variance of a matrix-valued PointMass is undefined"
  | covarianceShape shape length =>
    some ("MvGaussian: covariance shape " ++ shape.text ++ " does not match mean length "
      ++ Number.integerText length)
  | matrixNotFinite => none
  | disagreeingPoints places => places.map fun place =>
    "Product of point masses at " ++ place.1 ++ " and " ++ place.2 ++ " is empty"
  | dimensionMismatch left right =>
    some ("Cannot multiply MvGaussians of dimension " ++ Number.integerText left ++ " and "
      ++ Number.integerText right)
  | univariateGain node shape =>
    some (node ++ " has a " ++ shape.text ++ " gain; univariate messages need a 1x1 gain")
  | gainShape shape => some ("Gain must be a scalar or a matrix, got shape " ++ shape.text)
  | onlyConstants node =>
    some ("Only Constant nodes of this graph can be placeholders, got " ++ node)
  | ruleRegistered rule => some ("Rule " ++ rule.literal ++ " is already registered")
  | methodMissing rule =>
    some ("Approximate rule " ++ rule.literal ++ " needs an approximation method")
  | methodNotAllowed rule =>
    some ("Exact rule " ++ rule.literal ++ " cannot carry an approximation method")
  | outboundNotAType rule literal =>
    some ("Outbound pattern of rule " ++ rule.literal ++ " must be a MessageType, got " ++ literal)
  | unknownOperation operation => some ("Unknown opcode: " ++ operation)
  | unknownKind literal available =>
    some ("Unknown node kind " ++ literal ++ "; available: " ++ joinWith ", " available)
  | interfaceReference reference =>
    some ("Interface reference must look like 'node.interface', got " ++ quote reference)
  | noInterface kind id literal => some (kind ++ " " ++ id ++ " has no interface " ++ literal)
  | noNode literal => some ("No node with id " ++ literal ++ " in this FactorGraph")
  | slotNotComputed literal => some ("Message slot not computed: " ++ literal)
  | bufferNotFound literal => some ("Data buffer not found: " ++ literal)
  | noImplementation literal => some ("No implementation for rule " ++ literal)
  | unconnected node iface => some (node ++ "." ++ iface ++ " is not connected to a variable")
  | marginalMissing node literal =>
    some ("Mean-field rule on " ++ node ++ " needs the marginal of " ++ literal)
  | noProduct left right => some ("No product defined for " ++ left ++ " and " ++ right)

end Refusal

/-- Operations without a result for the values they met. -/
inductive Lapse where
  | zeroDivision
  | overflow
  | missingAttribute
  | outOfRange
  | missingKey (literal : String)
  | wrongType
  | badValue
  | singularMatrix
  | notImplemented
  | outOfMemory
  | nestedTooDeep
  | endlessOwnership
  | unreadableDocument
  | missingFile
  | isFolder
  | notAFolder
  | longName
  | unwritableName
  deriving DecidableEq, Repr

inductive Fault where
  | compile (fault : CompileFault)
  | refused (refusal : Refusal)
  | lapsed (lapse : Lapse)
  deriving DecidableEq, Repr

namespace Fault

/-- A compilation failure about which only the cause is known. -/
def ofCause (cause : CompileCause) : Fault := .compile { cause := cause }

def onNode (cause : CompileCause) (nodeId : Key) : Fault :=
  .compile { cause := cause, nodeId := some nodeId }

/-- Adds context to compilation failures; other failures carry none. -/
def addContext (entryIndex nodeId : Option Key) : Fault → Fault
  | .compile fault => .compile (fault.addContext entryIndex nodeId none)
  | other => other

end Fault

/-- Reading a message type, with the failure stated for the whole text. -/
def MessageType.readOrRefuse (text : String) : Except Fault MessageType :=
  match MessageType.read text with
  | .ok type => .ok type
  | .error .malformed => .error (.refused (.notAMessageType text))
  | .error .badNumeral => .error (.lapsed .badValue)

end SumProduct
