/-
Factor graphs, their nodes, edges and variables, kept together in one network.

Everything in a network has a key, so that graphs may be shared, a node may refer to the graph it
lives in, and an edge may carry a variable of another graph.  A node has a fixed list of interfaces;
an interface knows the edge it joins, and an edge its two sockets.  A composite node owns an inner
graph and exposes one interface per terminal of it.
-/

import SumProduct.Identifier
import SumProduct.Matching
import SumProduct.Schedule.Basic

set_option autoImplicit false

namespace SumProduct

structure Interface where
  name : Key
  edge : Option EdgeKey := none
  deriving Repr, Inhabited

/-- What sets nodes apart besides their kind. -/
inductive Role where
  | factor
  | constant (value : Value)
  | terminal
  | gain (gain : Gain)
  /-- A node that owns an inner graph; `none` stands for an inner value that is no graph. -/
  | composite (inner : Option GraphKey) (terminals : List NodeKey)
      (schedules : List (Nat × Schedule))
  deriving Inhabited

/-- A node.  The kind is a name as a rule, but a composite node may be given any value as its kind. -/
structure Node where
  id : Key
  graph : GraphKey
  kind : Value
  role : Role
  interfaces : List Interface
  deriving Inhabited

/-- A variable: the name of its marginal and the edges that carry it. -/
structure Variable where
  id : Key
  edges : List EdgeKey := []
  deriving Repr, Inhabited

/-- What an edge carries: a variable, or a value that is none. -/
inductive Carried where
  | variable (key : VariableKey)
  | stray (value : Value)
  deriving Inhabited

structure Edge where
  id : String
  first : Socket
  second : Socket
  carried : Carried
  deriving Inhabited

/-- The data buffer that feeds a constant; an absent index reads the whole buffer. -/
structure Placeholder where
  buffer : Value
  index : Value
  deriving Inhabited

structure Graph where
  name : Value := .absent
  nodeIds : IdRegistry := {}
  variableIds : IdRegistry := {}
  edgeIds : IdRegistry := {}
  nodes : Table NodeKey := []
  edges : List EdgeKey := []
  vars : Table VariableKey := []
  placeholders : Table Placeholder := []
  deriving Inhabited

structure Network where
  graphs : Array Graph := #[]
  nodes : Array Node := #[]
  edges : Array Edge := #[]
  vars : Array Variable := #[]
  current : Option GraphKey := none
  deriving Inhabited

namespace Node

/-- Leaves produce their message without a rule. -/
def isLeaf (node : Node) : Bool :=
  match node.role with
  | .constant _ | .terminal => true
  | _ => false

def isTerminal (node : Node) : Bool :=
  match node.role with
  | .terminal => true
  | _ => false

def isConstant (node : Node) : Bool :=
  match node.role with
  | .constant _ => true
  | _ => false

def inner? (node : Node) : Option GraphKey :=
  match node.role with
  | .composite inner _ _ => inner
  | _ => none

def isComposite (node : Node) : Bool :=
  match node.role with
  | .composite .. => true
  | _ => false

/-- A composite node whose inner value is something other than a graph.  This is not a missing inner value,
which ownership would skip and which has no representation here. -/
def isHollow (node : Node) : Bool := node.isComposite && node.inner?.isNone

def terminals (node : Node) : List NodeKey :=
  match node.role with
  | .composite _ terminals _ => terminals
  | _ => []

def innerSchedule? (node : Node) (slot : Nat) : Option Schedule :=
  match node.role with
  | .composite _ _ schedules => schedules.lookup slot
  | _ => none

def held (node : Node) : Except Fault Value :=
  match node.role with
  | .constant value => .ok value
  | _ => .error (.lapsed .missingAttribute)

def gain (node : Node) : Except Fault (Tensor Float) :=
  match node.role with
  | .gain gain => .ok gain.matrix
  | _ => .error (.lapsed .missingAttribute)

/-- Type parameters that a node knows by itself: the extents of its gain. -/
def static (node : Node) (name : String) : Option Int :=
  match node.role with
  | .gain gain =>
    if name = "dims_n" then some gain.rows
    else if name = "dims_m" then some gain.cols
    else none
  | _ => none

def facts (node : Node) : NodeFacts := ⟨node.id, fun name => .ok (node.static name)⟩

def text (node : Node) : String := node.kind.plain ++ "(" ++ node.id.plain ++ ")"

def interfaceName (node : Node) (slot : Nat) : String :=
  ((node.interfaces[slot]?).map fun interface => interface.name.plain).getD ""

/-- The slot of an interface by position or by name; of equal names the last one counts. -/
def slot (node : Node) (key : Value) : Except Fault Nat :=
  match key.toIndex? with
  | some index =>
    match Value.place? node.interfaces.length index with
    | some slot => .ok slot
    | none => .error (.lapsed .outOfRange)
  | none => do
    let name ← key.key
    match node.interfaces.zipIdx.reverse.find? fun entry => entry.1.name.same name with
    | some entry => return entry.2
    | none => throw (.refused (.noInterface node.kind.plain node.id.plain key.literal))

end Node

namespace Network

def graph (network : Network) (key : GraphKey) : Graph := network.graphs.getD key default

def node (network : Network) (key : NodeKey) : Node := network.nodes.getD key default

def edge (network : Network) (key : EdgeKey) : Edge := network.edges.getD key default

def var (network : Network) (key : VariableKey) : Variable := network.vars.getD key default

def interface? (network : Network) (socket : Socket) : Option Interface :=
  (network.node socket.node).interfaces[socket.slot]?

def edgeAt? (network : Network) (socket : Socket) : Option EdgeKey :=
  (network.interface? socket).bind Interface.edge

def partner? (network : Network) (socket : Socket) : Option Socket :=
  (network.edgeAt? socket).map fun key =>
    let edge := network.edge key
    if edge.first = socket then edge.second else edge.first

def carriedAt? (network : Network) (socket : Socket) : Option Carried :=
  (network.edgeAt? socket).map fun key => (network.edge key).carried

def sockets (network : Network) (key : NodeKey) : List Socket :=
  (List.range (network.node key).interfaces.length).map fun slot => ⟨key, slot⟩

/-- The sockets of a node other than the given one, in order. -/
def otherSockets (network : Network) (socket : Socket) : List Socket :=
  (network.sockets socket.node).filter (· ≠ socket)

/-- The placeholder binding of a node, by its name in its own graph. -/
def placeholder? (network : Network) (key : NodeKey) : Option Placeholder :=
  let node := network.node key
  (network.graph node.graph).placeholders.get? node.id

/-! ### Names -/

def socketName (network : Network) (socket : Socket) : String :=
  (network.node socket.node).id.plain ++ "." ++ (network.node socket.node).interfaceName socket.slot

def socketText (network : Network) (socket : Socket) : String :=
  "Interface(" ++ network.socketName socket ++ ")"

/-- A node kind with a socket name: the place of a computation. -/
def placeText (network : Network) (socket : Socket) : String :=
  (network.node socket.node).kind.plain ++ " " ++ network.socketName socket

def variableText (network : Network) (key : VariableKey) : String :=
  "Variable(" ++ (network.var key).id.plain ++ ")"

def carriedText (network : Network) : Carried → String
  | .variable key => network.variableText key
  | .stray value => value.literal

/-- An edge shows the name of its variable; a stray value has none. -/
def edgeText (network : Network) (key : EdgeKey) : Except Fault String :=
  let edge := network.edge key
  match edge.carried with
  | .variable variableKey => .ok ("Edge(" ++ edge.id ++ ": " ++ network.socketText edge.first ++ " -- "
      ++ network.socketText edge.second ++ ", " ++ (network.var variableKey).id.plain ++ ")")
  | .stray _ => .error (.lapsed .missingAttribute)

end Network

end SumProduct
