/-
Building networks.

Every operation runs in `Build`, which keeps the network also when the operation fails: a refused
connection may have created a variable and used up an edge name before it was refused.  The order of
checks and changes inside an operation is therefore part of what it does.
-/

import SumProduct.Network.Basic

set_option autoImplicit false

namespace SumProduct

/-- Computations on a network that keep the network reached so far when they fail. -/
abbrev Build := EStateM Fault Network

namespace Network

def modifyGraph (network : Network) (key : GraphKey) (change : Graph → Graph) : Network :=
  { network with graphs := network.graphs.modify key change }

def modifyNode (network : Network) (key : NodeKey) (change : Node → Node) : Network :=
  { network with nodes := network.nodes.modify key change }

def modifyVariable (network : Network) (key : VariableKey) (change : Variable → Variable) :
    Network :=
  { network with vars := network.vars.modify key change }

def joinSocket (network : Network) (socket : Socket) (key : EdgeKey) : Network :=
  network.modifyNode socket.node fun node =>
    { node with interfaces := node.interfaces.modify socket.slot fun interface =>
        { interface with edge := some key } }

end Network

namespace Build

/-- Takes over a result that does not depend on the network. -/
def lift {α : Type} : Except Fault α → Build α
  | .ok value => pure value
  | .error fault => throw fault

def newGraph (name : Value) : Build GraphKey := do
  let network ← get
  set { network with graphs := network.graphs.push { name := name } }
  return network.graphs.size

/-- The current graph, which is created when first asked for. -/
def currentGraph : Build GraphKey := do
  match (← get).current with
  | some key => return key
  | none =>
    let key ← newGraph .absent
    modify fun network => { network with current := some key }
    return key

/-- Replaces the current graph and returns the previous one. -/
def setCurrent (key : Option GraphKey) : Build (Option GraphKey) := do
  let previous := (← get).current
  modify fun network => { network with current := key }
  return previous

/-! ### Nodes -/

def register (graph : GraphKey) (id : Option Key) (kind : Value) (role : Role)
    (interfaces : List Key) : Build NodeKey := do
  let network ← get
  let (name, ids) ← lift ((network.graph graph).nodeIds.assign id kind)
  let key := network.nodes.size
  let node : Node :=
    ⟨name, graph, kind, role, interfaces.map fun interface => { name := interface }⟩
  set ({ network with nodes := network.nodes.push node }.modifyGraph graph fun contents =>
    { contents with nodeIds := ids, nodes := Table.put name key contents.nodes })
  return key

def chooseGraph (graph : Option GraphKey) : Build GraphKey :=
  match graph with
  | some key => return key
  | none => currentGraph

def addNode (kind : Value) (role : Role) (interfaces : List Key) (id : Option Key)
    (graph : Option GraphKey) : Build NodeKey := do
  register (← chooseGraph graph) id kind role interfaces

/-- Kinds of nodes without data of their own, with their interfaces. -/
def factorKinds : List (String × List Key) :=
  [("Node", []), ("GaussianNode", ["mean", "variance", "out"]),
   ("AdditionNode", ["in1", "in2", "out"]), ("EqualityNode", ["a", "b", "c"])]

def addFactor (kind : String) (id : Option Key) (graph : Option GraphKey) : Build NodeKey :=
  addNode (.text kind) .factor ((factorKinds.lookup kind).getD []) id graph

def addConstant (value : Value) (id : Option Key) (graph : Option GraphKey) : Build NodeKey :=
  addNode (.text "Constant") (.constant value) ["out"] id graph

def addTerminal (id : Option Key) (graph : Option GraphKey) : Build NodeKey :=
  addNode (.text "Terminal") .terminal ["out"] id graph

def addGain (gain : Value) (id : Option Key) (graph : Option GraphKey) : Build NodeKey := do
  let held ← lift (gainMatrix gain)
  addNode (.text "FixedGainNode") (.gain held) ["in", "out"] id graph

/-- Kinds of nodes that are not plain factors. -/
def specialKinds : List String := ["Constant", "Terminal", "FixedGainNode", "CompositeNode"]

/-- Adds a node of the named kind.  Constants and gain nodes hold a value, other nodes hold none, and
a composite node cannot be made in this way. -/
def addOfKind (kind : String) (held : Option Value) (id : Value) (graph : Option GraphKey) :
    Build NodeKey := do
  match kind, held with
  | "Constant", some value => addConstant value (← lift id.key?) graph
  | "FixedGainNode", some gain =>
    let _ ← lift (gainMatrix gain)
    addGain gain (← lift id.key?) graph
  | "Terminal", none => addTerminal (← lift id.key?) graph
  | _, _ =>
    let plain := (factorKinds.lookup kind).isSome
    if !plain && !specialKinds.contains kind then throw (.lapsed (.missingKey (Text.quote kind)))
    if !plain || held.isSome then throw (.lapsed .wrongType)
    addFactor kind (← lift id.key?) graph

/-- Terminals have to be terminals of the inner graph. -/
def checkTerminals (inner : Option GraphKey) : List Offer → Build (List NodeKey)
  | [] => return []
  | .other text :: _ => throw (.ofCause (.notATerminal text))
  | .node key :: rest => do
    let node := (← get).node key
    if node.isTerminal && inner = some node.graph then return key :: (← checkTerminals inner rest)
    else throw (.ofCause (.notATerminal node.text))

/-- A composite node exposes one interface per terminal, named after it.  It must not own the graph
it lives in; that is noticed only after the node has been registered. -/
def addComposite (inner : Option GraphKey) (offered : List Offer) (kind : Option Value)
    (id : Option Key) (graph : Option GraphKey) : Build NodeKey := do
  let terminals ← checkTerminals inner offered
  let network ← get
  let key ← addNode (kind.getD (.text "CompositeNode")) (.composite inner terminals [])
    (terminals.map fun terminal => (network.node terminal).id) id graph
  let node := (← get).node key
  if inner = some node.graph then throw (.onNode (.ownsItself node.id.plain) node.id)
  return key

/-! ### Variables and edges -/

def addVariable (graph : GraphKey) (id : Option Key) : Build VariableKey := do
  let network ← get
  let (name, ids) ← lift ((network.graph graph).variableIds.assign id (.text "variable"))
  let key := network.vars.size
  set ({ network with vars := network.vars.push { id := name } }.modifyGraph graph
    fun contents =>
      { contents with variableIds := ids, vars := Table.put name key contents.vars })
  return key

/-- How a caller may say what an edge carries. -/
inductive CarryRequest where
  | anonymous
  | named (id : String)
  | given (carried : Carried)

/-- Finds or creates what the edge is to carry. -/
def provide (graph : GraphKey) : CarryRequest → Build Carried
  | .anonymous => return .variable (← addVariable graph none)
  | .named id => do
    match ((← get).graph graph).vars.get? id with
    | some key => return .variable key
    | none => return .variable (← addVariable graph (some (.text id)))
  | .given carried => return carried

def generateEdgeId (graph : GraphKey) : Build String := do
  let network ← get
  let (id, ids) := (network.graph graph).edgeIds.generate "edge"
  set (network.modifyGraph graph fun contents => { contents with edgeIds := ids })
  return id

/-- Both sockets have to belong to the graph. -/
def checkOwner (graph : GraphKey) (socket : Socket) : Build Unit := do
  let network ← get
  let node := network.node socket.node
  if node.graph ≠ graph then throw (.onNode (.foreignInterface (network.socketText socket)) node.id)

/-- A socket joins at most one edge. -/
def checkFree (socket : Socket) : Build Unit := do
  let network ← get
  if (network.edgeAt? socket).isSome then
    throw (.onNode (.alreadyConnected (network.socketText socket)) (network.node socket.node).id)

/-- Adds an edge to those of its variable; a stray value keeps no list of edges. -/
def attach (key : EdgeKey) : Carried → Build Unit
  | .variable variableKey => modify fun network =>
      network.modifyVariable variableKey fun contents =>
        { contents with edges := contents.edges ++ [key] }
  | .stray _ => throw (.lapsed .missingAttribute)

def connect (graph : GraphKey) (first second : Socket) (request : CarryRequest) : Build EdgeKey := do
  checkOwner graph first
  checkOwner graph second
  let carried ← provide graph request
  let id ← generateEdgeId graph
  if first.node = second.node then
    let nodeId := ((← get).node first.node).id
    throw (.onNode (.selfLoop id nodeId.plain) nodeId)
  checkFree first
  checkFree second
  let key := (← get).edges.size
  modify fun network =>
    ({ network with edges := network.edges.push ⟨id, first, second, carried⟩ }.joinSocket first key)
      |>.joinSocket second key
  attach key carried
  modify fun network => network.modifyGraph graph fun contents =>
    { contents with edges := contents.edges ++ [key] }
  return key

/-! ### Placeholders and inner schedules -/

def bindPlaceholder (graph : GraphKey) (node : NodeKey) (buffer index : Value) : Build Unit := do
  let contents := (← get).node node
  if contents.isConstant && contents.graph = graph then
    modify fun network => network.modifyGraph graph fun owner =>
      { owner with placeholders := Table.put contents.id ⟨buffer, index⟩ owner.placeholders }
  else throw (.refused (.onlyConstants contents.text))

/-- Feeds what is offered from a data buffer if it is a constant of the graph. -/
def bindOffered (graph : GraphKey) (offered : Offer) (buffer index : Value) : Build NodeKey :=
  match offered with
  | .node key => do
    bindPlaceholder graph key buffer index
    return key
  | .other text => throw (.refused (.onlyConstants text))

/-- The index of the entry that computes the message on a socket.  Where the socket is there, what was
given has to be a schedule. -/
def computedIndex (schedule : Option Schedule) : Option Socket → Except Fault (Option Nat)
  | none => .ok none
  | some socket =>
    match schedule with
    | some entries => .ok (entries.indexOf socket)
    | none => .error (.lapsed .missingAttribute)

/-- Gives a composite node the schedule that computes its message on a slot.  The schedule has to
compute the message toward the terminal behind that slot; what is no schedule computes nothing. -/
def defineSchedule (key : NodeKey) (slot : Value) (schedule : Option Schedule) : Build Unit := do
  let network ← get
  let node := network.node key
  match node.role with
  | .composite inner terminals schedules =>
    let index ← lift (node.slot slot)
    let terminal := (terminals[index]?).getD 0
    let computed ← lift (computedIndex schedule (network.partner? ⟨terminal, 0⟩))
    if computed.isSome then
      modify fun network => network.modifyNode key fun contents =>
        { contents with
          role := .composite inner terminals
            (Association.set index (schedule.getD []) schedules) }
    else throw (.onNode (.innerScheduleMisses node.id.plain (network.node terminal).id.plain) node.id)
  | _ => throw (.lapsed .missingAttribute)

end Build

/-- The binding of a node that belongs to the graph and is fed from a buffer. -/
def Network.isPlaceholder (network : Network) (graph : GraphKey) (key : NodeKey) : Bool :=
  let node := network.node key
  node.graph = graph && (network.graph graph).placeholders.contains node.id

end SumProduct
