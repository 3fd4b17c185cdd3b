/-
Models described by documents.

A description lists nodes by name, edges between sockets, the schedule, the variables whose marginals
are wanted, and data buffers.  A socket is written as a node name and an interface name with a point
between them.  Descriptions are read from front to back, and the first part that cannot be used ends
the reading.
-/

import SumProduct.Network.Build
import SumProduct.Network.Ownership
import SumProduct.Schedule.Order
import SumProduct.Value.Buffer

set_option autoImplicit false

namespace SumProduct

structure Model where
  network : Network
  graph : GraphKey
  schedule : Schedule
  targets : List VariableKey
  data : Buffers
  deriving Inhabited

namespace Value

def entries : Value → Except Fault (List (String × Value))
  | record fields => .ok fields
  | _ => .error (.lapsed .missingAttribute)

def optional (name : String) (value : Value) : Except Fault (Option Value) := do
  return (← value.entries).lookup name

/-- Lists in a description are arrays of numbers; other values stay as they are. -/
def numeric : Value → Except Fault Value
  | list items => (list items).toTensor.map array
  | value => .ok value

end Value

/-- What an edge is asked to carry by a value: a named variable, a fresh one, or the value itself. -/
def Build.CarryRequest.ofValue : Value → Build.CarryRequest
  | .absent => .anonymous
  | .text id => .named id
  | value => .given (.stray value)

namespace Model

open Build (lift)

def kinds : List String :=
  ["Constant", "GaussianNode", "AdditionNode", "EqualityNode", "FixedGainNode"]

def addNodeOfKind (graph : GraphKey) (id : Key) (description kind : Value) : Build NodeKey := do
  if kind.isText "Constant" then
    let value ← lift (description.item (.text "value"))
    Build.addConstant (← lift value.numeric) (some id) (some graph)
  else if kind.isText "FixedGainNode" then
    let gain ← lift (description.item (.text "gain"))
    Build.addGain (← lift gain.numeric) (some id) (some graph)
  else match kind with
    | .text name =>
      if name ∈ kinds then Build.addFactor name (some id) (some graph)
      else throw (.refused (.unknownKind kind.literal kinds))
    | _ =>
      let _ ← lift kind.key
      throw (.refused (.unknownKind kind.literal kinds))

def bindNode (graph : GraphKey) (node : NodeKey) : Value → Build Unit
  | .absent => return ()
  | .text buffer => Build.bindPlaceholder graph node (.text buffer) .absent
  | binding => do
    let buffer ← lift (binding.item (.text "buffer"))
    let index ← lift (binding.optional "index")
    Build.bindPlaceholder graph node buffer (index.getD .absent)

def addDescribedNode (graph : GraphKey) (id : String) (description : Value) : Build Unit := do
  let kind ← lift (description.item (.text "kind"))
  let node ← addNodeOfKind graph id description kind
  let binding ← lift (description.optional "placeholder")
  bindNode graph node (binding.getD .absent)

/-- The node name and the interface name around the first point of a reference. -/
def splitReference (reference : String) : String × String :=
  let characters := reference.toList
  (String.ofList (characters.takeWhile (· != '.')),
    String.ofList ((characters.dropWhile (· != '.')).drop 1))

def findSocket (network : Network) (graph : GraphKey) : Value → Except Fault Socket
  | .text reference => do
    let (id, name) := splitReference reference
    if name.isEmpty then throw (.refused (.interfaceReference reference))
    let node ← network.findNode graph id
    let slot ← (network.node node).slot (.text name)
    return ⟨node, slot⟩
  | _ => .error (.lapsed .missingAttribute)

def socketField (network : Network) (graph : GraphKey) (description : Value) (name : String) :
    Except Fault Socket := do
  findSocket network graph (← description.item (.text name))

def addDescribedEdge (graph : GraphKey) (description : Value) : Build Unit := do
  let network ← get
  let first ← lift (socketField network graph description "a")
  let second ← lift (socketField network graph description "b")
  let carried ← lift (description.optional "variable")
  let _ ← Build.connect graph first second (.ofValue (carried.getD .absent))
  return ()

def readPin : Value → Except Fault Pattern
  | .text type => (MessageType.readOrRefuse type).map .typed
  | _ => .error (.lapsed .wrongType)

/-- What a schedule says: the sockets in order, pins and methods by socket. -/
structure Plan where
  sockets : List Socket := []
  pins : List (Socket × Option Pattern) := []
  approximations : List (Socket × Option Method) := []

namespace Plan

def add (plan : Plan) (socket : Socket) (pin : Option (Option Pattern))
    (method : Option (Option Method)) : Plan where
  sockets := plan.sockets ++ [socket]
  pins := match pin with
    | some type => Association.set socket type plan.pins
    | none => plan.pins
  approximations := match method with
    | some asked => Association.set socket asked plan.approximations
    | none => plan.approximations

/-- Adds a step, which is a socket alone or a record with a socket, a pin and a method. -/
def addStep (network : Network) (graph : GraphKey) (plan : Plan) (step : Value) :
    Except Fault Plan := do
  let step := match step with
    | .text reference => .record [("interface", .text reference)]
    | other => other
  let socket ← socketField network graph step "interface"
  let pin ← (← step.optional "pin").mapM readPin
  let method := (← step.optional "approximation").map Method.ofValue
  return plan.add socket (pin.map some) method

def schedule (network : Network) (plan : Plan) : Schedule :=
  network.schedule plan.sockets plan.pins plan.approximations

end Plan

def findTarget (graph : Graph) (name : Value) : Except Fault VariableKey := do
  match graph.vars.get? (← name.key) with
  | some key => return key
  | none => throw (.lapsed (.missingKey name.literal))

def readData (description : Value) : Except Fault Buffers := do
  (← description.entries).mapM fun field => do return (.text field.1, ← field.2.numeric)

def addDescribedNodes (description : Value) : Build GraphKey := do
  let graph ← Build.newGraph .absent
  let nodes ← lift (description.item (.text "nodes"))
  for (id, node) in ← lift nodes.entries do
    addDescribedNode graph id node
  return graph

def addDescribedEdges (graph : GraphKey) (edges : List Value) : Build Unit := do
  for edge in edges do
    addDescribedEdge graph edge

def build (description : Value) : Build Model := do
  let graph ← addDescribedNodes description
  let edges ← lift (description.item (.text "edges"))
  addDescribedEdges graph (← lift edges.elements)
  let network ← get
  let steps ← lift (description.item (.text "schedule"))
  let plan ← lift ((← lift steps.elements).foldlM (Plan.addStep network graph) {})
  let names ← lift (((← lift (description.optional "targets")).getD (.list [])).elements)
  let targets ← lift (names.mapM (findTarget (network.graph graph)))
  let data ← lift (readData ((← lift (description.optional "data")).getD (.record [])))
  return ⟨network, graph, plan.schedule network, targets, data⟩

def ofDescription (description : Value) : Except Fault Model :=
  match (build description).run {} with
  | .ok model _ => .ok model
  | .error fault _ => .error fault

end Model

end SumProduct
