/-
Schedules built from sockets, and the order of their entries.

`Network.schedule` lets every entry refer to the latest earlier entry that computes the message
arriving at each other socket of its node.  `checkOrder` tells whether a schedule has one reference
per other socket and whether all references point strictly backwards.
-/

import SumProduct.Network.Basic

set_option autoImplicit false

namespace SumProduct

/-- The reference of an entry to the message that arrives at a socket, as far as one has been noted. -/
def Network.reference (network : Network) (noted : SocketIndex) (socket : Socket) : Option Reference :=
  (network.partner? socket).bind fun partner =>
    (noted.lookup partner).map fun index => .entry index

def Network.entryFor (network : Network) (pins : List (Socket × Option Pattern))
    (approximations : List (Socket × Option Method)) (noted : SocketIndex) (socket : Socket) : Entry :=
  let pin := (pins.lookup socket).join
  { socket := socket
    inbounds := (network.otherSockets socket).map (network.reference noted)
    outbound := pin
    pinned := pin
    approximation := (approximations.lookup socket).join }

/-- The entries for sockets, the first of which has the given index. -/
def Network.scheduleFrom (network : Network) (pins : List (Socket × Option Pattern))
    (approximations : List (Socket × Option Method)) :
    (first : Nat) → (noted : SocketIndex) → List Socket → Schedule
  | _, _, [] => []
  | first, noted, socket :: rest =>
    network.entryFor pins approximations noted socket
      :: network.scheduleFrom pins approximations (first + 1) (noted.note socket first) rest

/-- A schedule that computes the messages on the given sockets in the given order.  Pins and methods
hold for every entry on their socket. -/
def Network.schedule (network : Network) (sockets : List Socket) (pins : List (Socket × Option Pattern))
    (approximations : List (Socket × Option Method)) : Schedule :=
  network.scheduleFrom pins approximations 0 [] sockets

def referencesText (references : List (Option Reference)) : String :=
  (Value.list (references.map Reference.optionValue)).literal

def Network.entryText (network : Network) (entry : Entry) : String :=
  network.placeText entry.socket ++ " <- " ++ referencesText entry.inbounds
    ++ (entry.outbound.map fun type => " : " ++ type.text).getD ""
    ++ (entry.rule.map fun rule => " via " ++ rule.plain).getD ""
    ++ (entry.approximation.map fun method => " (" ++ method.text ++ ")").getD ""

def Network.scheduleText (network : Network) (schedule : Schedule) : String :=
  Text.joinWith "\n" (("Schedule(" ++ Number.integerText schedule.length ++ " entries)")
    :: schedule.zipIdx.map fun entry =>
      "  " ++ Number.integerText entry.2 ++ ": " ++ network.entryText entry.1)

namespace Schedule

/-- The entry at an index, counted from the end if negative. -/
def entryAt (schedule : Schedule) (index : Int) : Except Fault Entry :=
  match (Value.place? schedule.length index).bind fun place => schedule[place]? with
  | some entry => .ok entry
  | none => .error (.lapsed .outOfRange)

def selected (schedule : Schedule) (indices : Option (List Int)) :
    Except Fault (List (Int × Entry)) :=
  (indices.getD ((List.range schedule.length).map Int.ofNat)).mapM fun index =>
    return (index, ← schedule.entryAt index)

/-- Arcs from what is referred to to the entries that refer to it, entry by entry. -/
def references (schedule : Schedule) : List (Reference × Nat) :=
  schedule.zipIdx.flatMap fun entry =>
    (entry.1.inbounds.filterMap id).map fun reference => (reference, entry.2)

/-- The references as keys; a collection cannot be a vertex of the dependency graph. -/
def keyedReferences (schedule : Schedule) : Except Fault (List (Key × Nat)) :=
  schedule.references.mapM fun arc => do return (← arc.1.toValue.key, arc.2)

/-- The vertices of the dependency graph: all entries, then what else is referred to. -/
def dependencyVertices (schedule : Schedule) (references : List (Key × Nat)) : List Key :=
  references.foldl (fun vertices arc =>
    if vertices.any arc.1.same then vertices else vertices ++ [arc.1])
    ((List.range schedule.length).map fun (index : Nat) => .whole index)

/-- The arcs of the dependency graph, grouped by source and without repetition. -/
def dependencyArcs (schedule : Schedule) (references : List (Key × Nat)) : List (Key × Nat) :=
  (schedule.dependencyVertices references).flatMap fun source =>
    ((references.filter fun arc => source.same arc.1).map fun arc => (source, arc.2)).eraseDups

end Schedule

/-- The first entry whose number of references is not the number of other sockets. -/
def Network.checkCounts (network : Network) : List (Entry × Nat) → Except Fault Unit
  | [] => .ok ()
  | (entry, index) :: rest =>
    let node := network.node entry.socket.node
    let expected : Int := (node.interfaces.length : Int) - 1
    if (entry.inbounds.length : Int) = expected then network.checkCounts rest
    else .error (.compile {
      cause := .referenceCount entry.inbounds.length node.kind.plain expected
      entryIndex := some (.whole index)
      nodeId := some node.id })

/-- The first arc that does not lead from an entry to a later one. -/
def Network.checkArcs (network : Network) (schedule : Schedule) :
    List (Key × Nat) → Except Fault Unit
  | [] => .ok ()
  | (source, target) :: rest => do
    if ← (Reference.given source.toValue).isBefore target then network.checkArcs schedule rest
    else throw (.compile {
      cause := .referenceOrder source.plain
      entryIndex := some (.whole target)
      nodeId := (schedule[target]?).map fun entry => (network.node entry.socket.node).id })

def Network.checkOrder (network : Network) (schedule : Schedule) : Except Fault Unit := do
  network.checkCounts schedule.zipIdx
  network.checkArcs schedule (schedule.dependencyArcs (← schedule.keyedReferences))

end SumProduct
