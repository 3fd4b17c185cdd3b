/-
Resolution: which rule computes each entry, and which type results.

Entries are resolved in schedule order.  A leaf takes the type of its held value or the type
supplied for it.  A composite node with an inner schedule resolves that schedule with the arriving
types on its terminals.  Every other entry looks for an exact rule and, if there is none, for an
approximate one; several matching rules are an ambiguity.  A pinned entry accepts only rules that
produce its pin.

Inner schedules may mention the composite node they belong to.  Nesting is therefore bounded by an
explicit depth, beyond which resolution is given up.
-/

import SumProduct.Network.Basic
import SumProduct.Rules.Catalog
import SumProduct.Schedule.Order

set_option autoImplicit false

namespace SumProduct

/-- Types supplied for leaves, by the name of the node. -/
abbrev LeafTypes := Table (Option Pattern)

structure Resolver where
  network : Network
  catalog : Catalog

namespace Resolver

def arrivingType (resolver : Resolver) (index : Int) (resolved : Int → Option Entry) :
    Socket × Option Reference → Except Fault (Option Pattern)
  | (_, none) => .ok none
  | (socket, some reference) => do
    if !(← reference.isBefore index) then throw (.ofCause (.referenceOrder reference.text))
    match reference.index?.bind resolved with
    | none => throw (.ofCause (.referenceUnresolved reference.text))
    | some earlier =>
      if !earlier.isResolved then throw (.ofCause (.referenceUnresolved reference.text))
      else if resolver.network.partner? socket = some earlier.socket then return earlier.outbound
      else
        throw (.ofCause (.referenceElsewhere reference.text (resolver.network.socketText socket)))

def arrivingTypes (resolver : Resolver) (entry : Entry) (index : Int)
    (resolved : Int → Option Entry) : Except Fault (List (Option Pattern)) :=
  let others := resolver.network.otherSockets entry.socket
  if entry.inbounds.length ≠ others.length then
    .error (.ofCause (.referenceCount entry.inbounds.length
      (resolver.network.node entry.socket.node).kind.plain others.length))
  else (others.zip entry.inbounds).mapM (resolver.arrivingType index resolved)

def leafType (leafTypes : LeafTypes) (node : Node) : Except Fault (Option Pattern) :=
  match leafTypes.get? node.id with
  | some type => .ok type
  | none =>
    match node.role with
    | .constant value => value.messageType.map fun type => some (.typed type)
    | _ => .error (.ofCause (.untypedTerminal node.id.plain))

/-- A leaf keeps its type; a pin has to be the same type. -/
def resolveLeaf (leafTypes : LeafTypes) (node : Node) (entry : Entry) : Except Fault Entry := do
  let outbound ← leafType leafTypes node
  match entry.pinned with
  | some pinned =>
    if some pinned ≠ outbound then throw (.ofCause (.leafPin pinned outbound))
  | none => pure ()
  return { entry with outbound := outbound, status := .leaf }

def supplyType (resolver : Resolver) (types : LeafTypes) : NodeKey × Option Pattern → LeafTypes
  | (terminal, some type) => Table.put (resolver.network.node terminal).id (some type) types
  | (_, none) => types

def terminalTypes (resolver : Resolver) (node : Node) (slot : Nat)
    (arriving : List (Option Pattern)) : LeafTypes :=
  ((node.terminals.eraseIdx slot).zip arriving).foldl resolver.supplyType []

/-- The entry of an inner schedule whose message arrives at the terminal behind a slot. -/
def resultIndex? (network : Network) (node : Node) (slot : Nat) (inner : Schedule) : Option Nat :=
  (node.terminals[slot]?).bind fun terminal =>
    (network.partner? ⟨terminal, 0⟩).bind inner.indexOf

def resolveComposite (resolver : Resolver) (node : Node) (entry : Entry)
    (arriving : List (Option Pattern)) (inner : Schedule) : Except Fault Entry := do
  match (resultIndex? resolver.network node entry.socket.slot inner).bind fun index => inner[index]? with
  | none => throw (.lapsed .wrongType)
  | some result =>
    match entry.pinned with
    | some pinned =>
      if some pinned ≠ result.outbound then
        throw (.compile { cause := .innerPin pinned result.outbound, inboundTypes := some arriving })
    | none => pure ()
    return { entry with
      outbound := result.outbound
      rule := some (.text (node.kind.plain ++ "." ++ node.interfaceName entry.socket.slot))
      status := .composite
      inner := some inner }

def accept (node : Node) (entry : Entry) (candidate : Candidate) (status : Status)
    (outbound : Option Pattern) : Except Fault Entry := do
  let type ← match outbound with
    | some type => pure type
    | none => (candidate.outbound (some node.facts)).map .typed
  return { entry with
    outbound := some type
    rule := some candidate.rule.id.toValue
    approximation := candidate.rule.approximation
    status := status }

def ambiguity (resolver : Resolver) (node : Node) (entry : Entry) (candidates : List Candidate)
    (arriving : List (Option Pattern)) (hint : String) : Fault :=
  .compile {
    cause := .ambiguous (resolver.network.placeText entry.socket)
      (candidates.map fun candidate => (candidate.rule.id.plain, candidate.describe (some node.facts))) hint
    inboundTypes := some arriving }

def matching (resolver : Resolver) (node : Node) (entry : Entry)
    (arriving : List (Option Pattern)) (category : Category) : Except Fault (List Candidate) := do
  let bucket ← Bucket.of node.kind (.whole entry.socket.slot) category
  resolver.catalog.lookup bucket arriving
    (if category = .exact then none else entry.approximation) (some node.facts)

/-- The unpinned case: exact rules first, then approximate ones. -/
def infer (resolver : Resolver) (node : Node) (entry : Entry) (arriving : List (Option Pattern)) :
    Except Fault Entry := do
  match ← resolver.matching node entry arriving .exact with
  | [candidate] => accept node entry candidate .exact none
  | [] =>
    match ← resolver.matching node entry arriving .approximate with
    | [candidate] => accept node entry candidate .approximate none
    | [] => throw (.compile {
        cause := .noRule (resolver.network.placeText entry.socket), inboundTypes := some arriving })
    | several => throw (resolver.ambiguity node entry several arriving
        "Please pin the outbound message type and if required also an approximation method.")
  | several => throw (resolver.ambiguity node entry several arriving
      "Please pin the outbound message type.")

/-- The pinned case: only rules that produce the pin count. -/
def validatePin (resolver : Resolver) (node : Node) (entry : Entry)
    (arriving : List (Option Pattern)) (pinned : Pattern) : Except Fault Entry := do
  let producing := fun (candidates : List Candidate) =>
    candidates.filter fun candidate => candidate.produces pinned (some node.facts)
  match producing (← resolver.matching node entry arriving .exact) with
  | [candidate] => accept node entry candidate .exact (some pinned)
  | [] =>
    match producing (← resolver.matching node entry arriving .approximate) with
    | [candidate] => accept node entry candidate .approximate (some pinned)
    | [] => throw (.compile {
        cause := .unproduciblePin pinned (resolver.network.placeText entry.socket)
        inboundTypes := some arriving })
    | several => throw (resolver.ambiguity node entry several arriving
        "Several approximate rules produce the pinned type; please pin an approximation method.")
  | several => throw (resolver.ambiguity node entry several arriving
      "Several exact rules produce the pinned type.")

/-- Resolves one entry, given how inner schedules are resolved.  Failures show the index as `place`. -/
def resolveEntryWith (resolver : Resolver)
    (resolveInner : LeafTypes → Schedule → Except Fault Schedule) (leafTypes : LeafTypes)
    (entry : Entry) (index : Int) (place : Key) (resolved : Int → Option Entry) :
    Except Fault Entry :=
  let node := resolver.network.node entry.socket.node
  let outcome : Except Fault Entry := do
    let arriving ← resolver.arrivingTypes entry index resolved
    if node.isLeaf then resolveLeaf leafTypes node entry
    else
      match node.innerSchedule? entry.socket.slot with
      | some schedule =>
        let inner ← resolveInner (resolver.terminalTypes node entry.socket.slot arriving) schedule
        resolver.resolveComposite node entry arriving inner
      | none =>
        match entry.pinned with
        | some pinned => resolver.validatePin node entry arriving pinned
        | none => resolver.infer node entry arriving
  outcome.mapError (Fault.addContext (some place) (some node.id))

/-- The entries resolved before the first failure, and the failure if there is one. -/
def resolvePrefixWith (resolver : Resolver)
    (resolveInner : LeafTypes → Schedule → Except Fault Schedule) (leafTypes : LeafTypes) :
    (done : Schedule) → (rest : Schedule) → Schedule × Option Fault
  | done, [] => (done, none)
  | done, entry :: rest =>
    match resolver.resolveEntryWith resolveInner leafTypes entry done.length (.whole done.length)
        (fun index => if 0 ≤ index then done[index.toNat]? else none) with
    | .ok result => resolver.resolvePrefixWith resolveInner leafTypes (done ++ [result]) rest
    | .error fault => (done, some fault)

def nestingLimit : Nat := 325

/-- Resolves a schedule whose inner schedules are nested at most `depth` deep. -/
def resolveAtDepth (resolver : Resolver) : (depth : Nat) → LeafTypes → Schedule → Except Fault Schedule
  | 0, _, _ => .error (.lapsed .nestedTooDeep)
  | depth + 1, leafTypes, schedule =>
    match resolver.resolvePrefixWith (resolver.resolveAtDepth depth) leafTypes [] schedule with
    | (resolved, none) => .ok resolved
    | (_, some fault) => .error fault

def resolve (resolver : Resolver) (leafTypes : LeafTypes) (schedule : Schedule) :
    Except Fault Schedule :=
  resolver.resolveAtDepth nestingLimit leafTypes schedule

def resolvedPart (resolver : Resolver) (leafTypes : LeafTypes) (schedule : Schedule) : Schedule :=
  (resolver.resolvePrefixWith (resolver.resolveAtDepth (nestingLimit - 1)) leafTypes [] schedule).1

def resolveEntry (resolver : Resolver) (leafTypes : LeafTypes) (entry : Entry) (index : Int)
    (place : Key) (resolved : Int → Option Entry) : Except Fault Entry :=
  resolver.resolveEntryWith (resolver.resolveAtDepth (nestingLimit - 1)) leafTypes entry index place
    resolved

end Resolver

end SumProduct
