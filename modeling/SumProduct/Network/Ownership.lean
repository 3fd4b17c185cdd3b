/-
Which graph owns which nodes, and which composite node owns which inner graph.

Ownership is explored with a stack of graphs.  Vertices are kept in the order in which they were
first met and arcs in the order in which they were added, so the tree can be listed and walked in a
fixed order.  The exploration ends exactly when no graph owns itself through a chain of composite
nodes; `pathCount` decides this and says how many graphs are taken from the stack.
-/

import SumProduct.Network.Basic

set_option autoImplicit false

namespace SumProduct

inductive Owner where
  | graph (key : GraphKey)
  | node (key : NodeKey)
  deriving DecidableEq, Repr, Inhabited

/-- Vertices in order of first occurrence, each with its successors in order of insertion. -/
abbrev OwnershipTree := List (Owner × List Owner)

namespace OwnershipTree

def addVertex (tree : OwnershipTree) (vertex : Owner) : OwnershipTree :=
  if (tree.lookup vertex).isSome then tree else tree ++ [(vertex, [])]

def addArc (tree : OwnershipTree) (source target : Owner) : OwnershipTree :=
  ((tree.addVertex source).addVertex target).map fun entry =>
    if entry.1 = source ∧ target ∉ entry.2 then (entry.1, entry.2 ++ [target]) else entry

def successors (tree : OwnershipTree) (vertex : Owner) : List Owner :=
  (tree.lookup vertex).getD []

/-- All arcs, grouped by their source. -/
def arcs (tree : OwnershipTree) : List (Owner × Owner) :=
  tree.flatMap fun entry => entry.2.map fun target => (entry.1, target)

/-- Vertices reached from those on the stack, each listed when it is first met and followed by what
is reached from it. -/
def preorder (tree : OwnershipTree) : (fuel : Nat) → (stack seen : List Owner) → List Owner
  | 0, _, seen => seen
  | _ + 1, [], seen => seen
  | fuel + 1, vertex :: stack, seen =>
    if vertex ∈ seen then preorder tree fuel stack seen
    else preorder tree fuel (tree.successors vertex ++ stack) (seen ++ [vertex])

/-- Enough steps to walk the whole tree: every vertex and every arc is looked at once. -/
def size (tree : OwnershipTree) : Nat :=
  tree.length + tree.arcs.length + 1

end OwnershipTree

namespace Network

def innerGraphs (network : Network) (key : GraphKey) : List GraphKey :=
  (network.graph key).nodes.filterMap fun entry => (network.node entry.2).inner?

/-- The number of ownership chains that start at a graph, if all have at most `depth` links. -/
def pathCount (network : Network) : (depth : Nat) → GraphKey → Option Nat
  | 0, _ => none
  | depth + 1, key =>
    (network.innerGraphs key).foldlM (fun count inner =>
      (network.pathCount depth inner).map (count + ·)) 1

/-- Adds a graph's nodes and the inner graphs owned by them to a tree. -/
def expandGraph (network : Network) (tree : OwnershipTree) (key : GraphKey) : OwnershipTree :=
  (network.graph key).nodes.foldl (fun tree entry =>
    let owned := tree.addArc (.graph key) (.node entry.2)
    match (network.node entry.2).inner? with
    | some inner => owned.addArc (.node entry.2) (.graph inner)
    | none => owned) tree

/-- Takes graphs from the stack until it is empty; inner graphs are put on top of it. -/
def growTree (network : Network) : (fuel : Nat) → (stack : List GraphKey) → OwnershipTree →
    OwnershipTree
  | 0, _, tree => tree
  | _ + 1, [], tree => tree
  | fuel + 1, key :: stack, tree =>
    growTree network fuel ((network.innerGraphs key).reverse ++ stack) (network.expandGraph tree key)

/-- The ownership tree below a graph, unless ownership runs in a circle. -/
def ownershipTree? (network : Network) (key : GraphKey) : Option OwnershipTree :=
  (network.pathCount (network.graphs.size + 1) key).map fun count =>
    network.growTree count [key] [(.graph key, [])]

def allNodes? (network : Network) (key : GraphKey) : Option (List NodeKey) :=
  (network.ownershipTree? key).map fun tree =>
    (tree.preorder tree.size [.graph key] []).filterMap fun owner => match owner with
      | .node node => some node
      | .graph _ => none

/-- All nodes below a graph.  An inner value that is no graph is not skipped, and opening it fails. -/
def allNodes (network : Network) (key : GraphKey) : Except Fault (List NodeKey) :=
  match network.allNodes? key with
  | some nodes =>
    if nodes.any fun node => (network.node node).isHollow then .error (.lapsed .missingAttribute)
    else .ok nodes
  | none => .error (.lapsed .endlessOwnership)

/-- The node with a name: one of the graph itself, or else the first one inside it. -/
def findNode (network : Network) (key : GraphKey) (id : Key) : Except Fault NodeKey :=
  match (network.graph key).nodes.get? id with
  | some node => .ok node
  | none => do
    match (← network.allNodes key).find? fun node => (network.node node).id.same id with
    | some node => return node
    | none => throw (.refused (.noNode id.literal))

def graphText (network : Network) (key : GraphKey) : Except Fault String := do
  let graph := network.graph key
  let all ← network.allNodes key
  return "FactorGraph(nodes=" ++ Number.integerText graph.nodes.length ++ " ("
    ++ Number.integerText all.length ++ " including child nodes), edges="
    ++ Number.integerText graph.edges.length ++ ")"

end Network

end SumProduct
