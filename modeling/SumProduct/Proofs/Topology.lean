/-
The topology of every network that can be built.

Interfaces, edges, variables and graphs refer to each other in both directions.  That these references
fit together is kept by every change: the lists of a graph and of a variable are at all times the nodes
and edges that belong to them, in the order in which they were made.  The properties of a network that
others rely on follow from this.
-/

import SumProduct.Proofs.Construction
import SumProduct.Proofs.Identifiers
import SumProduct.Proofs.Registration

set_option autoImplicit false

namespace SumProduct

/-- The edge carries the variable. -/
def Edge.carries (edge : Edge) (carried : VariableKey) : Bool :=
  match edge.carried with
  | .variable key => key = carried
  | .stray _ => false

namespace Network

/-- The node table of a graph: its nodes in the order in which they were made, under different names. -/
structure ListsNodes (network : Network) (key : GraphKey) (names : IdRegistry)
    (nodes : Table NodeKey) : Prop where
  table : nodes
    = ((List.range network.nodes.size).filter fun node => (network.node node).graph = key).map
        fun node => ((network.node node).id, node)
  taken : names.taken = nodes.map Prod.fst
  distinct : names.taken.Pairwise fun first second => first.same second = false

structure ListsVariables (network : Network) (names : IdRegistry) (vars : Table VariableKey) :
    Prop where
  table : ∀ entry ∈ vars, entry.2 < network.vars.size ∧ (network.var entry.2).id = entry.1
  taken : names.taken = vars.map Prod.fst
  distinct : names.taken.Pairwise fun first second => first.same second = false

/-- The edges of a graph; names that were used up without an edge are taken as well. -/
structure ListsEdges (network : Network) (key : GraphKey) (names : IdRegistry)
    (edges : List EdgeKey) : Prop where
  list : edges = (List.range network.edges.size).filter fun edge =>
    (network.node (network.edge edge).first.node).graph = key
  taken : (edges.map fun edge => Key.text (network.edge edge).id).Sublist names.taken
  distinct : names.taken.Pairwise fun first second => first.same second = false

/-- Placeholders stand for constants of the graph. -/
def BindsConstants (network : Network) (key : GraphKey) (placeholders : Table Placeholder) : Prop :=
  ∀ entry ∈ placeholders, ∃ node < network.nodes.size, (network.node node).graph = key ∧
    (network.node node).isConstant = true ∧ (network.node node).id = entry.1

structure Joins (network : Network) (key : EdgeKey) : Prop where
  first : network.edgeAt? (network.edge key).first = some key
  second : network.edgeAt? (network.edge key).second = some key
  apart : (network.edge key).first.node ≠ (network.edge key).second.node
  home : (network.node (network.edge key).first.node).graph
    = (network.node (network.edge key).second.node).graph

/-- The socket is an end of the edge. -/
def Ends (network : Network) (key : EdgeKey) (socket : Socket) : Prop :=
  key < network.edges.size ∧
    ((network.edge key).first = socket ∨ (network.edge key).second = socket)

/-- The schedule for a slot computes the message toward the terminal behind the slot. -/
def Serves (network : Network) (node : Node) (slot : Nat) (schedule : Schedule) : Prop :=
  ∃ terminal partner, node.terminals[slot]? = some terminal ∧
    network.partner? ⟨terminal, 0⟩ = some partner ∧ (schedule.indexOf partner).isSome = true

/-- What a graph lists is what belongs to it. -/
structure Lists (network : Network) (key : GraphKey) (graph : Graph) : Prop where
  nodes : network.ListsNodes key graph.nodeIds graph.nodes
  vars : network.ListsVariables graph.variableIds graph.vars
  edges : network.ListsEdges key graph.edgeIds graph.edges
  placeholders : network.BindsConstants key graph.placeholders

/-- What every change keeps. -/
structure Sound (network : Network) : Prop where
  current : ∀ key, network.current = some key → key < network.graphs.size
  homes : ∀ key < network.nodes.size, (network.node key).graph < network.graphs.size
  fitting : ∀ key < network.nodes.size,
    (network.node key).role.Fits network (network.node key).interfaces.length
  serving : ∀ key < network.nodes.size, ∀ slot schedule,
    (network.node key).innerSchedule? slot = some schedule →
      network.Serves (network.node key) slot schedule
  lists : ∀ key < network.graphs.size, network.Lists key (network.graph key)
  joins : ∀ key < network.edges.size, network.Joins key
  ends : ∀ socket key, network.edgeAt? socket = some key → network.Ends key socket
  known : ∀ key < network.edges.size, ∃ carried < network.vars.size,
    (network.edge key).carried = .variable carried
  carried : ∀ key < network.vars.size,
    (network.var key).edges
      = (List.range network.edges.size).filter fun edge => (network.edge edge).carries key

section Sockets

variable {network : Network} {socket : Socket} {key : EdgeKey}

theorem node_beyond {key : NodeKey} (beyond : network.nodes.size ≤ key) :
    network.node key = default := getD_beyond beyond default

theorem graph_beyond {key : GraphKey} (beyond : network.graphs.size ≤ key) :
    network.graph key = default := getD_beyond beyond default

theorem IsSocket.node_lt (there : network.IsSocket socket) : socket.node < network.nodes.size := by
  by_contra beyond
  rw [IsSocket, node_beyond (Nat.le_of_not_lt beyond)] at there
  cases there

theorem isSocket_of_edgeAt (joined : network.edgeAt? socket = some key) : network.IsSocket socket := by
  obtain ⟨interface, found, _⟩ := Option.bind_eq_some_iff.mp joined
  exact (List.getElem?_eq_some_iff.mp found).1

theorem Joins.first_lt (joins : network.Joins key) :
    (network.edge key).first.node < network.nodes.size :=
  (isSocket_of_edgeAt joins.first).node_lt

theorem Joins.second_lt (joins : network.Joins key) :
    (network.edge key).second.node < network.nodes.size :=
  (isSocket_of_edgeAt joins.second).node_lt

end Sockets

/-! ### What a change leaves as it was -/

/-- Nodes keep their names, their graphs and what they are; more nodes may follow. -/
structure KeepsNodes (network other : Network) : Prop where
  size : network.nodes.size ≤ other.nodes.size
  id : ∀ key < network.nodes.size, (other.node key).id = (network.node key).id
  graph : ∀ key < network.nodes.size, (other.node key).graph = (network.node key).graph
  constant : ∀ key < network.nodes.size,
    (other.node key).isConstant = (network.node key).isConstant
  terminal : ∀ key < network.nodes.size,
    (other.node key).isTerminal = (network.node key).isTerminal

/-- Joined sockets stay joined to the same edge, which stays what it is; more edges may follow. -/
structure KeepsEdges (network other : Network) : Prop where
  size : network.edges.size ≤ other.edges.size
  joined : ∀ socket key, network.edgeAt? socket = some key → other.edgeAt? socket = some key
  edge : ∀ key < network.edges.size, other.edge key = network.edge key

section Frames

variable {network other : Network} {key : GraphKey} {names : IdRegistry}

theorem KeepsNodes.of_eq (same : other.nodes = network.nodes) : KeepsNodes network other := by
  have alike : ∀ key, other.node key = network.node key := by
    intro key
    rw [Network.node, Network.node, same]
  refine ⟨Nat.le_of_eq (by rw [same]), ?_, ?_, ?_, ?_⟩
  all_goals
    intro key _
    rw [alike]

theorem KeepsNodes.trans {between : Network} (first : KeepsNodes network between)
    (second : KeepsNodes between other) : KeepsNodes network other := by
  refine ⟨Nat.le_trans first.size second.size, ?_, ?_, ?_, ?_⟩
  all_goals
    intro key there
    have later := Nat.lt_of_lt_of_le there first.size
  · exact (second.id key later).trans (first.id key there)
  · exact (second.graph key later).trans (first.graph key there)
  · exact (second.constant key later).trans (first.constant key there)
  · exact (second.terminal key later).trans (first.terminal key there)

theorem fits_of_keeps (kept : KeepsNodes network other) {role : Role} {count : Nat}
    (fits : role.Fits network count) : role.Fits other count := by
  cases role with
  | factor | gain _ => trivial
  | constant _ | terminal => exact fits
  | composite inner terminals schedules =>
      refine ⟨fits.1, fun terminal member => ?_⟩
      obtain ⟨there, isTerminal, same⟩ := fits.2 terminal member
      rw [kept.terminal terminal there, kept.graph terminal there]
      exact ⟨Nat.lt_of_lt_of_le there kept.size, isTerminal, same⟩

theorem serves_of_keeps (sound : network.Sound) (kept : KeepsEdges network other) {held : Node}
    {slot : Nat} {schedule : Schedule} (serves : network.Serves held slot schedule) :
    other.Serves held slot schedule := by
  obtain ⟨terminal, partner, behind, reached, computed⟩ := serves
  refine ⟨terminal, partner, behind, ?_, computed⟩
  obtain ⟨edge, joined, same⟩ := Option.map_eq_some_iff.mp reached
  have there := (sound.ends ⟨terminal, 0⟩ edge joined).1
  rw [partner?, kept.joined _ edge joined, Option.map_some, kept.edge edge there]
  exact congrArg some same

theorem joins_of_keeps (nodes : KeepsNodes network other) (edges : KeepsEdges network other)
    {key : EdgeKey} (there : key < network.edges.size) (joins : network.Joins key) :
    other.Joins key := by
  constructor
  · rw [edges.edge key there]
    exact edges.joined _ key joins.first
  · rw [edges.edge key there]
    exact edges.joined _ key joins.second
  · rw [edges.edge key there]
    exact joins.apart
  · rw [edges.edge key there, nodes.graph _ joins.first_lt, nodes.graph _ joins.second_lt]
    exact joins.home

/-- The nodes of a graph among the nodes there were. -/
theorem table_of_keeps (kept : KeepsNodes network other) (key : GraphKey) :
    ((List.range network.nodes.size).filter fun node => (network.node node).graph = key).map
        (fun node => ((network.node node).id, node))
      = ((List.range network.nodes.size).filter fun node => (other.node node).graph = key).map
        fun node => ((other.node node).id, node) := by
  have chosen : ∀ node ∈ List.range network.nodes.size,
      decide ((network.node node).graph = key) = decide ((other.node node).graph = key) := by
    intro node member
    rw [kept.graph node (List.mem_range.mp member)]
  rw [List.filter_congr chosen]
  apply List.map_congr_left
  intro node member
  rw [kept.id node (List.mem_range.mp (List.mem_filter.mp member).1)]

theorem ListsNodes.of_keeps {nodes : Table NodeKey} (lists : network.ListsNodes key names nodes)
    (kept : KeepsNodes network other) (size : other.nodes.size = network.nodes.size) :
    other.ListsNodes key names nodes := by
  refine ⟨?_, lists.taken, lists.distinct⟩
  rw [size, lists.table]
  exact table_of_keeps kept key

theorem ListsVariables.of_keeps {vars : Table VariableKey}
    (lists : network.ListsVariables names vars) (size : network.vars.size ≤ other.vars.size)
    (id : ∀ key < network.vars.size, (other.var key).id = (network.var key).id) :
    other.ListsVariables names vars := by
  refine ⟨fun entry member => ?_, lists.taken, lists.distinct⟩
  obtain ⟨there, same⟩ := lists.table entry member
  exact ⟨Nat.lt_of_lt_of_le there size, (id entry.2 there).trans same⟩

theorem BindsConstants.of_keeps {placeholders : Table Placeholder}
    (binds : network.BindsConstants key placeholders) (kept : KeepsNodes network other) :
    other.BindsConstants key placeholders := by
  intro entry member
  obtain ⟨node, there, home, constant, same⟩ := binds entry member
  refine ⟨node, Nat.lt_of_lt_of_le there kept.size, ?_, ?_, ?_⟩
  · rw [kept.graph node there, home]
  · rw [kept.constant node there, constant]
  · rw [kept.id node there, same]

/-- The edges of a graph among the edges there were. -/
theorem list_of_keeps (sound : network.Sound) (nodes : KeepsNodes network other)
    (edges : KeepsEdges network other) (key : GraphKey) :
    ((List.range network.edges.size).filter fun edge =>
        (network.node (network.edge edge).first.node).graph = key)
      = (List.range network.edges.size).filter fun edge =>
        (other.node (other.edge edge).first.node).graph = key := by
  apply List.filter_congr
  intro edge member
  have there := List.mem_range.mp member
  rw [edges.edge edge there, nodes.graph _ (sound.joins edge there).first_lt]

theorem ListsEdges.taken_of_keeps {listed : List EdgeKey}
    (lists : network.ListsEdges key names listed) (edges : KeepsEdges network other) :
    (listed.map fun edge => Key.text (other.edge edge).id).Sublist names.taken := by
  have same : (listed.map fun edge => Key.text (other.edge edge).id)
      = listed.map fun edge => Key.text (network.edge edge).id := by
    apply List.map_congr_left
    intro edge member
    rw [lists.list] at member
    rw [edges.edge edge (List.mem_range.mp (List.mem_filter.mp member).1)]
  rw [same]
  exact lists.taken

theorem ListsEdges.of_keeps {listed : List EdgeKey} (lists : network.ListsEdges key names listed)
    (sound : network.Sound) (nodes : KeepsNodes network other) (edges : KeepsEdges network other)
    (size : other.edges.size = network.edges.size) : other.ListsEdges key names listed := by
  refine ⟨?_, lists.taken_of_keeps edges, lists.distinct⟩
  rw [size, lists.list]
  exact list_of_keeps sound nodes edges key

theorem KeepsEdges.of_joined (joined : ∀ socket, other.edgeAt? socket = network.edgeAt? socket)
    (edges : other.edges = network.edges) : KeepsEdges network other := by
  refine ⟨Nat.le_of_eq (congrArg Array.size edges.symm), ?_, ?_⟩
  · intro socket key found
    rw [joined]
    exact found
  · intro key _
    exact congrArg (fun held => Array.getD held key default) edges

/-- Where no edge is made and no variable is lost, the nodes and the lists are left to look at. -/
theorem Sound.of_joined (sound : network.Sound) (nodes : KeepsNodes network other)
    (joined : ∀ socket, other.edgeAt? socket = network.edgeAt? socket)
    (edges : other.edges = network.edges) (vars : network.vars.size ≤ other.vars.size)
    (current : ∀ key, other.current = some key → key < other.graphs.size)
    (homes : ∀ key < other.nodes.size, (other.node key).graph < other.graphs.size)
    (fitting : ∀ key < other.nodes.size,
      (other.node key).role.Fits other (other.node key).interfaces.length)
    (serving : ∀ key < other.nodes.size, ∀ slot schedule,
      (other.node key).innerSchedule? slot = some schedule →
        other.Serves (other.node key) slot schedule)
    (lists : ∀ key < other.graphs.size, other.Lists key (other.graph key))
    (carried : ∀ key < other.vars.size, (other.var key).edges
      = (List.range network.edges.size).filter fun edge => (network.edge edge).carries key) :
    other.Sound := by
  have kept := KeepsEdges.of_joined joined edges
  have edge : ∀ key, other.edge key = network.edge key :=
    fun key => congrArg (fun held => Array.getD held key default) edges
  refine ⟨current, homes, fitting, serving, lists, ?_, ?_, ?_, ?_⟩
  · intro key there
    rw [edges] at there
    exact joins_of_keeps nodes kept there (sound.joins key there)
  · intro socket key found
    rw [Ends, edge, edges]
    rw [joined] at found
    exact sound.ends socket key found
  · intro key there
    rw [edges] at there
    obtain ⟨carrier, present, same⟩ := sound.known key there
    exact ⟨carrier, Nat.lt_of_lt_of_le present vars, by rw [edge, same]⟩
  · intro key there
    simp only [edge, edges]
    exact carried key there

theorem edgeAt_of_eq (nodes : other.nodes = network.nodes) (socket : Socket) :
    other.edgeAt? socket = network.edgeAt? socket := by
  rw [edgeAt?, interface?, node, nodes]
  rfl

theorem Lists.of_eq {graph : Graph} (lists : network.Lists key graph) (sound : network.Sound)
    (nodes : other.nodes = network.nodes) (edges : other.edges = network.edges)
    (vars : network.vars.size ≤ other.vars.size)
    (id : ∀ key < network.vars.size, (other.var key).id = (network.var key).id) :
    other.Lists key graph where
  nodes := lists.nodes.of_keeps (.of_eq nodes) (congrArg Array.size nodes)
  vars := lists.vars.of_keeps vars id
  edges := lists.edges.of_keeps sound (.of_eq nodes) (.of_joined (edgeAt_of_eq nodes) edges)
    (congrArg Array.size edges)
  placeholders := lists.placeholders.of_keeps (.of_eq nodes)

/-- Where nodes and edges stay as they are, the lists of graphs and variables are left to look at. -/
theorem Sound.of_eq (sound : network.Sound) (nodes : other.nodes = network.nodes)
    (edges : other.edges = network.edges) (graphs : network.graphs.size ≤ other.graphs.size)
    (vars : network.vars.size ≤ other.vars.size)
    (current : ∀ key, other.current = some key → key < other.graphs.size)
    (lists : ∀ key < other.graphs.size, other.Lists key (other.graph key))
    (carried : ∀ key < other.vars.size, (other.var key).edges
      = (List.range network.edges.size).filter fun edge => (network.edge edge).carries key) :
    other.Sound := by
  have kept := KeepsEdges.of_joined (edgeAt_of_eq nodes) edges
  have node : ∀ key, other.node key = network.node key :=
    fun key => congrArg (fun held => Array.getD held key default) nodes
  refine sound.of_joined (.of_eq nodes) (edgeAt_of_eq nodes) edges vars current ?_ ?_ ?_ lists carried
  · intro key there
    rw [nodes] at there
    rw [node]
    exact Nat.lt_of_lt_of_le (sound.homes key there) graphs
  · intro key there
    rw [nodes] at there
    rw [node]
    exact fits_of_keeps (.of_eq nodes) (sound.fitting key there)
  · intro key there slot schedule
    rw [nodes] at there
    rw [node]
    exact fun given => serves_of_keeps sound kept (sound.serving key there slot schedule given)

end Frames

/-! ### The empty network and one change -/

theorem sound_empty : Sound {} where
  current := fun _ impossible => nomatch impossible
  homes := fun _ impossible => absurd impossible (Nat.not_lt_zero _)
  fitting := fun _ impossible => absurd impossible (Nat.not_lt_zero _)
  serving := fun _ impossible => absurd impossible (Nat.not_lt_zero _)
  lists := fun _ impossible => absurd impossible (Nat.not_lt_zero _)
  joins := fun _ impossible => absurd impossible (Nat.not_lt_zero _)
  ends := by
    intro socket key joined
    have there := (isSocket_of_edgeAt joined).node_lt
    exact absurd there (Nat.not_lt_zero _)
  known := fun _ impossible => absurd impossible (Nat.not_lt_zero _)
  carried := fun _ impossible => absurd impossible (Nat.not_lt_zero _)

section Steps

variable {network : Network}

theorem unlisted_of_fresh {β : Type} {names : IdRegistry} {table : Table β} {name : Key}
    (taken : names.taken = table.map Prod.fst)
    (fresh : ∀ key ∈ names.taken, key.same name = false) :
    ∀ entry ∈ table, entry.1.same name = false := by
  intro entry member
  apply fresh
  rw [taken]
  exact List.mem_map_of_mem member

theorem ListsVariables.put {other : Network} {names ids : IdRegistry} {vars : Table VariableKey}
    {id : Option Key} {stem : Value} {name : Key} (lists : network.ListsVariables names vars)
    (assigned : names.assign id stem = .ok (name, ids))
    (size : other.vars.size = network.vars.size + 1)
    (kept : ∀ key < network.vars.size, (other.var key).id = (network.var key).id)
    (new : (other.var network.vars.size).id = name) :
    other.ListsVariables ids (Table.put name network.vars.size vars) := by
  obtain ⟨recorded, fresh⟩ := IdRegistry.assign_fresh assigned
  have framed := lists.of_keeps (Nat.le_trans (Nat.le_succ _) (Nat.le_of_eq size.symm)) kept
  rw [Table.put_fresh _ (unlisted_of_fresh lists.taken fresh)]
  constructor
  · intro entry member
    rcases List.mem_append.mp member with old | last
    · exact framed.table entry old
    · rw [List.mem_singleton.mp last, size]
      exact ⟨Nat.lt_succ_self _, new⟩
  · rw [recorded, lists.taken, List.map_append]
    rfl
  · rw [recorded]
    exact pairwise_fresh lists.distinct fresh

theorem ListsNodes.put {other : Network} {home : GraphKey} {names ids : IdRegistry}
    {nodes : Table NodeKey} {id : Option Key} {stem : Value} {name : Key}
    (lists : network.ListsNodes home names nodes)
    (assigned : names.assign id stem = .ok (name, ids)) (kept : KeepsNodes network other)
    (size : other.nodes.size = network.nodes.size + 1)
    (new : (other.node network.nodes.size).id = name)
    (here : (other.node network.nodes.size).graph = home) :
    other.ListsNodes home ids (Table.put name network.nodes.size nodes) := by
  obtain ⟨recorded, fresh⟩ := IdRegistry.assign_fresh assigned
  rw [Table.put_fresh _ (unlisted_of_fresh lists.taken fresh)]
  constructor
  · rw [size, List.range_succ, List.filter_append, List.map_append, ← table_of_keeps kept,
      lists.table]
    simp [here, new]
  · rw [recorded, lists.taken, List.map_append]
    rfl
  · rw [recorded]
    exact pairwise_fresh lists.distinct fresh

theorem ListsNodes.elsewhere {other : Network} {key : GraphKey} {names : IdRegistry}
    {nodes : Table NodeKey} (lists : network.ListsNodes key names nodes)
    (kept : KeepsNodes network other) (size : other.nodes.size = network.nodes.size + 1)
    (there : (other.node network.nodes.size).graph ≠ key) : other.ListsNodes key names nodes := by
  refine ⟨?_, lists.taken, lists.distinct⟩
  rw [size, List.range_succ, List.filter_append, List.map_append, ← table_of_keeps kept, lists.table]
  simp [there]

/-- Nothing belongs to a graph that is new. -/
theorem lists_new (sound : network.Sound) (name : Value) :
    network.Lists network.graphs.size { name := name } := by
  constructor
  · refine ⟨?_, rfl, .nil⟩
    have none : (List.range network.nodes.size).filter
        (fun node => decide ((network.node node).graph = network.graphs.size)) = [] := by
      refine List.filter_eq_nil_iff.mpr fun node member => ?_
      have home := sound.homes node (List.mem_range.mp member)
      rw [decide_eq_true_eq]
      exact Nat.ne_of_lt home
    rw [none]
    rfl
  · exact ⟨fun _ member => (List.not_mem_nil member).elim, rfl, .nil⟩
  · refine ⟨?_, List.Sublist.refl [], .nil⟩
    refine (List.filter_eq_nil_iff.mpr fun edge member => ?_).symm
    have home := sound.homes _ (sound.joins edge (List.mem_range.mp member)).first_lt
    rw [decide_eq_true_eq]
    exact Nat.ne_of_lt home
  · exact fun _ member => (List.not_mem_nil member).elim

theorem Sound.withGraph (sound : network.Sound) (name : Value) : (network.withGraph name).Sound := by
  have size : (network.withGraph name).graphs.size = network.graphs.size + 1 := Array.size_push _
  refine sound.of_eq rfl rfl (by omega) (Nat.le_refl _) ?_ ?_ sound.carried
  · intro key same
    rw [size]
    exact Nat.lt_succ_of_lt (sound.current key same)
  · intro key there
    have held : (network.withGraph name).graph key
        = if key = network.graphs.size then { name := name } else network.graph key :=
      getD_push network.graphs _ key default
    rw [held]
    split
    · rename_i here
      subst here
      exact (lists_new sound name).of_eq sound rfl rfl (Nat.le_refl _) fun _ _ => rfl
    · rename_i other
      rw [size] at there
      have present := Nat.lt_of_le_of_ne (Nat.le_of_lt_succ there) other
      exact (sound.lists key present).of_eq sound rfl rfl (Nat.le_refl _) fun _ _ => rfl

theorem Sound.withCurrent (sound : network.Sound) {graph : Option GraphKey}
    (known : ∀ key, graph = some key → key < network.graphs.size) :
    (network.withCurrent graph).Sound := by
  refine sound.of_eq rfl rfl (Nat.le_refl _) (Nat.le_refl _) known ?_ sound.carried
  intro key there
  exact (sound.lists key there).of_eq sound rfl rfl (Nat.le_refl _) fun _ _ => rfl

/-- One graph is changed where nodes and edges stay as they are. -/
theorem Sound.modifyGraph {other : Network} (sound : network.Sound) {graph : GraphKey}
    {change : Graph → Graph} (nodes : other.nodes = network.nodes)
    (edges : other.edges = network.edges) (graphs : other.graphs = network.graphs.modify graph change)
    (current : other.current = network.current) (vars : network.vars.size ≤ other.vars.size)
    (id : ∀ key < network.vars.size, (other.var key).id = (network.var key).id)
    (lists : graph < network.graphs.size → network.Lists graph (network.graph graph) →
      other.Lists graph (change (network.graph graph)))
    (carried : ∀ key < other.vars.size, (other.var key).edges
      = (List.range network.edges.size).filter fun edge => (network.edge edge).carries key) :
    other.Sound := by
  have size : other.graphs.size = network.graphs.size := by rw [graphs, Array.size_modify]
  refine sound.of_eq nodes edges (Nat.le_of_eq size.symm) vars ?_ ?_ carried
  · rw [current, size]
    exact sound.current
  · intro key there
    rw [size] at there
    have held : other.graph key
        = if graph = key ∧ key < network.graphs.size then change (network.graph key)
          else network.graph key := by
      rw [Network.graph, graphs]
      exact getD_modify network.graphs graph key change default
    rw [held]
    split
    · rename_i here
      obtain ⟨rfl, _⟩ := here
      exact lists there (sound.lists graph there)
    · exact (sound.lists key there).of_eq sound nodes edges vars id

theorem Sound.withVariable (sound : network.Sound) {graph : GraphKey} {id : Option Key} {name : Key}
    {ids : IdRegistry}
    (assigned : (network.graph graph).variableIds.assign id (.text "variable") = .ok (name, ids)) :
    (network.withVariable graph ids name).Sound := by
  have held : ∀ key, (network.withVariable graph ids name).var key
      = if key = network.vars.size then { id := name } else network.var key :=
    fun key => getD_push network.vars _ key default
  have size : (network.withVariable graph ids name).vars.size = network.vars.size + 1 :=
    Array.size_push _
  have kept : ∀ key < network.vars.size,
      ((network.withVariable graph ids name).var key).id = (network.var key).id := by
    intro key there
    rw [held, if_neg (Nat.ne_of_lt there)]
  have changed : (network.withVariable graph ids name).graphs = network.graphs.modify graph
      fun contents => { contents with
        variableIds := ids, vars := Table.put name network.vars.size contents.vars } := rfl
  refine sound.modifyGraph rfl rfl changed rfl (by omega) kept ?_ ?_
  · intro there lists
    have framed : (network.withVariable graph ids name).Lists graph (network.graph graph) :=
      lists.of_eq sound rfl rfl (by omega) kept
    refine ⟨framed.nodes, ?_, framed.edges, framed.placeholders⟩
    exact lists.vars.put assigned size kept (by rw [held, if_pos rfl])
  · intro key there
    rw [held]
    split
    · rename_i here
      refine (List.filter_eq_nil_iff.mpr fun edge member => ?_).symm
      -- What an edge carries was there before.
      obtain ⟨carried, present, same⟩ := sound.known edge (List.mem_range.mp member)
      rw [Edge.carries, same, here, decide_eq_true_eq]
      exact Nat.ne_of_lt present
    · rename_i other
      rw [size] at there
      exact sound.carried key (Nat.lt_of_le_of_ne (Nat.le_of_lt_succ there) other)

theorem Sound.withEdgeName (sound : network.Sound) (graph : GraphKey) :
    (network.withEdgeName graph).Sound := by
  have changed : (network.withEdgeName graph).graphs = network.graphs.modify graph
      fun contents => { contents with
        edgeIds := ((network.graph graph).edgeIds.generate "edge").2 } := rfl
  refine sound.modifyGraph rfl rfl changed rfl (Nat.le_refl _) (fun _ _ => rfl) ?_ sound.carried
  intro there lists
  obtain ⟨recorded, fresh⟩ := (network.graph graph).edgeIds.generate_fresh "edge"
  have framed : (network.withEdgeName graph).Lists graph (network.graph graph) :=
    lists.of_eq sound rfl rfl (Nat.le_refl _) (fun _ _ => rfl)
  refine ⟨framed.nodes, framed.vars, ⟨framed.edges.list, ?_, ?_⟩, framed.placeholders⟩
  · rw [recorded]
    exact framed.edges.taken.trans (List.sublist_append_left _ _)
  · rw [recorded]
    exact pairwise_fresh lists.edges.distinct fresh

theorem Sound.withPlaceholder (sound : network.Sound) {key : NodeKey} (binding : Placeholder)
    (present : key < network.nodes.size) (constant : (network.node key).isConstant = true) :
    (network.withPlaceholder (network.node key).graph (network.node key).id binding).Sound := by
  have changed : (network.withPlaceholder (network.node key).graph (network.node key).id
      binding).graphs = network.graphs.modify (network.node key).graph
      fun contents => { contents with
        placeholders := Table.put (network.node key).id binding contents.placeholders } := rfl
  refine sound.modifyGraph rfl rfl changed rfl (Nat.le_refl _) (fun _ _ => rfl) ?_ sound.carried
  intro there lists
  have framed : (network.withPlaceholder (network.node key).graph (network.node key).id binding).Lists
      (network.node key).graph (network.graph (network.node key).graph) :=
    lists.of_eq sound rfl rfl (Nat.le_refl _) (fun _ _ => rfl)
  refine ⟨framed.nodes, framed.vars, framed.edges, ?_⟩
  rintro ⟨name, bound⟩ member
  rcases Table.mem_put member with same | ⟨old, listed⟩
  · exact ⟨key, present, rfl, constant, same.symm⟩
  · exact framed.placeholders (name, old) listed

/-! A new node is not joined to anything, so sockets are joined as before. -/

theorem node_withNode (network : Network) (graph : GraphKey) (ids : IdRegistry) (node : Node)
    (key : NodeKey) : (network.withNode graph ids node).node key
      = if key = network.nodes.size then node else network.node key :=
  getD_push network.nodes node key default

theorem edgeAt_withNode {graph : GraphKey} {ids : IdRegistry} {node : Node}
    (free : ∀ interface ∈ node.interfaces, interface.edge = none) (socket : Socket) :
    (network.withNode graph ids node).edgeAt? socket = network.edgeAt? socket := by
  rw [edgeAt?, interface?, node_withNode]
  split
  · rename_i here
    have before : network.edgeAt? socket = none := by
      rw [edgeAt?, interface?, here, node_beyond (Nat.le_refl _)]
      rfl
    rw [before, Option.bind_eq_none_iff]
    intro interface found
    exact free interface (List.mem_of_getElem? found)
  · rfl

theorem keepsNodes_withNode (network : Network) (graph : GraphKey) (ids : IdRegistry) (node : Node) :
    KeepsNodes network (network.withNode graph ids node) := by
  have held : ∀ key < network.nodes.size,
      (network.withNode graph ids node).node key = network.node key := by
    intro key there
    rw [node_withNode, if_neg (Nat.ne_of_lt there)]
  have size : (network.withNode graph ids node).nodes.size = network.nodes.size + 1 :=
    Array.size_push _
  refine ⟨by omega, ?_, ?_, ?_, ?_⟩
  all_goals
    intro key there
    rw [held key there]

theorem Sound.withNode (sound : network.Sound) {graph : GraphKey} {id : Option Key} {node : Node}
    {ids : IdRegistry} (present : graph < network.graphs.size) (home : node.graph = graph)
    (assigned : (network.graph graph).nodeIds.assign id node.kind = .ok (node.id, ids))
    (fits : node.role.Fits network node.interfaces.length) (unscheduled : node.role.IsUnscheduled)
    (free : ∀ interface ∈ node.interfaces, interface.edge = none) :
    (network.withNode graph ids node).Sound := by
  have kept := keepsNodes_withNode network graph ids node
  have size : (network.withNode graph ids node).nodes.size = network.nodes.size + 1 :=
    Array.size_push _
  have graphs : (network.withNode graph ids node).graphs.size = network.graphs.size :=
    Array.size_modify
  have new : (network.withNode graph ids node).node network.nodes.size = node := by
    rw [node_withNode, if_pos rfl]
  have keptEdges : KeepsEdges network (network.withNode graph ids node) :=
    .of_joined (edgeAt_withNode free) rfl
  have old : ∀ {key}, key < network.nodes.size + 1 → key ≠ network.nodes.size →
      key < network.nodes.size :=
    fun there other => Nat.lt_of_le_of_ne (Nat.le_of_lt_succ there) other
  refine sound.of_joined kept (edgeAt_withNode free) rfl (Nat.le_refl _) ?_ ?_ ?_ ?_ ?_ sound.carried
  · rw [graphs]
    exact sound.current
  · intro key there
    rw [node_withNode, graphs]
    rw [size] at there
    split
    · exact home ▸ present
    · exact sound.homes key (old there (by assumption))
  · intro key there
    rw [node_withNode]
    rw [size] at there
    split
    · exact fits_of_keeps kept fits
    · exact fits_of_keeps kept (sound.fitting key (old there (by assumption)))
  · intro key there slot schedule
    rw [node_withNode]
    rw [size] at there
    split
    · intro given
      rw [Node.innerSchedule?] at given
      split at given
      · rename_i schedules composite
        rw [composite] at unscheduled
        rw [show schedules = [] from unscheduled] at given
        cases given
      · cases given
    · exact fun given => serves_of_keeps sound keptEdges
        (sound.serving key (old there (by assumption)) slot schedule given)
  · intro key there
    rw [graphs] at there
    have lists := sound.lists key there
    have framed := lists.edges.of_keeps sound kept keptEdges rfl
    rw [Network.withNode, graph_modifyGraph]
    split
    · rename_i here
      obtain ⟨rfl, _⟩ := here
      exact ⟨lists.nodes.put assigned kept size (congrArg Node.id new) ((congrArg Node.graph new).trans home),
        lists.vars.of_keeps (Nat.le_refl _) (fun _ _ => rfl), framed, lists.placeholders.of_keeps kept⟩
    · rename_i elsewhere
      have other : ((network.withNode graph ids node).node network.nodes.size).graph ≠ key := by
        rw [new, home]
        exact fun same => elsewhere ⟨same, there⟩
      exact ⟨lists.nodes.elsewhere kept size other,
        lists.vars.of_keeps (Nat.le_refl _) (fun _ _ => rfl), framed, lists.placeholders.of_keeps kept⟩

/-! An inner schedule changes one role and nothing else. -/

theorem node_withRole (network : Network) (place key : NodeKey) (role : Role) :
    (network.withRole place role).node key
      = if place = key ∧ key < network.nodes.size then { network.node key with role := role }
        else network.node key :=
  network.node_modifyNode place key _

theorem edgeAt_withRole (network : Network) (place : NodeKey) (role : Role) (socket : Socket) :
    (network.withRole place role).edgeAt? socket = network.edgeAt? socket := by
  rw [edgeAt?, interface?, node_withRole]
  split
  · rfl
  · rfl

theorem keepsNodes_withRole {place : NodeKey} {role : Role}
    (constant : { network.node place with role := role }.isConstant = (network.node place).isConstant)
    (terminal : { network.node place with role := role }.isTerminal = (network.node place).isTerminal) :
    KeepsNodes network (network.withRole place role) := by
  refine ⟨Nat.le_of_eq Array.size_modify.symm, ?_, ?_, ?_, ?_⟩
  all_goals
    intro key there
    rw [node_withRole]
    split
  · rfl
  · rfl
  · rfl
  · rfl
  · rename_i here
    rw [← here.1, constant]
  · rfl
  · rename_i here
    rw [← here.1, terminal]
  · rfl

/-- The new schedule serves its slot, and the others serve theirs as before. -/
theorem serves_scheduled (sound : network.Sound) {key : NodeKey} {inner : Option GraphKey}
    {terminals : List NodeKey} {schedules : List (Nat × Schedule)} {slot : Nat} {schedule : Schedule}
    {partner : Socket} (present : key < network.nodes.size)
    (composite : (network.node key).role = .composite inner terminals schedules)
    (slotted : slot < terminals.length)
    (reached : network.partner? ⟨(terminals[slot]?).getD 0, 0⟩ = some partner)
    (computed : (schedule.indexOf partner).isSome = true) {place : Nat} {given : Schedule}
    (found : (Association.set slot schedule schedules).lookup place = some given) :
    ∃ terminal partner, terminals[place]? = some terminal ∧
      network.partner? ⟨terminal, 0⟩ = some partner ∧ (given.indexOf partner).isSome = true := by
  rw [Association.lookup_set] at found
  split at found
  · rename_i here
    cases found
    subst here
    have behind : terminals[place]? = some terminals[place] := List.getElem?_eq_getElem slotted
    rw [behind, Option.getD_some] at reached
    exact ⟨terminals[place], partner, behind, reached, computed⟩
  · have old : (network.node key).innerSchedule? place = some given := by
      rw [Node.innerSchedule?, composite]
      exact found
    obtain ⟨terminal, partner, behind, serves⟩ := sound.serving key present place given old
    rw [Node.terminals, composite] at behind
    exact ⟨terminal, partner, behind, serves⟩

theorem Sound.withSchedule (sound : network.Sound) {key : NodeKey} {inner : Option GraphKey}
    {terminals : List NodeKey} {schedules : List (Nat × Schedule)} {slot : Nat} {schedule : Schedule}
    {partner : Socket} {role : Role} (present : key < network.nodes.size)
    (composite : (network.node key).role = .composite inner terminals schedules)
    (slotted : slot < (network.node key).interfaces.length)
    (reached : network.partner? ⟨(terminals[slot]?).getD 0, 0⟩ = some partner)
    (computed : (schedule.indexOf partner).isSome = true)
    (scheduled : role = .composite inner terminals (Association.set slot schedule schedules)) :
    (network.withRole key role).Sound := by
  have kept : KeepsNodes network (network.withRole key role) := by
    apply keepsNodes_withRole
    · rw [Node.isConstant, Node.isConstant, composite, scheduled]
    · rw [Node.isTerminal, Node.isTerminal, composite, scheduled]
  have joined := edgeAt_withRole network key role
  have keptEdges := KeepsEdges.of_joined joined rfl
  have size : (network.withRole key role).nodes.size = network.nodes.size := Array.size_modify
  have fits := sound.fitting key present
  rw [composite] at fits
  refine sound.of_joined kept joined rfl (Nat.le_refl _) sound.current ?_ ?_ ?_ ?_ sound.carried
  · intro other there
    rw [size] at there
    rw [kept.graph other there]
    exact sound.homes other there
  · intro other there
    rw [size] at there
    rw [node_withRole]
    split
    · rename_i here
      obtain ⟨rfl, _⟩ := here
      have unchanged : role.Fits network (network.node key).interfaces.length := by
        rw [scheduled]
        exact fits
      exact fits_of_keeps kept unchanged
    · exact fits_of_keeps kept (sound.fitting other there)
  · intro other there place given
    rw [size] at there
    rw [node_withRole]
    split
    · rename_i here
      obtain ⟨rfl, _⟩ := here
      intro found
      rw [Node.innerSchedule?, scheduled] at found
      apply serves_of_keeps sound keptEdges
      rw [Serves, Node.terminals, scheduled]
      exact serves_scheduled sound present composite (fits.1 ▸ slotted) reached computed found
    · exact fun found => serves_of_keeps sound keptEdges (sound.serving other there place given found)
  · intro graph there
    have lists := sound.lists graph there
    exact ⟨lists.nodes.of_keeps kept size, lists.vars.of_keeps (Nat.le_refl _) (fun _ _ => rfl),
      lists.edges.of_keeps sound kept keptEdges rfl, lists.placeholders.of_keeps kept⟩

/-! An edge joins two free sockets. -/

theorem node_joinSocket (network : Network) (socket : Socket) (edge : EdgeKey) (key : NodeKey) :
    (network.joinSocket socket edge).node key
      = if socket.node = key ∧ key < network.nodes.size then
          { network.node key with
            interfaces := (network.node key).interfaces.modify socket.slot fun interface =>
              { interface with edge := some edge } }
        else network.node key :=
  network.node_modifyNode socket.node key _

/-- Joining leaves everything of a node as it is, the edges of its interfaces apart. -/
theorem shape_joinSocket (network : Network) (socket : Socket) (edge : EdgeKey) (key : NodeKey) :
    ∃ interfaces : List Interface, interfaces.length = (network.node key).interfaces.length ∧
      (network.joinSocket socket edge).node key
        = { network.node key with interfaces := interfaces } := by
  rw [node_joinSocket]
  split
  · exact ⟨_, List.length_modify _ _ _, rfl⟩
  · exact ⟨_, rfl, rfl⟩

theorem interfaceNames_joinSocket (network : Network) (socket : Socket) (edge : EdgeKey) (key : NodeKey) :
    ((network.joinSocket socket edge).node key).interfaces.map Interface.name
      = (network.node key).interfaces.map Interface.name := by
  rw [node_joinSocket]
  split
  · apply List.ext_getElem?
    intro place
    rw [List.getElem?_map, List.getElem?_map, List.getElem?_modify]
    cases (network.node key).interfaces[place]? with
    | none => rfl
    | some interface =>
        by_cases here : socket.slot = place
        · simp [here]
        · simp [here]
  · rfl

theorem edgeAt_joinSocket {socket : Socket} (there : network.IsSocket socket) (edge : EdgeKey)
    (other : Socket) : (network.joinSocket socket edge).edgeAt? other
      = if socket = other then some edge else network.edgeAt? other := by
  rw [edgeAt?, interface?, node_joinSocket]
  by_cases node : socket.node = other.node
  · rw [if_pos ⟨node, node ▸ there.node_lt⟩]
    rw [IsSocket, node] at there
    by_cases slot : socket.slot = other.slot
    · have same : socket = other := by
        cases socket
        cases other
        simp_all
      rw [if_pos same, List.getElem?_modify, ← slot, List.getElem?_eq_getElem there]
      simp
    · have different : socket ≠ other := fun same => slot (congrArg Socket.slot same)
      rw [if_neg different, List.getElem?_modify]
      simp [slot, edgeAt?, interface?]
  · have different : socket ≠ other := fun same => node (congrArg Socket.node same)
    rw [if_neg (fun both => node both.1), if_neg different]
    rfl

/-- Two sockets that record an edge one after the other. -/
theorem edgeAt_joinSockets {first second : Socket} (firstSocket : network.IsSocket first)
    (secondSocket : network.IsSocket second) (edge : EdgeKey) (socket : Socket) :
    ((network.joinSocket first edge).joinSocket second edge).edgeAt? socket
      = if second = socket then some edge
        else if first = socket then some edge else network.edgeAt? socket := by
  have still : (network.joinSocket first edge).IsSocket second := by
    obtain ⟨interfaces, counted, held⟩ := network.shape_joinSocket first edge second.node
    rw [IsSocket, held]
    exact counted ▸ secondSocket
  rw [edgeAt_joinSocket still, edgeAt_joinSocket firstSocket]

section Edge

variable {graph : GraphKey} {first second : Socket} {carried : VariableKey}

theorem shape_withEdge (network : Network) (graph : GraphKey) (first second : Socket)
    (carried : VariableKey) (key : NodeKey) :
    ∃ interfaces : List Interface, interfaces.length = (network.node key).interfaces.length ∧
      (network.withEdge graph first second carried).node key
        = { network.node key with interfaces := interfaces } := by
  obtain ⟨some, counted, held⟩ := network.shape_joinSocket first network.edges.size key
  obtain ⟨all, again, final⟩ :=
    (network.joinSocket first network.edges.size).shape_joinSocket second network.edges.size key
  rw [held] at again final
  exact ⟨all, again.trans counted, final⟩

theorem interfaceNames_withEdge (network : Network) (graph : GraphKey) (first second : Socket)
    (carried : VariableKey) (key : NodeKey) :
    ((network.withEdge graph first second carried).node key).interfaces.map Interface.name
      = (network.node key).interfaces.map Interface.name :=
  (interfaceNames_joinSocket _ second network.edges.size key).trans
    (interfaceNames_joinSocket _ first network.edges.size key)

theorem keepsNodes_withEdge (network : Network) (graph : GraphKey) (first second : Socket)
    (carried : VariableKey) : KeepsNodes network (network.withEdge graph first second carried) := by
  have size : (network.withEdge graph first second carried).nodes.size = network.nodes.size :=
    Array.size_modify.trans Array.size_modify
  refine ⟨Nat.le_of_eq size.symm, ?_, ?_, ?_, ?_⟩
  all_goals
    intro key _
    obtain ⟨interfaces, _, held⟩ := network.shape_withEdge graph first second carried key
    rw [held]
  · rfl
  · rfl

theorem edge_withEdge (network : Network) (graph : GraphKey) (first second : Socket)
    (carried : VariableKey) (key : EdgeKey) :
    (network.withEdge graph first second carried).edge key
      = if key = network.edges.size then
          ⟨network.edgeName graph, first, second, .variable carried⟩
        else network.edge key :=
  getD_push network.edges _ key default

theorem edgeAt_withEdge (firstSocket : network.IsSocket first) (secondSocket : network.IsSocket second)
    (socket : Socket) : (network.withEdge graph first second carried).edgeAt? socket
      = if second = socket then some network.edges.size
        else if first = socket then some network.edges.size else network.edgeAt? socket :=
  edgeAt_joinSockets firstSocket secondSocket network.edges.size socket

theorem keepsEdges_withEdge (firstSocket : network.IsSocket first)
    (secondSocket : network.IsSocket second) (firstFree : network.edgeAt? first = none)
    (secondFree : network.edgeAt? second = none) :
    KeepsEdges network (network.withEdge graph first second carried) := by
  have size : (network.withEdge graph first second carried).edges.size = network.edges.size + 1 :=
    Array.size_push _
  refine ⟨by omega, ?_, ?_⟩
  · intro socket key joined
    have notSecond : second ≠ socket := by
      rintro rfl
      rw [secondFree] at joined
      cases joined
    have notFirst : first ≠ socket := by
      rintro rfl
      rw [firstFree] at joined
      cases joined
    rw [edgeAt_withEdge firstSocket secondSocket, if_neg notSecond, if_neg notFirst, joined]
  · intro key there
    rw [edge_withEdge, if_neg (Nat.ne_of_lt there)]

theorem graph_withEdge (network : Network) (graph : GraphKey) (first second : Socket)
    (carried : VariableKey) (key : GraphKey) :
    (network.withEdge graph first second carried).graph key
      = if graph = key ∧ key < network.graphs.size then
          { network.graph key with
            edgeIds := ((network.graph graph).edgeIds.generate "edge").2
            edges := (network.graph key).edges ++ [network.edges.size] }
        else network.graph key := by
  have held : (network.withEdge graph first second carried).graph key
      = (((network.withEdgeName graph).modifyGraph graph fun contents =>
          { contents with edges := contents.edges ++ [network.edges.size] }).graph key) := rfl
  have size : (network.withEdgeName graph).graphs.size = network.graphs.size := Array.size_modify
  rw [held, graph_modifyGraph, size, withEdgeName, graph_modifyGraph]
  split
  · rfl
  · rfl

theorem var_withEdge (network : Network) (graph : GraphKey) (first second : Socket)
    (carried key : VariableKey) :
    (network.withEdge graph first second carried).var key
      = if carried = key ∧ key < network.vars.size then
          { network.var key with edges := (network.var key).edges ++ [network.edges.size] }
        else network.var key :=
  network.var_modifyVariable carried key _

theorem ListsEdges.append {other : Network} {home : GraphKey} {names ids : IdRegistry}
    {listed : List EdgeKey} (lists : network.ListsEdges home names listed) (sound : network.Sound)
    (nodes : KeepsNodes network other) (edges : KeepsEdges network other)
    (size : other.edges.size = network.edges.size + 1)
    (here : (other.node (other.edge network.edges.size).first.node).graph = home)
    (recorded : ids.taken = names.taken ++ [.text (other.edge network.edges.size).id])
    (fresh : ∀ key ∈ names.taken, key.same (.text (other.edge network.edges.size).id) = false) :
    other.ListsEdges home ids (listed ++ [network.edges.size]) := by
  constructor
  · rw [size, List.range_succ, List.filter_append, ← list_of_keeps sound nodes edges, lists.list]
    simp [here]
  · rw [recorded, List.map_append]
    exact (lists.taken_of_keeps edges).append (List.Sublist.refl _)
  · rw [recorded]
    exact pairwise_fresh lists.distinct fresh

theorem ListsEdges.elsewhere {other : Network} {key : GraphKey} {names : IdRegistry}
    {listed : List EdgeKey} (lists : network.ListsEdges key names listed) (sound : network.Sound)
    (nodes : KeepsNodes network other) (edges : KeepsEdges network other)
    (size : other.edges.size = network.edges.size + 1)
    (there : (other.node (other.edge network.edges.size).first.node).graph ≠ key) :
    other.ListsEdges key names listed := by
  refine ⟨?_, lists.taken_of_keeps edges, lists.distinct⟩
  rw [size, List.range_succ, List.filter_append, ← list_of_keeps sound nodes edges, lists.list]
  simp [there]

theorem lists_withEdge (sound : network.Sound) (firstSocket : network.IsSocket first)
    (kept : KeepsEdges network (network.withEdge graph first second carried))
    (home : (network.node first.node).graph = graph) {key : GraphKey}
    (there : key < network.graphs.size) :
    (network.withEdge graph first second carried).Lists key
      ((network.withEdge graph first second carried).graph key) := by
  have nodes := keepsNodes_withEdge network graph first second carried
  have nodeCount : (network.withEdge graph first second carried).nodes.size = network.nodes.size :=
    Array.size_modify.trans Array.size_modify
  have varCount : (network.withEdge graph first second carried).vars.size = network.vars.size :=
    Array.size_modify
  have edgeCount : (network.withEdge graph first second carried).edges.size
      = network.edges.size + 1 := Array.size_push _
  have ids : ∀ key < network.vars.size,
      ((network.withEdge graph first second carried).var key).id = (network.var key).id := by
    intro key _
    rw [var_withEdge]
    split
    · rfl
    · rfl
  have new : (network.withEdge graph first second carried).edge network.edges.size
      = ⟨network.edgeName graph, first, second, .variable carried⟩ := by
    rw [edge_withEdge, if_pos rfl]
  have lists := sound.lists key there
  have listed : (network.withEdge graph first second carried).ListsVariables
      (network.graph key).variableIds (network.graph key).vars :=
    lists.vars.of_keeps (Nat.le_of_eq varCount.symm) ids
  have bound := lists.placeholders.of_keeps nodes
  have tabled := lists.nodes.of_keeps nodes nodeCount
  rw [graph_withEdge]
  split
  · rename_i here
    obtain ⟨rfl, _⟩ := here
    obtain ⟨recorded, fresh⟩ := (network.graph graph).edgeIds.generate_fresh "edge"
    refine ⟨tabled, listed, ?_, bound⟩
    refine lists.edges.append sound nodes kept edgeCount ?_ ?_ ?_
    · rw [new, nodes.graph _ firstSocket.node_lt, home]
    · rw [new, recorded]
      rfl
    · rw [new]
      exact fresh
  · rename_i elsewhere
    refine ⟨tabled, listed, ?_, bound⟩
    refine lists.edges.elsewhere sound nodes kept edgeCount ?_
    rw [new, nodes.graph _ firstSocket.node_lt, home]
    exact fun same => elsewhere ⟨same, there⟩

theorem joins_withEdge (firstSocket : network.IsSocket first) (secondSocket : network.IsSocket second)
    (firstHome : (network.node first.node).graph = graph)
    (secondHome : (network.node second.node).graph = graph) (apart : first.node ≠ second.node) :
    (network.withEdge graph first second carried).Joins network.edges.size := by
  have nodes := keepsNodes_withEdge network graph first second carried
  have new : (network.withEdge graph first second carried).edge network.edges.size
      = ⟨network.edgeName graph, first, second, .variable carried⟩ := by
    rw [edge_withEdge, if_pos rfl]
  constructor
  · rw [new, edgeAt_withEdge firstSocket secondSocket]
    simp
  · rw [new, edgeAt_withEdge firstSocket secondSocket]
    simp
  · rw [new]
    exact apart
  · rw [new, nodes.graph _ firstSocket.node_lt, nodes.graph _ secondSocket.node_lt, firstHome,
      secondHome]

theorem ends_withEdge (sound : network.Sound) (firstSocket : network.IsSocket first)
    (secondSocket : network.IsSocket second) {socket : Socket} {key : EdgeKey}
    (joined : (network.withEdge graph first second carried).edgeAt? socket = some key) :
    (network.withEdge graph first second carried).Ends key socket := by
  have size : (network.withEdge graph first second carried).edges.size = network.edges.size + 1 :=
    Array.size_push _
  rw [edgeAt_withEdge firstSocket secondSocket] at joined
  rw [Ends, edge_withEdge, size]
  split at joined
  · rename_i here
    cases joined
    rw [if_pos rfl]
    exact ⟨Nat.lt_succ_self _, Or.inr here⟩
  · split at joined
    · rename_i here
      cases joined
      rw [if_pos rfl]
      exact ⟨Nat.lt_succ_self _, Or.inl here⟩
    · obtain ⟨there, ends⟩ := sound.ends socket key joined
      rw [if_neg (Nat.ne_of_lt there)]
      exact ⟨Nat.lt_succ_of_lt there, ends⟩

theorem carried_withEdge (sound : network.Sound) {key : VariableKey} (there : key < network.vars.size) :
    ((network.withEdge graph first second carried).var key).edges
      = (List.range (network.edges.size + 1)).filter fun edge =>
          ((network.withEdge graph first second carried).edge edge).carries key := by
  have old : (List.range network.edges.size).filter
        (fun edge => ((network.withEdge graph first second carried).edge edge).carries key)
      = (network.var key).edges := by
    rw [sound.carried key there]
    apply List.filter_congr
    intro edge member
    rw [edge_withEdge, if_neg (Nat.ne_of_lt (List.mem_range.mp member))]
  rw [List.range_succ, List.filter_append, old, List.filter_singleton, var_withEdge, edge_withEdge,
    if_pos rfl, Edge.carries]
  by_cases here : carried = key
  · simp [here, there]
  · simp [here]

theorem Sound.withEdge (sound : network.Sound) (known : carried < network.vars.size)
    (firstSocket : network.IsSocket first) (secondSocket : network.IsSocket second)
    (firstHome : (network.node first.node).graph = graph)
    (secondHome : (network.node second.node).graph = graph) (apart : first.node ≠ second.node)
    (firstFree : network.edgeAt? first = none) (secondFree : network.edgeAt? second = none) :
    (network.withEdge graph first second carried).Sound := by
  have nodes := keepsNodes_withEdge network graph first second carried
  have shape := shape_withEdge network graph first second carried
  have kept : KeepsEdges network (network.withEdge graph first second carried) :=
    keepsEdges_withEdge firstSocket secondSocket firstFree secondFree
  have nodeCount : (network.withEdge graph first second carried).nodes.size = network.nodes.size :=
    Array.size_modify.trans Array.size_modify
  have graphCount : (network.withEdge graph first second carried).graphs.size = network.graphs.size :=
    Array.size_modify.trans Array.size_modify
  have edgeCount : (network.withEdge graph first second carried).edges.size
      = network.edges.size + 1 := Array.size_push _
  have varCount : (network.withEdge graph first second carried).vars.size = network.vars.size :=
    Array.size_modify
  constructor
  case current =>
    rw [graphCount]
    exact sound.current
  case homes =>
    intro key there
    rw [nodeCount] at there
    rw [nodes.graph key there, graphCount]
    exact sound.homes key there
  case fitting =>
    intro key there
    rw [nodeCount] at there
    obtain ⟨interfaces, counted, held⟩ := shape key
    rw [held, counted]
    exact fits_of_keeps nodes (sound.fitting key there)
  case serving =>
    intro key there slot schedule given
    rw [nodeCount] at there
    obtain ⟨interfaces, counted, held⟩ := shape key
    rw [held] at given ⊢
    exact serves_of_keeps sound kept (sound.serving key there slot schedule given)
  case lists =>
    intro key there
    rw [graphCount] at there
    exact lists_withEdge sound firstSocket kept firstHome there
  case joins =>
    intro key there
    rw [edgeCount] at there
    rcases Nat.lt_succ_iff_lt_or_eq.mp there with old | rfl
    · exact joins_of_keeps nodes kept old (sound.joins key old)
    · exact joins_withEdge firstSocket secondSocket firstHome secondHome apart
  case ends =>
    intro socket key joined
    exact ends_withEdge sound firstSocket secondSocket joined
  case known =>
    intro key there
    rw [edgeCount] at there
    rw [edge_withEdge, varCount]
    split
    · exact ⟨carried, known, rfl⟩
    · rename_i other
      exact sound.known key (Nat.lt_of_le_of_ne (Nat.le_of_lt_succ there) other)
  case carried =>
    intro key there
    rw [varCount] at there
    rw [edgeCount]
    exact carried_withEdge sound there

end Edge

theorem Sound.change {other : Network} (sound : network.Sound) (change : network.Change other) :
    other.Sound := by
  cases change with
  | graph name => exact sound.withGraph name
  | current known => exact sound.withCurrent known
  | node present assigned fits unscheduled =>
      apply sound.withNode present rfl assigned
      · rw [List.length_map]
        exact fits
      · exact unscheduled
      · intro interface member
        obtain ⟨name, _, rfl⟩ := List.mem_map.mp member
        rfl
  | «variable» present assigned => exact sound.withVariable assigned
  | edgeName graph => exact sound.withEdgeName graph
  | edge present known firstSocket secondSocket firstHome secondHome apart firstFree secondFree =>
      exact sound.withEdge known firstSocket secondSocket firstHome secondHome apart firstFree
        secondFree
  | placeholder binding present constant => exact sound.withPlaceholder binding present constant
  | schedule present composite slotted reached computed =>
      exact sound.withSchedule present composite slotted reached computed rfl

theorem Sound.changes {other : Network} (sound : network.Sound) (changes : network.Changes other) :
    other.Sound := by
  induction changes with
  | refl => exact sound
  | tail _ change ih => exact ih.change change

end Steps

/-- In a sound network a call that is possible makes the known changes only. -/
theorem Sound.call {network : Network} {call : Build.Call} (sound : network.Sound)
    (possible : call.IsPossible network) : network.Changes (call.after network) := by
  refine call.changes possible sound.current ?_
  intro graph name key found
  obtain ⟨entry, listed, rfl⟩ := Option.map_eq_some_iff.mp found
  have member := List.mem_of_find?_eq_some listed
  by_cases there : graph < network.graphs.size
  · exact ((sound.lists graph there).vars.table entry member).1
  · rw [graph_beyond (Nat.le_of_not_lt there)] at member
    cases member

theorem Reachable.sound {network : Network} (reachable : network.Reachable) : network.Sound := by
  induction reachable with
  | empty => exact sound_empty
  | call reachable possible sound => exact sound.changes (sound.call possible)

end Network

end SumProduct
