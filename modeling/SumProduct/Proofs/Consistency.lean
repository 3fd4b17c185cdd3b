/-
What users of a network may rely on.

Partners, edges, variables, node tables, placeholders and inner schedules of a network that was built by
any calls fit together.  Failed calls count as well: they may leave behind a variable, a used name of an
edge or a composite node, but nothing half connected.
-/

import SumProduct.Proofs.Topology

set_option autoImplicit false

namespace SumProduct

namespace Network

structure Consistent (network : Network) : Prop where
  /-- The partner of the partner of a connected interface is the interface. -/
  partner_partner : ∀ socket partner, network.partner? socket = some partner →
    network.partner? partner = some socket
  /-- An interface belongs to at most one edge. -/
  one_edge : ∀ first second socket, network.Ends first socket → network.Ends second socket →
    first = second
  /-- No edge joins two interfaces of one node. -/
  no_loop : ∀ key < network.edges.size,
    (network.edge key).first.node ≠ (network.edge key).second.node
  /-- Both ends of an edge of a graph are interfaces of nodes of the graph. -/
  ends_home : ∀ graph < network.graphs.size, ∀ key ∈ (network.graph graph).edges,
    ∀ socket, network.Ends key socket →
      network.IsSocket socket ∧ (network.node socket.node).graph = graph
  /-- An interface records the edge of its graph that it is an end of. -/
  joined_iff : ∀ socket key, network.edgeAt? socket = some key ↔
    key ∈ (network.graph (network.node socket.node).graph).edges ∧ network.Ends key socket
  /-- Every edge occurs once in the list of one graph. -/
  edge_once : ∀ key < network.edges.size,
    ∃! graph, graph < network.graphs.size ∧ key ∈ (network.graph graph).edges
  edges_nodup : ∀ graph < network.graphs.size, (network.graph graph).edges.Nodup
  /-- A variable lists the edges that carry it, each of them once. -/
  carried_iff : ∀ key < network.vars.size, ∀ edge, edge ∈ (network.var key).edges ↔
    edge < network.edges.size ∧ (network.edge edge).carried = .variable key
  carried_nodup : ∀ key < network.vars.size, (network.var key).edges.Nodup
  /-- The node table of a graph leads from a name to the node of the graph with this name. -/
  node_table : ∀ graph < network.graphs.size, ∀ name key, (name, key) ∈ (network.graph graph).nodes →
    key < network.nodes.size ∧ (network.node key).id = name ∧ (network.node key).graph = graph
  node_found : ∀ key < network.nodes.size,
    (network.graph (network.node key).graph).nodes.get? (network.node key).id = some key
  node_ids : ∀ graph < network.graphs.size,
    (network.graph graph).nodes.Pairwise fun first second => first.1.same second.1 = false
  variable_table : ∀ graph < network.graphs.size, ∀ name key, (name, key) ∈ (network.graph graph).vars →
    key < network.vars.size ∧ (network.var key).id = name
  variable_ids : ∀ graph < network.graphs.size,
    (network.graph graph).vars.Pairwise fun first second => first.1.same second.1 = false
  edge_ids : ∀ graph < network.graphs.size,
    (network.graph graph).edges.Pairwise fun first second =>
      (network.edge first).id ≠ (network.edge second).id
  /-- The keys of placeholders are names of constants of the graph. -/
  placeholder_keys : ∀ graph < network.graphs.size, ∀ entry ∈ (network.graph graph).placeholders,
    ∃ node < network.nodes.size, (network.node node).graph = graph ∧
      (network.node node).isConstant = true ∧ (network.node node).id = entry.1
  /-- An inner schedule computes the message on the partner of the terminal behind its slot. -/
  inner_schedules : ∀ key < network.nodes.size, ∀ slot schedule,
    (network.node key).innerSchedule? slot = some schedule →
      ∃ terminal partner, (network.node key).terminals[slot]? = some terminal ∧
        network.partner? ⟨terminal, 0⟩ = some partner ∧ (schedule.indexOf partner).isSome = true

namespace Sound

variable {network : Network}

/-- A socket is joined to the edges it is an end of. -/
theorem edgeAt_iff (sound : network.Sound) (socket : Socket) (key : EdgeKey) :
    network.edgeAt? socket = some key ↔ network.Ends key socket := by
  constructor
  · exact sound.ends socket key
  · rintro ⟨there, rfl | rfl⟩
    · exact (sound.joins key there).first
    · exact (sound.joins key there).second

theorem partner_partner (sound : network.Sound) {socket partner : Socket}
    (reached : network.partner? socket = some partner) : network.partner? partner = some socket := by
  obtain ⟨key, joined, other⟩ := Option.map_eq_some_iff.mp reached
  obtain ⟨there, ends⟩ := sound.ends socket key joined
  have joins := sound.joins key there
  have different : (network.edge key).first ≠ (network.edge key).second :=
    fun same => joins.apart (congrArg Socket.node same)
  rw [partner?, Option.map_eq_some_iff]
  rcases ends with rfl | rfl
  · simp only [if_true] at other
    subst other
    refine ⟨key, joins.second, ?_⟩
    simp only [if_neg different]
  · simp only [if_neg different] at other
    subst other
    refine ⟨key, joins.first, ?_⟩
    simp only [if_true]

/-- The edges of a graph are those with an end on a node of the graph. -/
theorem mem_edges (sound : network.Sound) {graph : GraphKey} (present : graph < network.graphs.size)
    (key : EdgeKey) : key ∈ (network.graph graph).edges ↔
      key < network.edges.size ∧ (network.node (network.edge key).first.node).graph = graph := by
  rw [(sound.lists graph present).edges.list, List.mem_filter, List.mem_range, decide_eq_true_eq]

theorem home_of_ends (sound : network.Sound) {key : EdgeKey} {socket : Socket}
    (ends : network.Ends key socket) : network.IsSocket socket ∧
      (network.node socket.node).graph = (network.node (network.edge key).first.node).graph := by
  refine ⟨isSocket_of_edgeAt ((sound.edgeAt_iff socket key).mpr ends), ?_⟩
  obtain ⟨there, rfl | rfl⟩ := ends
  · rfl
  · exact (sound.joins key there).home.symm

theorem edge_once (sound : network.Sound) {key : EdgeKey} (there : key < network.edges.size) :
    ∃! graph, graph < network.graphs.size ∧ key ∈ (network.graph graph).edges := by
  have home := sound.homes _ (sound.joins key there).first_lt
  refine ⟨_, ⟨home, (sound.mem_edges home key).mpr ⟨there, rfl⟩⟩, ?_⟩
  rintro graph ⟨present, listed⟩
  exact ((sound.mem_edges present key).mp listed).2.symm

theorem mem_nodes (sound : network.Sound) {graph : GraphKey} (present : graph < network.graphs.size)
    (name : Key) (key : NodeKey) : (name, key) ∈ (network.graph graph).nodes ↔
      key < network.nodes.size ∧ (network.node key).id = name ∧ (network.node key).graph = graph := by
  rw [(sound.lists graph present).nodes.table, List.mem_map]
  constructor
  · rintro ⟨node, listed, same⟩
    cases same
    rw [List.mem_filter, List.mem_range, decide_eq_true_eq] at listed
    exact ⟨listed.1, rfl, listed.2⟩
  · rintro ⟨there, rfl, home⟩
    exact ⟨key, List.mem_filter.mpr ⟨List.mem_range.mpr there, decide_eq_true home⟩, rfl⟩

end Sound

/-- A table under different names answers every name with its entry. -/
theorem get_of_mem {β : Type} {table : Table β} {name : Key} {value : β}
    (distinct : table.Pairwise fun first second => first.1.same second.1 = false)
    (listed : (name, value) ∈ table) : table.get? name = some value := by
  induction table with
  | nil => cases listed
  | cons head rest ih =>
      obtain ⟨other, held⟩ := head
      rw [List.pairwise_cons] at distinct
      rw [Table.get?_cons]
      rcases List.mem_cons.mp listed with here | later
      · cases here
        rw [if_pos (Key.same_iff.mpr rfl)]
      · have different : other.same name = false := distinct.1 (name, value) later
        rw [different, if_neg Bool.false_ne_true]
        exact ih distinct.2 later

theorem pairwise_of_taken {β : Type} {names : IdRegistry} {table : Table β}
    (taken : names.taken = table.map Prod.fst)
    (distinct : names.taken.Pairwise fun first second => first.same second = false) :
    table.Pairwise fun first second => first.1.same second.1 = false := by
  rw [taken] at distinct
  exact List.pairwise_map.mp distinct

/-- However a network is built, also by calls that fail, it is consistent. -/
theorem Reachable.consistent {network : Network} (reachable : network.Reachable) :
    network.Consistent := by
  have sound := reachable.sound
  have nodeIds : ∀ graph < network.graphs.size,
      (network.graph graph).nodes.Pairwise fun first second => first.1.same second.1 = false :=
    fun graph present => pairwise_of_taken (sound.lists graph present).nodes.taken
      (sound.lists graph present).nodes.distinct
  constructor
  case partner_partner => exact fun socket partner => sound.partner_partner
  case one_edge =>
    intro first second socket atFirst atSecond
    rw [← sound.edgeAt_iff] at atFirst atSecond
    exact Option.some.inj (atFirst.symm.trans atSecond)
  case no_loop => exact fun key there => (sound.joins key there).apart
  case ends_home =>
    intro graph present key listed socket ends
    obtain ⟨isSocket, home⟩ := sound.home_of_ends ends
    exact ⟨isSocket, home.trans ((sound.mem_edges present key).mp listed).2⟩
  case joined_iff =>
    intro socket key
    rw [sound.edgeAt_iff]
    refine ⟨fun ends => ⟨?_, ends⟩, And.right⟩
    obtain ⟨isSocket, home⟩ := sound.home_of_ends ends
    rw [sound.mem_edges (sound.homes _ isSocket.node_lt)]
    exact ⟨ends.1, home.symm⟩
  case edge_once => exact fun key there => sound.edge_once there
  case edges_nodup =>
    intro graph present
    rw [(sound.lists graph present).edges.list]
    exact List.nodup_range.filter _
  case carried_iff =>
    intro key there edge
    rw [sound.carried key there, List.mem_filter, List.mem_range]
    refine and_congr_right fun _ => ?_
    rw [Edge.carries]
    split
    · rename_i carried same
      rw [same, decide_eq_true_eq, Carried.variable.injEq]
    · rename_i value same
      simp [same]
  case carried_nodup =>
    intro key there
    rw [sound.carried key there]
    exact List.nodup_range.filter _
  case node_table => exact fun graph present name key => (sound.mem_nodes present name key).mp
  case node_found =>
    intro key there
    have home := sound.homes key there
    exact get_of_mem (nodeIds _ home) ((sound.mem_nodes home _ key).mpr ⟨there, rfl, rfl⟩)
  case node_ids => exact nodeIds
  case variable_table =>
    exact fun graph present name key => (sound.lists graph present).vars.table (name, key)
  case variable_ids =>
    exact fun graph present => pairwise_of_taken (sound.lists graph present).vars.taken
      (sound.lists graph present).vars.distinct
  case edge_ids =>
    intro graph present
    have listed := (sound.lists graph present).edges
    refine (List.pairwise_map.mp (listed.distinct.sublist listed.taken)).imp ?_
    intro first second different same
    rw [same, Key.same_iff.mpr rfl] at different
    cases different
  case placeholder_keys => exact fun graph present => (sound.lists graph present).placeholders
  case inner_schedules => exact sound.serving

/-- The calls are possible one after the other. -/
def ArePossible (network : Network) : List Build.Call → Prop
  | [] => True
  | call :: rest => call.IsPossible network ∧ ArePossible (call.after network) rest

theorem Reachable.calls {network : Network} {calls : List Build.Call} (reachable : network.Reachable)
    (possible : network.ArePossible calls) : (calls.foldl Build.Call.after network).Reachable := by
  induction calls generalizing network with
  | nil => exact reachable
  | cons call rest ih => exact ih (.call reachable possible.1) possible.2

/-! A composite node that relays from one of its terminals to the other, between two constants, one of
them fed from a buffer.  Two calls fail: an interface is connected already when a second edge is asked for,
and a composite node must not own the graph it lives in.  They leave behind a variable and a node. -/

def wiring : List Build.Call :=
  [.newGraph .absent, .newGraph .absent, .addTerminal (some "a") (some 1),
    .addTerminal (some "b") (some 1), .connect 1 ⟨0, 0⟩ ⟨1, 0⟩ .anonymous,
    .addComposite (some 1) [.node 0, .node 1] none (some "box") (some 0),
    .defineSchedule 2 (.whole 0) (some [{ socket := ⟨1, 0⟩ }]),
    .addConstant (.real 2.0) (some "c") (some 0), .addConstant (.real 3.0) (some "d") (some 0),
    .connect 0 ⟨2, 1⟩ ⟨3, 0⟩ (.named "v"), .connect 0 ⟨2, 0⟩ ⟨4, 0⟩ (.named "w"),
    .connect 0 ⟨2, 0⟩ ⟨3, 0⟩ .anonymous, .addComposite (some 1) [.node 0] none (some "loop") (some 1),
    .bindPlaceholder 0 (.node 4) (.text "readings") .absent]

def wired : Network := wiring.foldl Build.Call.after {}

theorem wiring_possible : ArePossible {} wiring := by
  have known : ∀ {graph size : Nat}, graph < size → ∀ key, some graph = some key → key < size := by
    rintro graph size there key ⟨⟩
    exact there
  have given : ∀ {node size : Nat}, node < size → ∀ key, Offer.node node = .node key → key < size := by
    rintro node size there key ⟨⟩
    exact there
  have offered : ∀ {node size : Nat} {others : List Offer}, node < size →
      (∀ key, .node key ∈ others → key < size) →
      ∀ key, .node key ∈ Offer.node node :: others → key < size := by
    rintro node size others there rest key member
    rcases List.mem_cons.mp member with same | later
    · exact given there key same.symm
    · exact rest key later
  have none : ∀ {size : Nat}, ∀ key, Offer.node key ∈ [] → key < size :=
    fun key impossible => nomatch impossible
  refine ⟨trivial, trivial, known ?_, known ?_, ⟨?_, ?_, ?_, trivial⟩,
    ⟨known ?_, offered ?_ (offered ?_ none)⟩, ?_, known ?_, known ?_, ⟨?_, ?_, ?_, trivial⟩,
    ⟨?_, ?_, ?_, trivial⟩, ⟨?_, ?_, ?_, trivial⟩, ⟨known ?_, offered ?_ none⟩, given ?_, trivial⟩
  all_goals
    show (_ : Nat) < _
    decide +kernel

theorem wired_reachable : wired.Reachable := Reachable.empty.calls wiring_possible

theorem Reachable.consistent_wired :
    wired.Reachable ∧ wired.Consistent ∧ wired.nodes.size = 6 ∧ wired.edges.size = 3 ∧
      wired.vars.size = 4 ∧ ((wired.node 2).innerSchedule? 0).isSome = true ∧
      (wired.graph 0).placeholders.length = 1 :=
  ⟨wired_reachable, wired_reachable.consistent, by decide +kernel⟩

end Network

end SumProduct
