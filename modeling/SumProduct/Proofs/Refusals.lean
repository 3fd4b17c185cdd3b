/-
What a refused connection leaves behind.

A connection is refused before any interface records it, so that at most a variable without edges and a used
name of an edge remain.  One refusal comes too late: that the edge would carry something that is no variable
is noticed when both interfaces record the edge already, which then belongs to no graph.
-/

import SumProduct.Proofs.Consistency

set_option autoImplicit false

namespace SumProduct

namespace Network

variable {network between reached : Network} {graph : GraphKey} {first second : Socket}

/-- The network in which there is something to carry: the same one, or one with a new variable. -/
inductive Provided (network : Network) (graph : GraphKey) : Network → Prop
  | found : Provided network graph network
  | made {id : Option Key} {name : Key} {ids : IdRegistry}
      (assigned : (network.graph graph).variableIds.assign id (.text "variable") = .ok (name, ids)) :
      Provided network graph (network.withVariable graph ids name)

/-- What may be added to a network although no edge is: a variable without edges and a used name. -/
inductive Residue (network : Network) (graph : GraphKey) : Network → Prop
  | nothing : Residue network graph network
  | used {between : Network} (provided : network.Provided graph between) :
      Residue network graph (between.withEdgeName graph)

/-- Interfaces, lists of edges, node tables and the variables there were are what they were. -/
structure KeepsTopology (network reached : Network) : Prop where
  joined : ∀ socket, reached.edgeAt? socket = network.edgeAt? socket
  listed : ∀ graph, (reached.graph graph).edges = (network.graph graph).edges
  tables : ∀ graph, (reached.graph graph).nodes = (network.graph graph).nodes
  carried : ∀ key < network.vars.size, reached.var key = network.var key

/-- Both interfaces belong to the graph, to different nodes, and neither of them is connected. -/
structure CanJoin (network : Network) (graph : GraphKey) (first second : Socket) : Prop where
  firstHome : (network.node first.node).graph = graph
  secondHome : (network.node second.node).graph = graph
  apart : first.node ≠ second.node
  firstFree : network.edgeAt? first = none
  secondFree : network.edgeAt? second = none

/-- Both interfaces record an edge that no graph lists and no variable carries. -/
structure LeavesLoose (network : Network) (first second : Socket) (reached : Network) : Prop where
  joined : ∀ socket, reached.edgeAt? socket
    = if second = socket then some network.edges.size
      else if first = socket then some network.edges.size else network.edgeAt? socket
  listed : ∀ graph, (reached.graph graph).edges = (network.graph graph).edges
  tables : ∀ graph, (reached.graph graph).nodes = (network.graph graph).nodes
  carried : reached.vars = network.vars

/-! ### What is added -/

theorem KeepsTopology.refl (network : Network) : network.KeepsTopology network :=
  ⟨fun _ => rfl, fun _ => rfl, fun _ => rfl, fun _ _ => rfl⟩

theorem KeepsTopology.modifyGraph (kept : network.KeepsTopology between) (graph : GraphKey)
    {change : Graph → Graph} (edges : ∀ contents, (change contents).edges = contents.edges)
    (nodes : ∀ contents, (change contents).nodes = contents.nodes) :
    network.KeepsTopology (between.modifyGraph graph change) := by
  constructor
  case joined => exact fun socket => (edgeAt_of_eq rfl socket).trans (kept.joined socket)
  case listed =>
    intro key
    rw [← kept.listed key, graph_modifyGraph]
    split
    · exact edges _
    · rfl
  case tables =>
    intro key
    rw [← kept.tables key, graph_modifyGraph]
    split
    · exact nodes _
    · rfl
  case carried => exact kept.carried

theorem keepsTopology_pushed (network : Network) (name : Key) :
    network.KeepsTopology { network with vars := network.vars.push { id := name } } := by
  refine ⟨edgeAt_of_eq rfl, fun _ => rfl, fun _ => rfl, fun key there => ?_⟩
  have pushed := getD_push network.vars { id := name } key default
  rw [if_neg (Nat.ne_of_lt there)] at pushed
  exact pushed

theorem Provided.keepsTopology (provided : network.Provided graph between) :
    network.KeepsTopology between := by
  cases provided with
  | found => exact .refl network
  | made _ => exact (keepsTopology_pushed network _).modifyGraph graph (fun _ => rfl) (fun _ => rfl)

theorem Residue.keepsTopology (residue : network.Residue graph reached) :
    network.KeepsTopology reached := by
  cases residue with
  | nothing => exact .refl network
  | used provided => exact provided.keepsTopology.modifyGraph graph (fun _ => rfl) (fun _ => rfl)

theorem Provided.nodes_eq (provided : network.Provided graph between) : between.nodes = network.nodes := by
  cases provided with
  | found => rfl
  | made _ => rfl

/-! ### What is recorded too early -/

/-- The edge is recorded at both interfaces, and nowhere else. -/
def withLoose (network : Network) (graph : GraphKey) (first second : Socket) (value : Value) : Network :=
  let named := network.withEdgeName graph
  let key := named.edges.size
  let pushed : Network := { named with
    edges := named.edges.push ⟨network.edgeName graph, first, second, .stray value⟩ }
  (pushed.joinSocket first key).joinSocket second key

theorem leavesLoose_withLoose (network : Network) (graph : GraphKey) (value : Value)
    (firstSocket : network.IsSocket first) (secondSocket : network.IsSocket second) :
    network.LeavesLoose first second (network.withLoose graph first second value) := by
  have kept : network.KeepsTopology (network.withEdgeName graph) :=
    (KeepsTopology.refl network).modifyGraph graph (fun _ => rfl) (fun _ => rfl)
  exact ⟨edgeAt_joinSockets firstSocket secondSocket network.edges.size, kept.listed, kept.tables, rfl⟩

theorem LeavesLoose.not_keepsTopology (leaves : network.LeavesLoose first second reached)
    (secondFree : network.edgeAt? second = none) : ¬ network.KeepsTopology reached := by
  intro kept
  have joined := leaves.joined second
  rw [kept.joined, secondFree, if_pos rfl] at joined
  cases joined

end Network

/-! ### Refused connections -/

namespace Build

variable {network reached : Network} {graph : GraphKey} {first second : Socket}
  {request : CarryRequest} {fault : Fault}

/-- What is asked for is no variable. -/
def CarryRequest.IsStray : CarryRequest → Prop
  | .given (.stray _) => True
  | .given (.variable _) | .anonymous | .named _ => False

theorem CarryRequest.IsStray.exists_value (stray : request.IsStray) :
    ∃ value, request = .given (.stray value) := by
  cases request with
  | anonymous => exact stray.elim
  | named id => exact stray.elim
  | given carried =>
      cases carried with
      | «variable» key => exact stray.elim
      | stray value => exact ⟨value, rfl⟩

theorem addVariable_provides (network : Network) (graph : GraphKey) (id : Option Key) :
    Ensures (addVariable graph id) network (fun _ reached => network.Provided graph reached)
      (fun reached => reached = network) := by
  simp only [addVariable, ensures_bind, ensures_get]
  refine ensures_lift ?_ rfl
  rintro ⟨name, ids⟩ assigned
  exact .made assigned

theorem provide_provides (network : Network) (graph : GraphKey) (request : CarryRequest) :
    Ensures (provide graph request) network
      (fun carried reached => network.Provided graph reached ∧
        ∀ value, carried = .stray value → request = .given (.stray value))
      (fun reached => reached = network) := by
  cases request with
  | anonymous =>
      simp only [provide, ensures_bind, ensures_pure]
      apply (addVariable_provides network graph none).imp
      · intro key reached provided
        refine ⟨provided, ?_⟩
        rintro value ⟨⟩
      · exact fun _ same => same
  | named name =>
      simp only [provide, ensures_bind, ensures_get]
      cases (network.graph graph).vars.get? name with
      | some key =>
          refine ⟨.found, ?_⟩
          rintro value ⟨⟩
      | none =>
          simp only [ensures_bind, ensures_pure]
          apply (addVariable_provides network graph (some (.text name))).imp
          · intro key reached provided
            refine ⟨provided, ?_⟩
            rintro value ⟨⟩
          · exact fun _ same => same
  | given carried =>
      refine ⟨.found, ?_⟩
      rintro value rfl
      rfl

/-- All that a connection can do: it joins the interfaces, or it is refused early, or because of what the edge would
carry. -/
theorem connect_cases (network : Network) (graph : GraphKey) (first second : Socket)
    (request : CarryRequest) :
    Ensures (connect graph first second request) network
      (fun key reached => network.CanJoin graph first second ∧
        ∃ carried between, provide graph request network = .ok (.variable carried) between ∧
          key = between.edges.size ∧ reached = between.withEdge graph first second carried)
      (fun reached => network.Residue graph reached ∨
        request.IsStray ∧ network.CanJoin graph first second) := by
  simp only [connect, ensures_bind]
  refine (checkOwner_ensures network graph first).imp ?_ (fun reached same => same ▸ .inl .nothing)
  rintro _ reached ⟨rfl, firstHome⟩
  refine (checkOwner_ensures reached graph second).imp ?_ (fun reached same => same ▸ .inl .nothing)
  rintro _ network ⟨rfl, secondHome⟩
  have carrying := provide_provides network graph request
  rw [Ensures] at carrying ⊢
  cases provides : provide graph request network with
  | error fault reached =>
      rw [provides] at carrying
      exact carrying ▸ .inl .nothing
  | ok carried between =>
      rw [provides] at carrying
      obtain ⟨provided, stray⟩ := carrying
      refine (generateEdgeId_ensures between graph).imp ?_ (fun _ impossible => impossible.elim)
      rintro _ _ ⟨rfl, rfl⟩
      -- Whatever fails from here on up to the edge itself leaves behind that a name is used up.
      have residue := Network.Residue.used provided
      by_cases loop : first.node = second.node
      · rw [if_pos loop]
        exact .inl residue
      · rw [if_neg loop]
        simp only [ensures_bind]
        refine (checkFree_ensures _ first).imp ?_ (fun reached same => same ▸ .inl residue)
        rintro _ _ ⟨rfl, firstFree⟩
        refine (checkFree_ensures _ second).imp ?_ (fun reached same => same ▸ .inl residue)
        rintro _ _ ⟨rfl, secondFree⟩
        rw [residue.keepsTopology.joined] at firstFree secondFree
        have canJoin : network.CanJoin graph first second :=
          ⟨firstHome, secondHome, loop, firstFree, secondFree⟩
        cases carried with
        | «variable» key => exact ⟨canJoin, key, between, rfl, rfl, rfl⟩
        | stray value =>
            refine .inr ⟨?_, canJoin⟩
            rw [stray value rfl]
            trivial

/-- That a value is no variable is noticed when the edge is recorded at both interfaces. -/
theorem connect_stray (canJoin : network.CanJoin graph first second) (value : Value) :
    Ensures (connect graph first second (.given (.stray value))) network (fun _ _ => False)
      (fun reached => reached = network.withLoose graph first second value) := by
  have named : ∀ socket, (network.withEdgeName graph).edgeAt? socket = network.edgeAt? socket :=
    Network.edgeAt_of_eq rfl
  simp only [connect, checkOwner, provide, ensures_bind, ensures_get, canJoin.firstHome,
    canJoin.secondHome, ne_eq, not_true_eq_false, if_false, ensures_pure]
  refine (generateEdgeId_ensures network graph).imp ?_ (fun _ impossible => impossible.elim)
  rintro _ _ ⟨rfl, rfl⟩
  simp only [if_neg canJoin.apart, checkFree, ensures_bind, ensures_get, named, canJoin.firstFree,
    canJoin.secondFree, Option.isSome_none, Bool.false_eq_true, if_false, ensures_pure, ensures_modify,
    attach, ensures_throw]
  rfl

/-- Whatever is asked for, in whatever network: a connection that is refused leaves every interface with the edge
it had, every list of edges, every node table and every variable as they were, and adds at most a variable
without edges and a used name of an edge.  The one exception is that two interfaces which could be joined are
asked to carry something that is no variable: they are left with an edge that belongs to no graph. -/
theorem refused_connection (refused : connect graph first second request network = .error fault reached)
    (firstSocket : network.IsSocket first) (secondSocket : network.IsSocket second) :
    (¬ (request.IsStray ∧ network.CanJoin graph first second) →
      network.Residue graph reached ∧ network.KeepsTopology reached) ∧
    (request.IsStray ∧ network.CanJoin graph first second →
      network.LeavesLoose first second reached ∧ ¬ network.KeepsTopology reached) := by
  constructor
  · intro regular
    have left := connect_cases network graph first second request
    rw [Ensures, refused] at left
    have residue := left.resolve_right regular
    exact ⟨residue, residue.keepsTopology⟩
  · rintro ⟨stray, canJoin⟩
    obtain ⟨value, rfl⟩ := stray.exists_value
    have same := connect_stray canJoin value
    rw [Ensures, refused] at same
    have loose := network.leavesLoose_withLoose graph value firstSocket secondSocket
    rw [← same] at loose
    exact ⟨loose, loose.not_keepsTopology canJoin.secondFree⟩

/-- A failure that can be computed, with the network it leaves behind. -/
theorem exists_refused {α : Type} (build : Build α) (network : Network)
    (failed : (match build network with | .ok _ _ => false | .error _ _ => true) = true) :
    ∃ fault, build network = .error fault (build.after network) := by
  unfold after
  cases result : build network with
  | ok value reached =>
      rw [result] at failed
      cases failed
  | error fault reached => exact ⟨fault, rfl⟩

/-- A second edge is asked for at an interface: the variable made for it stays, and its name is used up. -/
theorem refused_connection_wired :
    ∃ fault reached, connect 0 ⟨2, 0⟩ ⟨3, 0⟩ .anonymous Network.wired = .error fault reached ∧
      Network.wired.Residue 0 reached ∧ Network.wired.KeepsTopology reached ∧
      reached.vars.size = Network.wired.vars.size + 1 := by
  have firstSocket : Network.wired.IsSocket ⟨2, 0⟩ := by
    unfold Network.IsSocket
    decide +kernel
  have secondSocket : Network.wired.IsSocket ⟨3, 0⟩ := by
    unfold Network.IsSocket
    decide +kernel
  obtain ⟨fault, refused⟩ :=
    exists_refused (connect 0 ⟨2, 0⟩ ⟨3, 0⟩ .anonymous) Network.wired (by decide +kernel)
  obtain ⟨residue, topology⟩ :=
    (refused_connection refused firstSocket secondSocket).1 fun stray => stray.1
  exact ⟨fault, _, refused, residue, topology, by decide +kernel⟩

/-- Two constants of a graph. -/
def pairing : List Call :=
  [.newGraph .absent, .addConstant (.real 2.0) (some "c") (some 0),
    .addConstant (.real 3.0) (some "d") (some 0)]

def paired : Network := pairing.foldl Call.after {}

theorem paired_reachable : paired.Reachable := by
  apply Network.Reachable.empty.calls
  refine ⟨trivial, ?_, ?_, trivial⟩
  all_goals
    rintro key ⟨⟩
    decide +kernel

/-- Two interfaces that are to carry a number record an edge that their graph does not list, and are refused
as connected when they are to carry a variable afterwards. -/
theorem refused_number_stays_recorded :
    paired.Reachable ∧ ∃ fault reached,
      connect 0 ⟨0, 0⟩ ⟨1, 0⟩ (.given (.stray (.whole 5))) paired = .error fault reached ∧
      paired.edgeAt? ⟨0, 0⟩ = none ∧ reached.edgeAt? ⟨0, 0⟩ = some 0 ∧
      (reached.graph 0).edges = [] ∧ ¬ paired.KeepsTopology reached ∧
      ∃ again after, connect 0 ⟨0, 0⟩ ⟨1, 0⟩ .anonymous reached = .error again after := by
  obtain ⟨fault, refused⟩ :=
    exists_refused (connect 0 ⟨0, 0⟩ ⟨1, 0⟩ (.given (.stray (.whole 5)))) paired (by decide +kernel)
  obtain ⟨again, refusedAgain⟩ :=
    exists_refused (connect 0 ⟨0, 0⟩ ⟨1, 0⟩ .anonymous)
      ((connect 0 ⟨0, 0⟩ ⟨1, 0⟩ (.given (.stray (.whole 5)))).after paired) (by decide +kernel)
  have free : paired.edgeAt? ⟨0, 0⟩ = none := by decide +kernel
  have recorded : ((connect 0 ⟨0, 0⟩ ⟨1, 0⟩ (.given (.stray (.whole 5)))).after paired).edgeAt? ⟨0, 0⟩
      = some 0 := by decide +kernel
  refine ⟨paired_reachable, fault, _, refused, free, recorded, by decide +kernel, ?_, again, _, refusedAgain⟩
  intro kept
  have same := kept.joined ⟨0, 0⟩
  rw [free, recorded] at same
  cases same

end Build

end SumProduct
