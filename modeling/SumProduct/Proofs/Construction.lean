/-
What the operations that build a network can do to it.

Every operation, whether it succeeds or fails, changes the network by a few steps of eight kinds: a new
graph, another current graph, a new node under a fresh name, a new variable under a fresh name, a name of
an edge that is used up, a new edge, the binding of a placeholder, and an inner schedule.  What holds of
the empty network and is kept by these changes holds of every network that can be built.
-/

import SumProduct.Network.Build
import SumProduct.Proofs.Partial
import Mathlib.Logic.Relation

set_option autoImplicit false

namespace SumProduct

/-! ### Look-ups after a change -/

section Lookups

variable {α : Type}

theorem getD_modify (items : Array α) (index place : Nat) (change : α → α) (fallback : α) :
    (items.modify index change).getD place fallback
      = if index = place ∧ place < items.size then change (items.getD place fallback)
        else items.getD place fallback := by
  rw [Array.getD_eq_getD_getElem?, Array.getD_eq_getD_getElem?, Array.getElem?_modify]
  by_cases here : index = place
  · subst here
    by_cases inside : index < items.size
    · simp [inside]
    · simp [inside]
  · simp [here]

theorem getD_push (items : Array α) (item : α) (place : Nat) (fallback : α) :
    (items.push item).getD place fallback
      = if place = items.size then item else items.getD place fallback := by
  rw [Array.getD_eq_getD_getElem?, Array.getD_eq_getD_getElem?, Array.getElem?_push]
  split
  · rfl
  · rfl

theorem getD_beyond {items : Array α} {place : Nat} (beyond : items.size ≤ place) (fallback : α) :
    items.getD place fallback = fallback := by
  rw [Array.getD_eq_getD_getElem?, Array.getElem?_eq_none beyond]
  rfl

end Lookups

namespace Network

variable (network : Network)

@[simp]
theorem graph_modifyGraph (graph key : GraphKey) (change : Graph → Graph) :
    (network.modifyGraph graph change).graph key
      = if graph = key ∧ key < network.graphs.size then change (network.graph key)
        else network.graph key :=
  getD_modify network.graphs graph key change default

@[simp]
theorem node_modifyNode (node key : NodeKey) (change : Node → Node) :
    (network.modifyNode node change).node key
      = if node = key ∧ key < network.nodes.size then change (network.node key)
        else network.node key :=
  getD_modify network.nodes node key change default

@[simp]
theorem var_modifyVariable (variableKey key : VariableKey) (change : Variable → Variable) :
    (network.modifyVariable variableKey change).var key
      = if variableKey = key ∧ key < network.vars.size then change (network.var key)
        else network.var key :=
  getD_modify network.vars variableKey key change default

/-! ### Changes -/

def withGraph (name : Value) : Network :=
  { network with graphs := network.graphs.push { name := name } }

def withCurrent (graph : Option GraphKey) : Network := { network with current := graph }

/-- A new node, listed in its graph. -/
def withNode (graph : GraphKey) (ids : IdRegistry) (node : Node) : Network :=
  { network with nodes := network.nodes.push node }.modifyGraph graph fun contents =>
    { contents with nodeIds := ids, nodes := Table.put node.id network.nodes.size contents.nodes }

def withVariable (graph : GraphKey) (ids : IdRegistry) (name : Key) : Network :=
  { network with vars := network.vars.push { id := name } }.modifyGraph graph fun contents =>
    { contents with variableIds := ids, vars := Table.put name network.vars.size contents.vars }

/-- The name that the next edge of a graph gets. -/
def edgeName (graph : GraphKey) : String := ((network.graph graph).edgeIds.generate "edge").1

/-- The name of the next edge is used up. -/
def withEdgeName (graph : GraphKey) : Network :=
  network.modifyGraph graph fun contents =>
    { contents with edgeIds := ((network.graph graph).edgeIds.generate "edge").2 }

/-- Two sockets of a graph are joined by an edge that carries a variable. -/
def withEdge (graph : GraphKey) (first second : Socket) (carried : VariableKey) : Network :=
  let named := network.withEdgeName graph
  let key := named.edges.size
  let pushed : Network := { named with
    edges := named.edges.push ⟨network.edgeName graph, first, second, .variable carried⟩ }
  let joined := (pushed.joinSocket first key).joinSocket second key
  let attached := joined.modifyVariable carried fun contents =>
    { contents with edges := contents.edges ++ [key] }
  attached.modifyGraph graph fun contents => { contents with edges := contents.edges ++ [key] }

def withPlaceholder (graph : GraphKey) (name : Key) (binding : Placeholder) : Network :=
  network.modifyGraph graph fun contents =>
    { contents with placeholders := Table.put name binding contents.placeholders }

def withRole (key : NodeKey) (role : Role) : Network :=
  network.modifyNode key fun contents => { contents with role := role }

/-- The socket is one of the interfaces of its node. -/
def IsSocket (socket : Socket) : Prop :=
  socket.slot < (network.node socket.node).interfaces.length

end Network

/-- The number of interfaces suits the role: leaves have one, and a composite node has one for each of
its terminals, which are terminals of its inner graph. -/
def Role.Fits (network : Network) (interfaces : Nat) : Role → Prop
  | .constant _ | .terminal => interfaces = 1
  | .composite inner terminals _ => interfaces = terminals.length ∧
      ∀ terminal ∈ terminals, terminal < network.nodes.size ∧
        (network.node terminal).isTerminal = true ∧ inner = some (network.node terminal).graph
  | .factor | .gain _ => True

/-- A composite role without inner schedules, or any other role. -/
def Role.IsUnscheduled : Role → Prop
  | .composite _ _ schedules => schedules = []
  | _ => True

namespace Network

/-- One change of a network. -/
inductive Change (network : Network) : Network → Prop
  | graph (name : Value) : Change network (network.withGraph name)
  | current {graph : Option GraphKey}
      (known : ∀ key, graph = some key → key < network.graphs.size) :
      Change network (network.withCurrent graph)
  | node {graph : GraphKey} {id : Option Key} {kind : Value} {name : Key} {ids : IdRegistry}
      {role : Role} {interfaces : List Key} (present : graph < network.graphs.size)
      (assigned : (network.graph graph).nodeIds.assign id kind = .ok (name, ids))
      (fits : role.Fits network interfaces.length) (unscheduled : role.IsUnscheduled) :
      Change network (network.withNode graph ids
        ⟨name, graph, kind, role, interfaces.map fun interface => { name := interface }⟩)
  | variable {graph : GraphKey} {id : Option Key} {name : Key} {ids : IdRegistry}
      (present : graph < network.graphs.size)
      (assigned : (network.graph graph).variableIds.assign id (.text "variable") = .ok (name, ids)) :
      Change network (network.withVariable graph ids name)
  | edgeName (graph : GraphKey) : Change network (network.withEdgeName graph)
  | edge {graph : GraphKey} {first second : Socket} {carried : VariableKey}
      (present : graph < network.graphs.size) (known : carried < network.vars.size)
      (firstSocket : network.IsSocket first) (secondSocket : network.IsSocket second)
      (firstHome : (network.node first.node).graph = graph)
      (secondHome : (network.node second.node).graph = graph) (apart : first.node ≠ second.node)
      (firstFree : network.edgeAt? first = none) (secondFree : network.edgeAt? second = none) :
      Change network (network.withEdge graph first second carried)
  | placeholder {node : NodeKey} (binding : Placeholder) (present : node < network.nodes.size)
      (constant : (network.node node).isConstant = true) :
      Change network (network.withPlaceholder (network.node node).graph (network.node node).id binding)
  | schedule {key : NodeKey} {inner : Option GraphKey} {terminals : List NodeKey}
      {schedules : List (Nat × Schedule)} {slot : Nat} {schedule : Schedule} {partner : Socket}
      (present : key < network.nodes.size)
      (composite : (network.node key).role = .composite inner terminals schedules)
      (slotted : slot < (network.node key).interfaces.length)
      (reached : network.partner? ⟨(terminals[slot]?).getD 0, 0⟩ = some partner)
      (computed : (schedule.indexOf partner).isSome = true) :
      Change network (network.withRole key
        (.composite inner terminals (Association.set slot schedule schedules)))

/-- Any number of changes, one after the other. -/
abbrev Changes : Network → Network → Prop := Relation.ReflTransGen Change

end Network

/-! ### Running an operation -/

namespace Build

variable {α β : Type}

/-- The network after an operation, whether the operation succeeds or not. -/
def after (build : Build α) (network : Network) : Network :=
  match build network with
  | .ok _ reached | .error _ reached => reached

/-- What holds of the answer and the network after success, and of the network after failure. -/
def Ensures (build : Build α) (network : Network) (succeeded : α → Network → Prop)
    (failed : Network → Prop) : Prop :=
  match build network with
  | .ok value reached => succeeded value reached
  | .error _ reached => failed reached

section Rules

variable {build : Build α} {network : Network} {succeeded : α → Network → Prop}
  {failed : Network → Prop}

theorem Ensures.after {holds : Network → Prop}
    (ensured : Ensures build network (fun _ reached => holds reached) holds) :
    holds (build.after network) := by
  unfold Ensures at ensured
  unfold Build.after
  cases result : build network with
  | ok value reached =>
      rw [result] at ensured
      exact ensured
  | error fault reached =>
      rw [result] at ensured
      exact ensured

theorem Ensures.imp {wanted : α → Network → Prop} {otherwise : Network → Prop}
    (ensured : Ensures build network succeeded failed)
    (success : ∀ value reached, succeeded value reached → wanted value reached)
    (failure : ∀ reached, failed reached → otherwise reached) :
    Ensures build network wanted otherwise := by
  unfold Ensures at ensured ⊢
  cases result : build network with
  | ok value reached =>
      rw [result] at ensured
      exact success value reached ensured
  | error fault reached =>
      rw [result] at ensured
      exact failure reached ensured

@[simp]
theorem ensures_bind {next : α → Build β} {succeeded : β → Network → Prop} :
    Ensures (build >>= next) network succeeded failed ↔
      Ensures build network (fun value reached => Ensures (next value) reached succeeded failed)
        failed := by
  have opened : (build >>= next) network = EStateM.bind build next network := rfl
  unfold Ensures
  rw [opened, EStateM.bind]
  cases build network with
  | ok value reached => rfl
  | error fault reached => rfl

@[simp]
theorem ensures_pure {value : α} :
    Ensures (pure value) network succeeded failed ↔ succeeded value network := Iff.rfl

@[simp]
theorem ensures_throw {fault : Fault} :
    Ensures (throw fault) network succeeded failed ↔ failed network := Iff.rfl

@[simp]
theorem ensures_get {succeeded : Network → Network → Prop} :
    Ensures get network succeeded failed ↔ succeeded network network := Iff.rfl

@[simp]
theorem ensures_set {replaced : Network} {succeeded : PUnit → Network → Prop} :
    Ensures (set replaced) network succeeded failed ↔ succeeded ⟨⟩ replaced := Iff.rfl

@[simp]
theorem ensures_modify {change : Network → Network} {succeeded : PUnit → Network → Prop} :
    Ensures (modify change) network succeeded failed ↔ succeeded ⟨⟩ (change network) := Iff.rfl

theorem ensures_lift {result : Except Fault α}
    (success : ∀ value, result = .ok value → succeeded value network) (failure : failed network) :
    Ensures (lift result) network succeeded failed := by
  cases result with
  | ok value => exact success value rfl
  | error fault => exact failure

end Rules

/-! ### Nodes -/

section Nodes

variable {network : Network} {graph : Option GraphKey} {kind : Value} {role : Role}
  {interfaces : List Key} {id : Option Key}

theorem newGraph_ensures (network : Network) (name : Value) :
    Ensures (newGraph name) network
      (fun key reached => reached = network.withGraph name ∧ key = network.graphs.size)
      (fun _ => False) :=
  ⟨rfl, rfl⟩

theorem currentGraph_ensures
    (known : ∀ key, network.current = some key → key < network.graphs.size) :
    Ensures currentGraph network
      (fun key reached => network.Changes reached ∧ key < reached.graphs.size ∧
        reached.nodes = network.nodes) (fun _ => False) := by
  simp only [currentGraph, ensures_bind, ensures_get]
  cases current : network.current with
  | some key => exact ⟨.refl, known key current, rfl⟩
  | none =>
      simp only [ensures_bind, ensures_modify, ensures_pure]
      refine (newGraph_ensures network .absent).imp ?_ (fun _ impossible => impossible)
      rintro key reached ⟨rfl, rfl⟩
      have grown : network.graphs.size < (network.withGraph .absent).graphs.size := by
        rw [Network.withGraph, Array.size_push]
        exact Nat.lt_succ_self _
      refine ⟨?_, grown, rfl⟩
      refine .tail (.single (.graph .absent)) (.current ?_)
      rintro key same
      cases same
      exact grown

theorem chooseGraph_ensures
    (known : ∀ key, network.current = some key → key < network.graphs.size)
    (present : ∀ key, graph = some key → key < network.graphs.size) :
    Ensures (chooseGraph graph) network
      (fun key reached => network.Changes reached ∧ key < reached.graphs.size ∧
        reached.nodes = network.nodes) (fun _ => False) := by
  cases graph with
  | some key => exact ⟨.refl, present key rfl, rfl⟩
  | none => exact currentGraph_ensures known

theorem register_ensures {graph : GraphKey} (present : graph < network.graphs.size)
    (fits : role.Fits network interfaces.length) (unscheduled : role.IsUnscheduled) :
    Ensures (register graph id kind role interfaces) network
      (fun _ reached => network.Change reached) (fun reached => reached = network) := by
  simp only [register, ensures_bind, ensures_get]
  refine ensures_lift ?_ rfl
  rintro ⟨name, ids⟩ assigned
  exact .node present assigned fits unscheduled

theorem Role.Fits.congr {other : Network} {count : Nat} (same : other.nodes = network.nodes)
    (fits : role.Fits network count) : role.Fits other count := by
  have alike : ∀ key, other.node key = network.node key := by
    intro key
    rw [Network.node, Network.node, same]
  cases role with
  | factor | gain _ => trivial
  | constant _ | terminal => exact fits
  | composite inner terminals schedules =>
      refine ⟨fits.1, fun terminal member => ?_⟩
      rw [same, alike]
      exact fits.2 terminal member

theorem addNode_ensures (known : ∀ key, network.current = some key → key < network.graphs.size)
    (present : ∀ key, graph = some key → key < network.graphs.size)
    (fits : role.Fits network interfaces.length) (unscheduled : role.IsUnscheduled) :
    Ensures (addNode kind role interfaces id graph) network
      (fun _ reached => network.Changes reached) (network.Changes) := by
  simp only [addNode, ensures_bind]
  refine (chooseGraph_ensures known present).imp ?_ (fun _ impossible => impossible.elim)
  rintro key reached ⟨changed, there, same⟩
  refine (register_ensures there (Role.Fits.congr same fits) unscheduled).imp ?_ ?_
  · intro _ final stepped
    exact changed.tail stepped
  · rintro final rfl
    exact changed

theorem checkTerminals_ensures {inner : Option GraphKey} {offered : List Offer}
    (present : ∀ key, .node key ∈ offered → key < network.nodes.size) :
    Ensures (checkTerminals inner offered) network
      (fun terminals reached => reached = network ∧ ∀ terminal ∈ terminals,
        terminal < network.nodes.size ∧ (network.node terminal).isTerminal = true ∧
          inner = some (network.node terminal).graph) (fun reached => reached = network) := by
  induction offered with
  | nil => exact ⟨rfl, fun _ member => (List.not_mem_nil member).elim⟩
  | cons offer rest ih =>
      cases offer with
      | other text => rfl
      | node key =>
          have later := ih fun other member => present other (List.mem_cons_of_mem _ member)
          simp only [checkTerminals, ensures_bind, ensures_get]
          split
          · rename_i accepted
            rw [Bool.and_eq_true, decide_eq_true_eq] at accepted
            simp only [ensures_bind, ensures_pure]
            refine later.imp ?_ (fun _ same => same)
            rintro terminals reached ⟨rfl, each⟩
            refine ⟨rfl, fun terminal member => ?_⟩
            rcases List.mem_cons.mp member with rfl | other
            · exact ⟨present terminal List.mem_cons_self, accepted⟩
            · exact each terminal other
          · rfl

theorem addComposite_ensures {inner : Option GraphKey} {offered : List Offer} {kind : Option Value}
    (known : ∀ key, network.current = some key → key < network.graphs.size)
    (present : ∀ key, graph = some key → key < network.graphs.size)
    (offers : ∀ key, .node key ∈ offered → key < network.nodes.size) :
    Ensures (addComposite inner offered kind id graph) network
      (fun _ reached => network.Changes reached) (network.Changes) := by
  simp only [addComposite, ensures_bind]
  refine (checkTerminals_ensures offers).imp ?_ ?_
  · rintro terminals reached ⟨rfl, each⟩
    simp only [ensures_get]
    have fits : (Role.composite inner terminals []).Fits reached
        (terminals.map fun terminal => (reached.node terminal).id).length :=
      ⟨List.length_map _, each⟩
    refine (addNode_ensures known present fits rfl).imp ?_ (fun _ changed => changed)
    intro key final changed
    split
    · exact changed
    · exact changed
  · rintro reached rfl
    exact .refl

end Nodes

/-! ### Variables and edges -/

section Edges

variable {network : Network} {graph : GraphKey} {id : Option Key}

/-- A variable to carry is found or made without touching nodes and edges. -/
structure Provides (network : Network) (key : VariableKey) (reached : Network) : Prop where
  changed : network.Changes reached
  known : key < reached.vars.size
  nodes : reached.nodes = network.nodes
  graphs : reached.graphs.size = network.graphs.size

theorem addVariable_ensures (present : graph < network.graphs.size) :
    Ensures (addVariable graph id) network (Provides network) (fun reached => reached = network) := by
  simp only [addVariable, ensures_bind, ensures_get]
  refine ensures_lift ?_ rfl
  rintro ⟨name, ids⟩ assigned
  have grown : network.vars.size < (network.withVariable graph ids name).vars.size :=
    Nat.lt_of_lt_of_eq (Nat.lt_succ_self _) (Array.size_push _).symm
  exact ⟨.single (.variable present assigned), grown, rfl, Array.size_modify⟩

/-- What is asked for is a variable: a new one, one by name, or one that exists. -/
def CarryRequest.IsVariable (network : Network) : CarryRequest → Prop
  | .anonymous | .named _ => True
  | .given (.variable key) => key < network.vars.size
  | .given (.stray _) => False

theorem provide_ensures {request : CarryRequest} (present : graph < network.graphs.size)
    (requested : request.IsVariable network)
    (listed : ∀ name key, (network.graph graph).vars.get? name = some key → key < network.vars.size) :
    Ensures (provide graph request) network
      (fun carried reached => ∃ key, carried = .variable key ∧ Provides network key reached)
      (fun reached => reached = network) := by
  cases request with
  | anonymous =>
      simp only [provide, ensures_bind, ensures_pure]
      exact (addVariable_ensures present).imp (fun key _ provided => ⟨key, rfl, provided⟩)
        (fun _ same => same)
  | named name =>
      simp only [provide, ensures_bind, ensures_get]
      cases found : (network.graph graph).vars.get? name with
      | some key => exact ⟨key, rfl, .refl, listed name key found, rfl, rfl⟩
      | none =>
          simp only [ensures_bind, ensures_pure]
          exact (addVariable_ensures present).imp (fun key _ provided => ⟨key, rfl, provided⟩)
            (fun _ same => same)
  | given carried =>
      cases carried with
      | «variable» key => exact ⟨key, rfl, .refl, requested, rfl, rfl⟩
      | stray value => exact requested.elim

theorem checkOwner_ensures (network : Network) (graph : GraphKey) (socket : Socket) :
    Ensures (checkOwner graph socket) network
      (fun _ reached => reached = network ∧ (network.node socket.node).graph = graph)
      (fun reached => reached = network) := by
  simp only [checkOwner, ensures_bind, ensures_get]
  split
  · rfl
  · rename_i home
    exact ⟨rfl, not_not.mp home⟩

theorem checkFree_ensures (network : Network) (socket : Socket) :
    Ensures (checkFree socket) network
      (fun _ reached => reached = network ∧ network.edgeAt? socket = none)
      (fun reached => reached = network) := by
  simp only [checkFree, ensures_bind, ensures_get]
  split
  · rfl
  · rename_i free
    exact ⟨rfl, by simpa using free⟩

theorem generateEdgeId_ensures (network : Network) (graph : GraphKey) :
    Ensures (generateEdgeId graph) network
      (fun id reached => id = network.edgeName graph ∧ reached = network.withEdgeName graph)
      (fun _ => False) :=
  ⟨rfl, rfl⟩

theorem connect_ensures {first second : Socket} {request : CarryRequest}
    (present : graph < network.graphs.size) (requested : request.IsVariable network)
    (listed : ∀ name key, (network.graph graph).vars.get? name = some key → key < network.vars.size)
    (firstSocket : network.IsSocket first) (secondSocket : network.IsSocket second) :
    Ensures (connect graph first second request) network
      (fun _ reached => network.Changes reached) (network.Changes) := by
  simp only [connect, ensures_bind]
  refine (checkOwner_ensures network graph first).imp ?_ (fun reached same => same ▸ .refl)
  rintro _ reached ⟨rfl, firstHome⟩
  refine (checkOwner_ensures reached graph second).imp ?_ (fun reached same => same ▸ .refl)
  rintro _ network ⟨rfl, secondHome⟩
  refine (provide_ensures present requested listed).imp ?_ (fun reached same => same ▸ .refl)
  rintro _ carrying ⟨carried, rfl, provided⟩
  refine (generateEdgeId_ensures carrying graph).imp ?_ (fun _ impossible => impossible.elim)
  rintro _ _ ⟨rfl, rfl⟩
  have alike : ∀ key, carrying.node key = network.node key := by
    intro key
    rw [Network.node, Network.node, provided.nodes]
  -- From here on every failure leaves behind that the name of an edge is used up.
  have used : network.Changes (carrying.withEdgeName graph) :=
    provided.changed.tail (.edgeName graph)
  by_cases loop : first.node = second.node
  · rw [if_pos loop]
    exact used
  · rw [if_neg loop]
    simp only [ensures_bind]
    refine (checkFree_ensures _ first).imp ?_ (fun reached same => same ▸ used)
    rintro _ _ ⟨rfl, firstFree⟩
    refine (checkFree_ensures _ second).imp ?_ (fun reached same => same ▸ used)
    rintro _ _ ⟨rfl, secondFree⟩
    refine provided.changed.tail (.edge ?_ provided.known ?_ ?_ ?_ ?_ loop firstFree secondFree)
    · rw [provided.graphs]
      exact present
    · rw [Network.IsSocket, alike]
      exact firstSocket
    · rw [Network.IsSocket, alike]
      exact secondSocket
    · rw [alike]
      exact firstHome
    · rw [alike]
      exact secondHome

end Edges

/-! ### Placeholders and inner schedules -/

section Furnishing

variable {network : Network}

theorem bindOffered_ensures {graph : GraphKey} {offered : Offer} (buffer index : Value)
    (present : ∀ key, offered = .node key → key < network.nodes.size) :
    Ensures (bindOffered graph offered buffer index) network
      (fun _ reached => network.Changes reached) (network.Changes) := by
  cases offered with
  | other text => exact .refl
  | node key =>
      simp only [bindOffered, bindPlaceholder, ensures_bind, ensures_get]
      split
      · rename_i accepted
        rw [Bool.and_eq_true, decide_eq_true_eq] at accepted
        obtain ⟨constant, rfl⟩ := accepted
        exact .single (.placeholder ⟨buffer, index⟩ (present key rfl) constant)
      · exact .refl

theorem slot_lt {node : Node} {key : Value} {slot : Nat} (found : node.slot key = .ok slot) :
    slot < node.interfaces.length := by
  unfold Node.slot at found
  split at found
  · rename_i index known
    split at found
    · rename_i place placed
      cases found
      simp only [Value.place?, Option.ite_none_right_eq_some, Option.some.injEq] at placed
      obtain ⟨⟨_, bound⟩, rfl⟩ := placed
      omega
    · cases found
  · obtain ⟨name, _, found⟩ := Partial.bind_eq_ok.mp found
    split at found
    · rename_i entry listed
      cases found
      have member := List.mem_reverse.mp (List.mem_of_find?_eq_some listed)
      exact List.snd_lt_of_mem_zipIdx member
    · cases found

theorem defineSchedule_ensures {key : NodeKey} (slot : Value) (schedule : Option Schedule)
    (present : key < network.nodes.size) :
    Ensures (defineSchedule key slot schedule) network
      (fun _ reached => network.Changes reached) (network.Changes) := by
  simp only [defineSchedule, ensures_bind, ensures_get]
  split
  · rename_i inner terminals schedules composite
    simp only [ensures_bind]
    refine ensures_lift ?_ .refl
    intro index slotted
    refine ensures_lift ?_ .refl
    intro computed searched
    split
    · rename_i found
      unfold computedIndex at searched
      split at searched
      · cases searched
        cases found
      · rename_i partner reached
        split at searched
        · rename_i entries
          cases searched
          exact .single (.schedule present composite (slot_lt slotted) reached found)
        · cases searched
    · exact .refl
  · exact .refl

end Furnishing

/-! ### Networks that can be built -/

/-- The operations that build a network. -/
inductive Call where
  | newGraph (name : Value)
  | currentGraph
  | setCurrent (graph : Option GraphKey)
  | addFactor (kind : String) (id : Option Key) (graph : Option GraphKey)
  | addConstant (value : Value) (id : Option Key) (graph : Option GraphKey)
  | addTerminal (id : Option Key) (graph : Option GraphKey)
  | addGain (gain : Value) (id : Option Key) (graph : Option GraphKey)
  | addComposite (inner : Option GraphKey) (offered : List Offer) (kind : Option Value)
      (id : Option Key) (graph : Option GraphKey)
  | addVariable (graph : GraphKey) (id : Option Key)
  | connect (graph : GraphKey) (first second : Socket) (request : CarryRequest)
  | bindPlaceholder (graph : GraphKey) (offered : Offer) (buffer index : Value)
  | defineSchedule (node : NodeKey) (slot : Value) (schedule : Option Schedule)

namespace Call

/-- The network that a call leaves behind, also when it fails. -/
def after (network : Network) : Call → Network
  | newGraph name => (Build.newGraph name).after network
  | currentGraph => Build.currentGraph.after network
  | setCurrent graph => (Build.setCurrent graph).after network
  | addFactor kind id graph => (Build.addFactor kind id graph).after network
  | addConstant value id graph => (Build.addConstant value id graph).after network
  | addTerminal id graph => (Build.addTerminal id graph).after network
  | addGain gain id graph => (Build.addGain gain id graph).after network
  | addComposite inner offered kind id graph =>
      (Build.addComposite inner offered kind id graph).after network
  | addVariable graph id => (Build.addVariable graph id).after network
  | connect graph first second request => (Build.connect graph first second request).after network
  | bindPlaceholder graph offered buffer index =>
      (Build.bindOffered graph offered buffer index).after network
  | defineSchedule node slot schedule => (Build.defineSchedule node slot schedule).after network

/-- The graphs, nodes, interfaces and variables that a call names exist, and an edge is to carry a
variable. -/
def IsPossible (network : Network) : Call → Prop
  | newGraph _ | currentGraph => True
  | setCurrent graph | addFactor _ _ graph | addConstant _ _ graph | addTerminal _ graph
  | addGain _ _ graph => ∀ key, graph = some key → key < network.graphs.size
  | addComposite _ offered _ _ graph => (∀ key, graph = some key → key < network.graphs.size) ∧
      ∀ key, .node key ∈ offered → key < network.nodes.size
  | addVariable graph _ => graph < network.graphs.size
  | connect graph first second request => graph < network.graphs.size ∧
      network.IsSocket first ∧ network.IsSocket second ∧ request.IsVariable network
  | bindPlaceholder _ offered _ _ => ∀ key, offered = .node key → key < network.nodes.size
  | defineSchedule node _ _ => node < network.nodes.size

/-- A call that is possible changes the network by the known changes only. -/
theorem changes {network : Network} {call : Call} (possible : call.IsPossible network)
    (known : ∀ key, network.current = some key → key < network.graphs.size)
    (listed : ∀ graph name key, (network.graph graph).vars.get? name = some key →
      key < network.vars.size) :
    network.Changes (call.after network) := by
  cases call with
  | newGraph name => exact .single (.graph name)
  | currentGraph =>
      exact ((currentGraph_ensures known).imp (fun _ _ reached => reached.1)
        (fun _ impossible => impossible.elim)).after
  | setCurrent graph => exact .single (.current possible)
  | addFactor kind id graph =>
      apply Ensures.after
      exact addNode_ensures known possible trivial trivial
  | addConstant value id graph =>
      apply Ensures.after
      exact addNode_ensures known possible rfl trivial
  | addTerminal id graph =>
      apply Ensures.after
      exact addNode_ensures known possible rfl trivial
  | addGain gain id graph =>
      apply Ensures.after
      simp only [Build.addGain, ensures_bind]
      refine ensures_lift ?_ .refl
      intro held _
      exact addNode_ensures known possible trivial trivial
  | addComposite inner offered kind id graph =>
      exact (addComposite_ensures known possible.1 possible.2).after
  | addVariable graph id =>
      exact ((addVariable_ensures possible).imp (fun _ _ provided => provided.changed)
        (fun reached same => same ▸ .refl)).after
  | connect graph first second request =>
      obtain ⟨present, firstSocket, secondSocket, requested⟩ := possible
      exact (connect_ensures present requested (listed graph) firstSocket secondSocket).after
  | bindPlaceholder graph offered buffer index => exact (bindOffered_ensures buffer index possible).after
  | defineSchedule node slot schedule => exact (defineSchedule_ensures slot schedule possible).after

end Call

end Build

/-- The network can be built from the empty one, by calls some of which may fail. -/
inductive Network.Reachable : Network → Prop
  | empty : Reachable {}
  | call {network : Network} {call : Build.Call} (reachable : Reachable network)
      (possible : call.IsPossible network) : Reachable (call.after network)

end SumProduct
