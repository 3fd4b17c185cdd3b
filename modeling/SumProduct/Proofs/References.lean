/-
References to the interfaces of a described model.

A reference is a node name and an interface name with a point between them, and it is read at its first point.
Interface names hold no point, but names of nodes may.  So an interface is found by its own reference and by no
other one if the name of its node has no point in it, and otherwise nothing leads to it.
-/

import SumProduct.Model
import SumProduct.Proofs.Flattening
import SumProduct.Proofs.Refusals

set_option autoImplicit false

namespace SumProduct

open Partial (bind_eq_ok)

/-! ### Interfaces by name -/

/-- The interfaces have different names, which are texts without a point. -/
structure Node.IsPlain (node : Node) : Prop where
  distinct : (node.interfaces.map Interface.name).Nodup
  texts : ∀ interface ∈ node.interfaces, ∃ name, interface.name = .text name ∧ name ≠ "" ∧ '.' ∉ name.toList

theorem Node.IsPlain.of_names {node other : Node} (plain : node.IsPlain)
    (same : other.interfaces.map Interface.name = node.interfaces.map Interface.name) : other.IsPlain := by
  constructor
  case distinct =>
    rw [same]
    exact plain.distinct
  case texts =>
    intro interface member
    have named : interface.name ∈ node.interfaces.map Interface.name := same ▸ List.mem_map_of_mem member
    obtain ⟨former, listed, kept⟩ := List.mem_map.mp named
    rw [← kept]
    exact plain.texts former listed

section Interfaces

variable {node : Node} {name : String} {slot : Nat}

theorem Node.slot_text (node : Node) (name : String) : node.slot (.text name)
    = match node.interfaces.zipIdx.reverse.find? fun entry => entry.1.name.same (.text name) with
      | some entry => .ok entry.2
      | none => .error (.refused (.noInterface node.kind.plain node.id.plain (Value.text name).literal)) := by
  rw [Node.slot]
  simp only [Value.toIndex?, Value.key, Partial.ok_bind]
  rfl

theorem Node.name_of_slot (found : node.slot (.text name) = .ok slot) :
    ∃ interface, node.interfaces[slot]? = some interface ∧ interface.name = .text name := by
  rw [Node.slot_text] at found
  split at found
  · rename_i entry listed
    cases found
    obtain ⟨interface, place⟩ := entry
    have member := List.mem_reverse.mp (List.mem_of_find?_eq_some listed)
    have same := List.find?_some listed
    simp only [Key.same_iff] at same
    exact ⟨interface, List.mk_mem_zipIdx_iff_getElem?.mp member, Key.normal_eq_text.mp same⟩
  · cases found

theorem Node.IsPlain.slot_of_name {interface : Interface} (plain : node.IsPlain)
    (placed : node.interfaces[slot]? = some interface) (named : interface.name = .text name) :
    node.slot (.text name) = .ok slot := by
  rw [Node.slot_text]
  cases search : node.interfaces.zipIdx.reverse.find? fun entry => entry.1.name.same (.text name) with
  | none =>
      rw [List.find?_eq_none] at search
      have member := List.mem_reverse.mpr (List.mk_mem_zipIdx_iff_getElem?.mpr placed)
      have missed := search _ member
      rw [named] at missed
      exact absurd (Key.same_iff.mpr rfl) missed
  | some entry =>
      obtain ⟨other, place⟩ := entry
      have member := List.mem_reverse.mp (List.mem_of_find?_eq_some search)
      have otherPlaced := List.mk_mem_zipIdx_iff_getElem?.mp member
      have same := List.find?_some search
      simp only [Key.same_iff] at same
      have otherNamed := Key.normal_eq_text.mp same
      have here : (node.interfaces.map Interface.name)[slot]? = some (.text name) := by
        rw [List.getElem?_map, placed, Option.map_some, named]
      have there : (node.interfaces.map Interface.name)[place]? = some (.text name) := by
        rw [List.getElem?_map, otherPlaced, Option.map_some, otherNamed]
      obtain ⟨inside, _⟩ := List.getElem?_eq_some_iff.mp there
      have equal := (List.getElem?_inj inside plain.distinct).mp (there.trans here.symm)
      exact congrArg Except.ok equal

end Interfaces

/-! ### Reading a reference -/

namespace Model

variable {network : Network} {graph : GraphKey} {id name reference : String}

theorem splitReference_point (apart : '.' ∉ id.toList) : splitReference (id ++ "." ++ name) = (id, name) := by
  have before : ∀ c ∈ id.toList, (c != '.') = true := by
    intro c member
    rw [bne_iff_ne]
    intro same
    exact apart (same ▸ member)
  have written : (id ++ "." ++ name).toList = id.toList ++ '.' :: name.toList := by simp
  simp [splitReference, written, List.takeWhile_append_of_pos before, List.dropWhile_append_of_pos before]

/-- What is read as two names is written as these two names with a point between them. -/
theorem splitReference_inv (named : (splitReference reference).2 ≠ "") :
    '.' ∉ (splitReference reference).1.toList ∧
      reference = (splitReference reference).1 ++ "." ++ (splitReference reference).2 := by
  have parts : reference.toList.takeWhile (· != '.') ++ reference.toList.dropWhile (· != '.')
      = reference.toList := List.takeWhile_append_dropWhile
  constructor
  · intro member
    have other := List.all_eq_true.mp List.all_takeWhile _ (String.toList_ofList ▸ member)
    simp at other
  · cases behind : reference.toList.dropWhile (· != '.') with
    | nil =>
        refine absurd ?_ named
        simp [splitReference, behind]
    | cons c rest =>
        have nonempty : reference.toList.dropWhile (· != '.') ≠ [] := by
          rw [behind]
          exact List.cons_ne_nil c rest
        have point := List.head_dropWhile_not (· != '.') nonempty
        simp only [behind, List.head_cons, bne_eq_false_iff_eq] at point
        apply String.toList_inj.mp
        rw [← parts]
        simp [splitReference, behind, point]

theorem findSocket_eq_ok {offered : Value} {socket : Socket} :
    findSocket network graph offered = .ok socket ↔
      ∃ id name : String, '.' ∉ id.toList ∧ name ≠ "" ∧ offered = .text (id ++ "." ++ name) ∧
        network.findNode graph id = .ok socket.node ∧
        (network.node socket.node).slot (.text name) = .ok socket.slot := by
  constructor
  · intro found
    unfold findSocket at found
    split at found
    · rename_i reference
      simp only at found
      split at found
      · cases found
      · rename_i nonempty
        obtain ⟨node, atNode, found⟩ := bind_eq_ok.mp found
        obtain ⟨slot, atSlot, found⟩ := bind_eq_ok.mp found
        cases found
        have named : (splitReference reference).2 ≠ "" := by simpa using nonempty
        obtain ⟨apart, same⟩ := splitReference_inv named
        exact ⟨_, _, apart, named, congrArg Value.text same, atNode, atSlot⟩
    · cases found
  · rintro ⟨id, name, apart, named, rfl, atNode, atSlot⟩
    have nonempty : name.isEmpty = false := by simpa using named
    simp only [findSocket, splitReference_point apart, nonempty, Bool.false_eq_true, if_false, atNode,
      Partial.ok_bind, atSlot]
    rfl

end Model

/-! ### Loops of operations -/

namespace Build

variable {α : Type} {network : Network}

/-- The network that is reached is the one that the operation leaves behind. -/
theorem Ensures.left {build : Build α} {succeeded : α → Network → Prop} {failed : Network → Prop}
    (ensured : Ensures build network succeeded failed) :
    Ensures build network (fun value reached => succeeded value reached ∧ reached = build.after network)
      failed := by
  unfold Ensures Build.after at *
  cases result : build network with
  | ok value reached =>
      rw [result] at ensured
      exact ⟨ensured, rfl⟩
  | error fault reached =>
      rw [result] at ensured
      exact ensured

/-- A loop establishes of all items what each step adds for one item. -/
theorem ensures_forIn (step : α → Build PUnit) (holds : List α → Network → Prop)
    (adds : ∀ passed item network, holds passed network →
      Ensures (step item) network (fun _ reached => holds (passed ++ [item]) reached) (fun _ => True))
    (items passed : List α) (held : holds passed network) :
    Ensures (forIn items PUnit.unit fun item _ => do
        step item
        pure (.yield PUnit.unit)) network
      (fun _ reached => holds (passed ++ items) reached) (fun _ => True) := by
  induction items generalizing passed network with
  | nil =>
      rw [List.append_nil]
      exact held
  | cons item rest ih =>
      simp only [List.forIn_cons, bind_assoc, pure_bind, ensures_bind]
      refine (adds passed item network held).imp ?_ (fun _ done => done)
      intro _ reached next
      have onwards := ih (passed ++ [item]) next
      rw [List.append_assoc] at onwards
      exact onwards

end Build

/-! ### The nodes of a description -/

theorem Network.Reachable.next {network : Network} (reachable : network.Reachable) (call : Build.Call)
    (possible : call.IsPossible network) : (call.after network).Reachable := .call reachable possible

/-- The node belongs to the graph and has the name. -/
structure Network.Holds (network : Network) (graph : GraphKey) (id : String) (key : NodeKey) : Prop where
  there : key < network.nodes.size
  named : (network.node key).id = .text id
  home : (network.node key).graph = graph

/-- The graph has a node under each of the names, and all nodes have interfaces that can be referred to. -/
structure Network.Houses (network : Network) (graph : GraphKey) (names : List String) : Prop where
  reachable : network.Reachable
  present : graph < network.graphs.size
  held : ∀ id ∈ names, ∃ key, network.Holds graph id key
  plain : ∀ key, (network.node key).IsPlain

namespace Model

open Build

variable {network reached : Network} {graph : GraphKey} {id : String} {names : List String}

/-- Different texts without a point, as a test. -/
def areNames (interfaces : List Key) : Bool :=
  decide interfaces.Nodup && interfaces.all fun interface => match interface with
    | .text name => name != "" && !name.toList.contains '.'
    | _ => false

theorem isPlain_of_areNames {node : Node} {interfaces : List Key} (tested : areNames interfaces = true)
    (made : node.interfaces = interfaces.map fun interface => { name := interface }) : node.IsPlain := by
  rw [areNames, Bool.and_eq_true, decide_eq_true_eq, List.all_eq_true] at tested
  obtain ⟨distinct, texts⟩ := tested
  constructor
  case distinct =>
    rw [made, List.map_map]
    exact (List.map_id interfaces).symm ▸ distinct
  case texts =>
    intro interface member
    rw [made] at member
    obtain ⟨name, listed, rfl⟩ := List.mem_map.mp member
    have tested := texts name listed
    cases name with
    | text name =>
        simp only [Bool.and_eq_true, bne_iff_ne, Bool.not_eq_true', List.contains_eq_mem,
          decide_eq_false_iff_not] at tested
        exact ⟨name, rfl, tested.1, tested.2⟩
    | absent | flag _ | whole _ | real _ => cases tested

theorem areNames_of_kind (kind : String) : areNames ((factorKinds.lookup kind).getD []) = true := by
  cases found : factorKinds.lookup kind with
  | none => rfl
  | some interfaces =>
      obtain ⟨before, after, split, _⟩ := List.lookup_eq_some_iff.mp found
      have listed : ∀ entry ∈ factorKinds, areNames entry.2 = true := by decide +kernel
      rw [split] at listed
      exact listed (kind, interfaces) (List.mem_append_right before List.mem_cons_self)

/-- A node under the name is added to the graph. -/
structure Adds (network : Network) (graph : GraphKey) (id : String) (key : NodeKey) (reached : Network) :
    Prop where
  last : key = network.nodes.size
  added : ∃ ids node, reached = network.withNode graph ids node ∧ node.id = .text id ∧
    node.graph = graph ∧ node.IsPlain

theorem addNode_adds (network : Network) (graph : GraphKey) (id : String) (kind : Value) (role : Role)
    {interfaces : List Key} (tested : areNames interfaces = true) :
    Ensures (addNode kind role interfaces (some id) (some graph)) network (Adds network graph id)
      (fun _ => True) := by
  simp only [addNode, chooseGraph, register, ensures_bind, ensures_pure, ensures_get]
  apply ensures_lift
  · intro assigned claimed
    obtain ⟨ids, _, same⟩ := Partial.map_eq_ok.mp claimed
    cases same
    exact ⟨rfl, ids, _, rfl, rfl, rfl, isPlain_of_areNames tested rfl⟩
  · trivial

theorem addGain_adds (network : Network) (graph : GraphKey) (id : String) (gain : Value) :
    Ensures (addGain gain (some id) (some graph)) network (Adds network graph id) (fun _ => True) := by
  simp only [addGain, ensures_bind]
  apply ensures_lift
  · intro held _
    exact addNode_adds network graph id (.text "FixedGainNode") (.gain held) (by decide)
  · trivial

/-- An operation that is one of the possible calls leads to a network that can be built. -/
theorem reachable_of_call {α : Type} {build : Build α} {succeeded : α → Network → Prop}
    (reachable : network.Reachable) (call : Call) (possible : call.IsPossible network)
    (same : call.after network = build.after network)
    (ensured : Ensures build network succeeded (fun _ => True)) :
    Ensures build network (fun value reached => succeeded value reached ∧ reached.Reachable) (fun _ => True) := by
  apply ensured.left.imp
  · intro value reached done
    obtain ⟨done, left⟩ := done
    rw [left, ← same]
    exact ⟨by rw [same, ← left]; exact done, reachable.next call possible⟩
  · exact fun _ failed => failed

theorem addNodeOfKind_adds (houses : network.Houses graph names) (id : String) (description kind : Value) :
    Ensures (addNodeOfKind graph id description kind) network
      (fun key reached => Adds network graph id key reached ∧ reached.Reachable) (fun _ => True) := by
  have possible : ∀ key, some graph = some key → key < network.graphs.size := by
    intro key same
    cases same
    exact houses.present
  unfold addNodeOfKind
  split
  · simp only [ensures_bind]
    refine ensures_lift (fun value _ => ensures_lift (fun held _ => ?_) trivial) trivial
    exact reachable_of_call houses.reachable (.addConstant held (some id) (some graph)) possible rfl
      (addNode_adds network graph id (.text "Constant") (.constant held) (by decide))
  · split
    · simp only [ensures_bind]
      refine ensures_lift (fun value _ => ensures_lift (fun gain _ => ?_) trivial) trivial
      exact reachable_of_call houses.reachable (.addGain gain (some id) (some graph)) possible rfl
        (addGain_adds network graph id gain)
    · split
      · rename_i name _ _
        split
        · exact reachable_of_call houses.reachable (.addFactor name (some id) (some graph)) possible rfl
            (addNode_adds network graph id (.text name) .factor (areNames_of_kind name))
        · trivial
      · simp only [ensures_bind]
        exact ensures_lift (fun _ _ => trivial) trivial

/-- The nodes are the same, and the network can be built. -/
structure Rebinds (network reached : Network) : Prop where
  nodes : reached.nodes = network.nodes
  graphs : reached.graphs.size = network.graphs.size
  reachable : reached.Reachable

theorem bindPlaceholder_rebinds (reachable : network.Reachable) {node : NodeKey}
    (there : node < network.nodes.size) (graph : GraphKey) (buffer index : Value) :
    Ensures (bindPlaceholder graph node buffer index) network (fun _ reached => Rebinds network reached)
      (fun _ => True) := by
  have kept : Ensures (bindPlaceholder graph node buffer index) network
      (fun _ reached => reached.nodes = network.nodes ∧ reached.graphs.size = network.graphs.size)
      (fun _ => True) := by
    simp only [bindPlaceholder, ensures_bind, ensures_get]
    split
    · exact ⟨rfl, Array.size_modify⟩
    · trivial
  have offered : (bindOffered graph (.node node) buffer index).after network
      = (bindPlaceholder graph node buffer index).after network := by
    have opened : bindOffered graph (.node node) buffer index network
        = EStateM.bind (bindPlaceholder graph node buffer index) (fun _ => pure node) network := rfl
    rw [Build.after, Build.after, opened, EStateM.bind]
    cases bindPlaceholder graph node buffer index network with
    | ok value reached => rfl
    | error fault reached => rfl
  have possible : (Call.bindPlaceholder graph (.node node) buffer index).IsPossible network := by
    intro key same
    cases same
    exact there
  apply (reachable_of_call reachable (.bindPlaceholder graph (.node node) buffer index) possible offered kept).imp
  · intro _ reached done
    exact ⟨done.1.1, done.1.2, done.2⟩
  · exact fun _ failed => failed

/-- Binding a node to a buffer changes no node. -/
theorem bindNode_rebinds (reachable : network.Reachable) {node : NodeKey} (there : node < network.nodes.size)
    (graph : GraphKey) (binding : Value) :
    Ensures (bindNode graph node binding) network (fun _ reached => Rebinds network reached)
      (fun _ => True) := by
  unfold bindNode
  split
  · exact ⟨rfl, rfl, reachable⟩
  · exact bindPlaceholder_rebinds reachable there graph _ _
  · simp only [ensures_bind]
    refine ensures_lift (fun buffer _ => ensures_lift (fun index _ => ?_) trivial) trivial
    exact bindPlaceholder_rebinds reachable there graph _ _

theorem Adds.houses {key : NodeKey} (adds : Adds network graph id key reached)
    (houses : network.Houses graph names) (reachable : reached.Reachable) :
    key < reached.nodes.size ∧ reached.Houses graph (names ++ [id]) := by
  obtain ⟨rfl, ids, node, rfl, named, home, plain⟩ := adds
  have size : (network.withNode graph ids node).nodes.size = network.nodes.size + 1 := Array.size_push _
  have last : (network.withNode graph ids node).node network.nodes.size = node := by
    rw [Network.node_withNode, if_pos rfl]
  have there : network.nodes.size < (network.withNode graph ids node).nodes.size := by
    rw [size]
    exact Nat.lt_succ_self _
  refine ⟨there, reachable, ?_, ?_, ?_⟩
  · have graphs : (network.withNode graph ids node).graphs.size = network.graphs.size := Array.size_modify
    rw [graphs]
    exact houses.present
  · intro other member
    rcases List.mem_append.mp member with old | new
    · obtain ⟨key, inside, otherNamed, otherHome⟩ := houses.held other old
      have before : (network.withNode graph ids node).node key = network.node key := by
        rw [Network.node_withNode, if_neg (Nat.ne_of_lt inside)]
      exact ⟨key, inside.trans there, before ▸ otherNamed, before ▸ otherHome⟩
    · rw [List.mem_singleton.mp new]
      exact ⟨network.nodes.size, there, by rw [last, named], by rw [last, home]⟩
  · intro key
    rw [Network.node_withNode]
    split
    · exact plain
    · exact houses.plain key

/-- What leaves the names of nodes and of interfaces as they are leaves every node in its place. -/
theorem houses_of_keeps (houses : network.Houses graph names) (reachable : reached.Reachable)
    (present : graph < reached.graphs.size) (nodes : network.KeepsNodes reached)
    (interfaces : ∀ key, (reached.node key).interfaces.map Interface.name
      = (network.node key).interfaces.map Interface.name) : reached.Houses graph names := by
  refine ⟨reachable, present, ?_, fun key => (houses.plain key).of_names (interfaces key)⟩
  intro id member
  obtain ⟨key, there, named, home⟩ := houses.held id member
  exact ⟨key, there.trans_le nodes.size, (nodes.id key there).trans named, (nodes.graph key there).trans home⟩

theorem addDescribedNode_houses (houses : network.Houses graph names) (id : String) (description : Value) :
    Ensures (addDescribedNode graph id description) network
      (fun _ reached => reached.Houses graph (names ++ [id])) (fun _ => True) := by
  simp only [addDescribedNode, ensures_bind]
  refine ensures_lift (fun kind _ => ?_) trivial
  apply (addNodeOfKind_adds houses id description kind).imp
  · intro key between added
    obtain ⟨adds, reachable⟩ := added
    obtain ⟨there, housed⟩ := adds.houses houses reachable
    refine ensures_lift (fun binding _ => ?_) trivial
    apply (bindNode_rebinds reachable there graph (binding.getD .absent)).imp
    · intro _ reached rebinds
      obtain ⟨nodes, graphs, reachable⟩ := rebinds
      have alike : ∀ key, reached.node key = between.node key := by
        intro key
        rw [Network.node, Network.node, nodes]
      apply houses_of_keeps housed reachable (graphs ▸ housed.present) (.of_eq nodes)
      intro key
      rw [alike]
    · exact fun _ done => done
  · exact fun _ done => done

/-- The nodes that a description lists are in the graph. -/
theorem addDescribedNodes_houses (description : Value) :
    Ensures (addDescribedNodes description) {}
      (fun graph reached => ∃ fields, description.item (.text "nodes") = .ok (.record fields) ∧
        reached.Houses graph (fields.map Prod.fst)) (fun _ => True) := by
  simp only [addDescribedNodes, ensures_bind]
  apply (newGraph_ensures {} .absent).left.imp
  · intro graph between made
    obtain ⟨⟨_, rfl⟩, rfl⟩ := made
    refine ensures_lift (fun nodes found => ?_) trivial
    refine ensures_lift (fun fields listed => ?_) trivial
    have given : description.item (.text "nodes") = .ok (.record fields) := by
      cases nodes with
      | record entries =>
          cases listed
          exact found
      | absent | flag _ | whole _ | real _ | text _ | list _ | array _ | message _ => cases listed
    have start : ((newGraph .absent).after {}).Houses 0 [] := by
      constructor
      case reachable => exact Network.Reachable.empty.next (.newGraph .absent) trivial
      case present => decide
      case held => exact fun _ impossible => absurd impossible List.not_mem_nil
      case plain =>
        intro key
        exact ⟨List.nodup_nil, fun _ impossible => absurd impossible List.not_mem_nil⟩
    -- What holds of the loop is stated for the fields that are done.
    have stepped := ensures_forIn (fun field : String × Value => addDescribedNode 0 field.1 field.2)
      (fun passed reached => reached.Houses 0 (passed.map Prod.fst))
      (fun passed field network houses => by
        rw [List.map_append]
        exact addDescribedNode_houses houses field.1 field.2)
      fields [] start
    exact stepped.imp (fun _ reached housed => ⟨fields, given, housed⟩) (fun _ done => done)
  · exact fun _ impossible => impossible.elim

/-! ### The edges of a description -/

theorem isSocket_of_socketField {description : Value} {name : String} {socket : Socket}
    (found : socketField network graph description name = .ok socket) : network.IsSocket socket := by
  obtain ⟨reference, _, found⟩ := bind_eq_ok.mp found
  obtain ⟨_, _, _, _, _, _, slotted⟩ := findSocket_eq_ok.mp found
  exact slot_lt slotted

/-- Of the values that an edge can be asked to carry only a variable is provided as one. -/
theorem isVariable_of_provide {value : Value} {key : VariableKey}
    (provided : provide graph (.ofValue value) network = .ok (.variable key) reached) :
    (CarryRequest.ofValue value).IsVariable network := by
  cases value with
  | absent => trivial
  | text _ => trivial
  | flag _ | whole _ | real _ | list _ | record _ | array _ | message _ => cases provided

theorem addDescribedEdge_houses (houses : network.Houses graph names) (description : Value) :
    Ensures (addDescribedEdge graph description) network (fun _ reached => reached.Houses graph names)
      (fun _ => True) := by
  simp only [addDescribedEdge, ensures_bind, ensures_get]
  refine ensures_lift (fun first foundFirst => ?_) trivial
  refine ensures_lift (fun second foundSecond => ?_) trivial
  refine ensures_lift (fun carried _ => ?_) trivial
  apply (connect_cases network graph first second (.ofValue (carried.getD .absent))).left.imp
  · intro _ reached joined
    obtain ⟨⟨_, key, between, provided, _, made⟩, left⟩ := joined
    -- The call is possible because the edge was made: a value that is no variable would have been refused.
    have requested := isVariable_of_provide provided
    have reachable : reached.Reachable :=
      left ▸ houses.reachable.next (.connect graph first second (.ofValue (carried.getD .absent)))
        ⟨houses.present, isSocket_of_socketField foundFirst, isSocket_of_socketField foundSecond, requested⟩
    have providing := provide_provides network graph (.ofValue (carried.getD .absent))
    rw [Ensures, provided] at providing
    have unchanged := providing.1.nodes_eq
    have wider : network.graphs.size = between.graphs.size := by
      cases providing.1 with
      | found => rfl
      | made _ => exact Array.size_modify.symm
    have present : graph < reached.graphs.size := by
      have size : (between.withEdge graph first second key).graphs.size = between.graphs.size :=
        Array.size_modify.trans Array.size_modify
      rw [made, size, ← wider]
      exact houses.present
    apply houses_of_keeps houses reachable present
    · rw [made]
      exact (Network.KeepsNodes.of_eq unchanged).trans (Network.keepsNodes_withEdge between graph first second key)
    · intro other
      rw [made, Network.interfaceNames_withEdge, Network.node, Network.node, unchanged]
  · exact fun _ _ => trivial

theorem addDescribedEdges_houses (houses : network.Houses graph names) (edges : List Value) :
    Ensures (addDescribedEdges graph edges) network (fun _ reached => reached.Houses graph names)
      (fun _ => True) := by
  simp only [addDescribedEdges, ensures_bind, ensures_pure]
  exact ensures_forIn (addDescribedEdge graph) (fun _ reached => reached.Houses graph names)
    (fun _ edge _ held => addDescribedEdge_houses held edge) edges [] houses

/-! ### Which interfaces are found -/

theorem named_of_findNode (sound : network.Sound) (present : graph < network.graphs.size) {key : NodeKey}
    (found : network.findNode graph (.text id) = .ok key) : (network.node key).id = .text id := by
  have named : (network.node key).id.same (.text id) = true := by
    unfold Network.findNode at found
    split at found
    · rename_i own listed
      cases found
      obtain ⟨entry, search, rfl⟩ := Option.map_eq_some_iff.mp listed
      have member := List.mem_of_find?_eq_some search
      have same := List.find?_some search
      rw [((sound.mem_nodes present entry.1 entry.2).mp member).2.1]
      exact same
    · obtain ⟨all, _, found⟩ := bind_eq_ok.mp found
      split at found
      · rename_i inner search
        cases found
        have same := List.find?_some search
        exact same
      · cases found
  exact Key.normal_eq_text.mp (Key.same_iff.mp named)

section Lookup

variable {key : NodeKey} {slot : Nat} {interface : Interface} {name : String}

/-- Only the reference with the names of the node and of the interface can lead to an interface. -/
theorem reference_of_findSocket (houses : network.Houses graph names) (held : network.Holds graph id key)
    (placed : (network.node key).interfaces[slot]? = some interface) (named : interface.name = .text name)
    {reference : Value} (found : findSocket network graph reference = .ok ⟨key, slot⟩) :
    '.' ∉ id.toList ∧ reference = .text (id ++ "." ++ name) := by
  obtain ⟨other, called, apart, _, rfl, atNode, atSlot⟩ := findSocket_eq_ok.mp found
  have sameId : Key.text other = .text id :=
    (named_of_findNode houses.reachable.sound houses.present atNode).symm.trans held.named
  obtain ⟨same, also, calledSo⟩ := Node.name_of_slot atSlot
  have sameName : Key.text called = .text name := by
    rw [placed] at also
    cases also
    exact calledSo.symm.trans named
  cases sameId
  cases sameName
  exact ⟨apart, rfl⟩

theorem findSocket_of_reference (houses : network.Houses graph names) (held : network.Holds graph id key)
    (placed : (network.node key).interfaces[slot]? = some interface) (named : interface.name = .text name)
    (apart : '.' ∉ id.toList) : findSocket network graph (.text (id ++ "." ++ name)) = .ok ⟨key, slot⟩ := by
  have own : key ∈ network.nodesOf graph := houses.reachable.sound.mem_nodesOf.mpr ⟨held.there, held.home⟩
  have atNode : network.findNode graph (.text id) = .ok key :=
    Network.findNode_own houses.reachable.consistent houses.reachable.sound own (Key.same_iff.mpr (by rw [held.named]))
  obtain ⟨text, same, nonempty, _⟩ := (houses.plain key).texts interface (List.mem_of_getElem? placed)
  cases named.symm.trans same
  exact findSocket_eq_ok.mpr
    ⟨id, name, apart, nonempty, rfl, atNode, (houses.plain key).slot_of_name placed named⟩

/-- If the name of the node has a point in it, the reference is read at the wrong point, and the rest behind
that point is no name of an interface. -/
theorem findSocket_refused (houses : network.Houses graph names) (name : String) (point : '.' ∈ id.toList) :
    ∃ fault, findSocket network graph (.text (id ++ "." ++ name)) = .error fault := by
  cases found : findSocket network graph (.text (id ++ "." ++ name)) with
  | error fault => exact ⟨fault, rfl⟩
  | ok socket =>
      obtain ⟨other, called, apart, _, same, _, atSlot⟩ := findSocket_eq_ok.mp found
      obtain ⟨interface, placed, named⟩ := Node.name_of_slot atSlot
      obtain ⟨text, sameText, _, plain⟩ := (houses.plain socket.node).texts interface (List.mem_of_getElem? placed)
      cases named.symm.trans sameText
      -- The reference has one point where it was read, and several where it was written.
      have points := congrArg (fun text => text.toList.count '.') (Value.text.inj same)
      simp only [String.toList_append, List.count_append, List.count_eq_zero.mpr apart,
        List.count_eq_zero.mpr plain] at points
      have several := List.count_pos_iff.mpr point
      omega

end Lookup

/-- The nodes of a description that is accepted are in the graph, whichever edges have been added to it, and
exactly one reference leads to an interface if the name of its node has no point.  If it has one, no reference
leads to the interface, and its own reference is refused. -/
theorem interfaces_found {description : Value} {edges : List Value} {described : Network}
    (accepted : addDescribedNodes description {} = .ok graph described)
    (joined : addDescribedEdges graph edges described = .ok ⟨⟩ reached) :
    ∃ fields, description.item (.text "nodes") = .ok (.record fields) ∧
      ∀ id ∈ fields.map Prod.fst, ∃ key, reached.Holds graph id key ∧
        ∀ slot interface, (reached.node key).interfaces[slot]? = some interface →
          ∃ name, interface.name = .text name ∧
            (∀ reference, findSocket reached graph reference = .ok ⟨key, slot⟩ ↔
              '.' ∉ id.toList ∧ reference = .text (id ++ "." ++ name)) ∧
            ('.' ∈ id.toList →
              ∃ fault, findSocket reached graph (.text (id ++ "." ++ name)) = .error fault) := by
  have housed := addDescribedNodes_houses description
  rw [Ensures, accepted] at housed
  obtain ⟨fields, given, houses⟩ := housed
  have still := addDescribedEdges_houses houses edges
  rw [Ensures, joined] at still
  refine ⟨fields, given, fun id member => ?_⟩
  obtain ⟨key, held⟩ := still.held id member
  refine ⟨key, held, fun slot interface placed => ?_⟩
  obtain ⟨name, named, _, _⟩ := (still.plain key).texts interface (List.mem_of_getElem? placed)
  refine ⟨name, named, fun reference => ⟨?_, ?_⟩, findSocket_refused still name⟩
  · exact reference_of_findSocket still held placed named
  · rintro ⟨apart, rfl⟩
    exact findSocket_of_reference still held placed named apart

/-- The answer of an operation can be computed without the network that it leaves behind. -/
theorem completed_of_answer {α : Type} {build : Build α} {network : Network} {value : α}
    (answer : (match build network with | .ok value _ => some value | .error _ _ => none) = some value) :
    build network = .ok value (build.after network) := by
  unfold Build.after
  cases result : build network with
  | ok other reached =>
      rw [result] at answer
      cases answer
      rfl
  | error fault reached =>
      rw [result] at answer
      cases answer

/-- A model with a constant at a Gaussian factor, and another constant that has a point in its name. -/
def pointed : Value :=
  .record [("nodes", .record [
    ("c", .record [("kind", .text "Constant"), ("value", .whole 2)]),
    ("g", .record [("kind", .text "GaussianNode")]),
    ("a.b", .record [("kind", .text "Constant"), ("value", .whole 3), ("placeholder", .text "y")])])]

theorem interfaces_found_pointed :
    ∃ reached : Network, (reached.node 1).interfaces.length = 3 ∧ reached.edges.size = 1 ∧
      ∃ fields, pointed.item (.text "nodes") = .ok (.record fields) ∧
      ∀ id ∈ fields.map Prod.fst, ∃ key, reached.Holds 0 id key ∧
        ∀ slot interface, (reached.node key).interfaces[slot]? = some interface →
          ∃ name, interface.name = .text name ∧
            (∀ reference, findSocket reached 0 reference = .ok ⟨key, slot⟩ ↔
              '.' ∉ id.toList ∧ reference = .text (id ++ "." ++ name)) ∧
            ('.' ∈ id.toList →
              ∃ fault, findSocket reached 0 (.text (id ++ "." ++ name)) = .error fault) := by
  have accepted : addDescribedNodes pointed {} = .ok 0 ((addDescribedNodes pointed).after {}) :=
    completed_of_answer (by decide +kernel)
  have joined : addDescribedEdges 0 [.record [("a", .text "c.out"), ("b", .text "g.mean")]]
      ((addDescribedNodes pointed).after {}) = .ok ⟨⟩ _ := completed_of_answer (by decide +kernel)
  exact ⟨_, by decide +kernel, by decide +kernel, interfaces_found accepted joined⟩

/-- The interface of the node with a point in its name is there, and its reference is read as one to a node
that is not there. -/
theorem pointed_node_not_found :
    ∃ graph described, addDescribedNodes pointed {} = .ok graph described ∧
      (described.node 2).id = .text "a.b" ∧
      (described.node 2).interfaces.map Interface.name = [.text "out"] ∧
      findSocket described graph (.text "a.b.out") = .error (.refused (.noNode "'a'")) := by
  have accepted : addDescribedNodes pointed {} = .ok 0 ((addDescribedNodes pointed).after {}) :=
    completed_of_answer (by decide +kernel)
  exact ⟨0, _, accepted, by decide +kernel, by decide +kernel, by decide +kernel⟩

end Model

end SumProduct
