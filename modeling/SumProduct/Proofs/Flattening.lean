/-
The nodes inside a graph.

Where ownership has no circle, opening all composite nodes gives the recursive flattening of the graph: its nodes
in the order in which they were made, a composite node followed by the flattening of its inner graph, and of
repeats, which come from inner graphs with several owners, the first.  A node is found by its name among the
graph's own nodes, and else in this list.
-/

import SumProduct.Proofs.Preorder

set_option autoImplicit false

namespace SumProduct

/-- The node that a vertex is. -/
def Owner.node? : Owner → Option NodeKey
  | .node key => some key
  | .graph _ => none

theorem Owner.node?_injective (one two : Owner) (image : NodeKey) (first : one.node? = some image)
    (second : two.node? = some image) : one = two := by
  cases one with
  | graph key => cases first
  | node key =>
      cases two with
      | graph other => cases second
      | node other =>
          cases first
          cases second
          rfl

namespace OwnershipTree

variable {tree : OwnershipTree}

/-- The item is put at the end of a list that does not have it. -/
def insertNew (items : List Owner) (item : Owner) : List Owner :=
  if item ∈ items then items else items ++ [item]

theorem foldl_insertNew_fresh {items targets : List Owner} (distinct : (items ++ targets).Nodup) :
    targets.foldl insertNew items = items ++ targets := by
  induction targets generalizing items with
  | nil => rw [List.foldl_nil, List.append_nil]
  | cons target rest ih =>
      have fresh : target ∉ items := fun member =>
        (List.nodup_append.mp distinct).2.2 target member target List.mem_cons_self rfl
      rw [List.append_cons] at distinct ⊢
      rw [List.foldl_cons, insertNew, if_neg fresh, ih distinct]

theorem foldl_insertNew_known {items targets : List Owner} (known : ∀ target ∈ targets, target ∈ items) :
    targets.foldl insertNew items = items := by
  induction targets with
  | nil => rfl
  | cons target rest ih =>
      rw [List.foldl_cons, insertNew, if_pos (known target List.mem_cons_self)]
      exact ih fun other later => known other (List.mem_cons_of_mem _ later)

/-- Targets that are not there yet or are there already come to be there. -/
theorem foldl_insertNew {items targets : List Owner} (distinct : targets.Nodup)
    (before : items = [] ∨ items = targets) : targets.foldl insertNew items = targets := by
  rcases before with rfl | rfl
  · exact foldl_insertNew_fresh distinct
  · exact foldl_insertNew_known fun _ member => member

theorem lookup_map {keep : Owner × List Owner → Owner × List Owner} (kept : ∀ entry, (keep entry).1 = entry.1)
    (tree : OwnershipTree) (vertex : Owner) :
    (tree.map keep).lookup vertex = (tree.lookup vertex).map fun targets => (keep (vertex, targets)).2 := by
  induction tree with
  | nil => rfl
  | cons entry rest ih =>
      obtain ⟨source, targets⟩ := entry
      have split : keep (source, targets) = (source, (keep (source, targets)).2) :=
        Prod.ext (kept (source, targets)) rfl
      rw [List.map_cons, split, Association.lookup_cons, Association.lookup_cons]
      by_cases same : vertex = source
      · rw [if_pos same, if_pos same, Option.map_some, same]
      · rw [if_neg same, if_neg same, ih]

theorem lookup_addVertex (tree : OwnershipTree) (added vertex : Owner) :
    (tree.addVertex added).lookup vertex
      = (tree.lookup vertex).or (if vertex = added then some [] else none) := by
  rw [addVertex]
  split
  · rename_i there
    by_cases same : vertex = added
    · subst same
      obtain ⟨targets, found⟩ := Option.isSome_iff_exists.mp there
      rw [found, Option.some_or]
    · rw [if_neg same, Option.or_none]
  · rw [List.lookup_append, Association.lookup_cons, List.lookup_nil]

theorem successors_addVertex (tree : OwnershipTree) (added vertex : Owner) :
    (tree.addVertex added).successors vertex = tree.successors vertex := by
  rw [successors, successors, lookup_addVertex]
  cases tree.lookup vertex with
  | some targets => rfl
  | none =>
      rw [Option.none_or]
      split
      · rfl
      · rfl

theorem successors_addArc (tree : OwnershipTree) (source target vertex : Owner) :
    (tree.addArc source target).successors vertex
      = if vertex = source then insertNew (tree.successors source) target else tree.successors vertex := by
  have same : ∀ vertex, ((tree.addVertex source).addVertex target).successors vertex = tree.successors vertex :=
    fun vertex => (successors_addVertex _ target vertex).trans (successors_addVertex tree source vertex)
  have there : ∃ targets, ((tree.addVertex source).addVertex target).lookup source = some targets := by
    rw [lookup_addVertex, lookup_addVertex, if_pos rfl]
    cases tree.lookup source with
    | some targets => exact ⟨targets, rfl⟩
    | none => exact ⟨[], rfl⟩
  rw [addArc, successors, lookup_map]
  · by_cases here : vertex = source
    · subst here
      obtain ⟨targets, found⟩ := there
      have known := same vertex
      rw [successors, found, Option.getD_some] at known
      rw [found, Option.map_some, Option.getD_some, if_pos rfl, insertNew, ← known]
      by_cases member : target ∈ targets
      · rw [if_pos member, if_neg fun both => both.2 member]
      · rw [if_neg member, if_pos ⟨rfl, member⟩]
    · rw [if_neg here, ← same vertex, successors]
      simp only [here, false_and, if_false, Option.map_id']
  · intro entry
    split
    · rfl
    · rfl

end OwnershipTree

namespace Network

variable {network : Network} {tree final : OwnershipTree} {graph key : GraphKey}

/-- The nodes of a graph in the order in which they were made. -/
def nodesOf (network : Network) (graph : GraphKey) : List NodeKey :=
  (network.graph graph).nodes.map Prod.snd

/-- What a vertex owns: a graph its nodes, a composite node its inner graph. -/
def owned (network : Network) : Owner → List Owner
  | .graph key => (network.nodesOf key).map .node
  | .node key => ((network.node key).inner?.map .graph).toList

theorem owned_graph (network : Network) (key : GraphKey) :
    network.owned (.graph key) = (network.nodesOf key).map .node := rfl

theorem owned_node (network : Network) (key : NodeKey) :
    network.owned (.node key) = ((network.node key).inner?.map .graph).toList := rfl

theorem Sound.mem_nodesOf (sound : network.Sound) {node : NodeKey} :
    node ∈ network.nodesOf graph ↔ node < network.nodes.size ∧ (network.node node).graph = graph := by
  by_cases present : graph < network.graphs.size
  · rw [nodesOf, List.mem_map]
    constructor
    · rintro ⟨⟨name, other⟩, listed, rfl⟩
      obtain ⟨there, _, home⟩ := (sound.mem_nodes present name other).mp listed
      exact ⟨there, home⟩
    · rintro ⟨there, home⟩
      exact ⟨(_, node), (sound.mem_nodes present _ node).mpr ⟨there, rfl, home⟩, rfl⟩
  · rw [nodesOf, graph_beyond (Nat.le_of_not_lt present)]
    refine iff_of_false List.not_mem_nil ?_
    rintro ⟨there, rfl⟩
    exact present (sound.homes node there)

theorem Sound.nodup_nodesOf (sound : network.Sound) (graph : GraphKey) : (network.nodesOf graph).Nodup := by
  by_cases present : graph < network.graphs.size
  · have listed := (sound.lists graph present).nodes.table
    rw [nodesOf, listed, List.map_map]
    have same : (Prod.snd ∘ fun node => ((network.node node).id, node)) = (id : NodeKey → NodeKey) := rfl
    rw [same, List.map_id]
    exact List.nodup_range.filter _
  · rw [nodesOf, graph_beyond (Nat.le_of_not_lt present)]
    exact List.nodup_nil

theorem Sound.nodup_owned (sound : network.Sound) (vertex : Owner) : (network.owned vertex).Nodup := by
  cases vertex with
  | graph key =>
      exact (sound.nodup_nodesOf key).map fun one two same => Owner.node.inj same
  | node key =>
      rw [owned_node]
      cases (network.node key).inner? with
      | none => exact List.nodup_nil
      | some inner => exact List.nodup_singleton _

/-! ### The tree -/

/-- A graph's share in the tree for one of its nodes. -/
def expandNode (network : Network) (key : GraphKey) (tree : OwnershipTree) (entry : Key × NodeKey) :
    OwnershipTree :=
  let owned := tree.addArc (.graph key) (.node entry.2)
  match (network.node entry.2).inner? with
  | some inner => owned.addArc (.node entry.2) (.graph inner)
  | none => owned

theorem expandGraph_eq (network : Network) (tree : OwnershipTree) (key : GraphKey) :
    network.expandGraph tree key = (network.graph key).nodes.foldl (network.expandNode key) tree := rfl

theorem successors_expandNode_graph (network : Network) (key other : GraphKey) (tree : OwnershipTree)
    (entry : Key × NodeKey) :
    (network.expandNode key tree entry).successors (.graph other)
      = if other = key then OwnershipTree.insertNew (tree.successors (.graph other)) (.node entry.2)
        else tree.successors (.graph other) := by
  rw [expandNode]
  cases (network.node entry.2).inner? with
  | none =>
      simp only [OwnershipTree.successors_addArc, Owner.graph.injEq]
      split
      · rename_i same
        rw [same]
      · rfl
  | some inner =>
      simp only [OwnershipTree.successors_addArc, Owner.graph.injEq, reduceCtorEq, if_false]
      split
      · rename_i same
        rw [same]
      · rfl

theorem successors_expandNode_node (network : Network) (key : GraphKey) (other : NodeKey)
    (tree : OwnershipTree) (entry : Key × NodeKey) :
    (network.expandNode key tree entry).successors (.node other)
      = if other = entry.2 then
          (network.owned (.node other)).foldl OwnershipTree.insertNew (tree.successors (.node other))
        else tree.successors (.node other) := by
  rw [expandNode]
  cases inner : (network.node entry.2).inner? with
  | none =>
      simp only [OwnershipTree.successors_addArc, reduceCtorEq, if_false]
      split
      · rename_i same
        rw [same, owned_node, inner]
        rfl
      · rfl
  | some key =>
      simp only [OwnershipTree.successors_addArc, Owner.node.injEq, reduceCtorEq, if_false]
      split
      · rename_i same
        rw [same, owned_node, inner]
        rfl
      · rfl

/-- A vertex of the tree has all its arcs or none. -/
def IsPartial (network : Network) (tree : OwnershipTree) : Prop :=
  ∀ vertex, tree.successors vertex = [] ∨ tree.successors vertex = network.owned vertex

theorem successors_expandNodes_graph (network : Network) (key other : GraphKey) (tree : OwnershipTree)
    (entries : Table NodeKey) :
    (entries.foldl (network.expandNode key) tree).successors (.graph other)
      = if other = key then
          (entries.map fun entry => Owner.node entry.2).foldl OwnershipTree.insertNew
            (tree.successors (.graph other))
        else tree.successors (.graph other) := by
  induction entries generalizing tree with
  | nil => simp
  | cons entry rest ih =>
      rw [List.foldl_cons, ih, successors_expandNode_graph]
      split
      · rw [List.map_cons, List.foldl_cons]
      · rfl

theorem successors_expandNodes_node (sound : network.Sound) (key : GraphKey) (other : NodeKey)
    (isPartial : tree.successors (.node other) = [] ∨
      tree.successors (.node other) = network.owned (.node other)) (entries : Table NodeKey) :
    (entries.foldl (network.expandNode key) tree).successors (.node other)
      = if other ∈ entries.map Prod.snd then network.owned (.node other)
        else tree.successors (.node other) := by
  induction entries generalizing tree with
  | nil => rfl
  | cons entry rest ih =>
      have step := network.successors_expandNode_node key other tree entry
      rw [OwnershipTree.foldl_insertNew (sound.nodup_owned (.node other)) isPartial] at step
      rw [List.foldl_cons, ih]
      · have listed : other ∈ (entry :: rest).map Prod.snd ↔ other = entry.2 ∨ other ∈ rest.map Prod.snd :=
          List.mem_cons
        rw [step]
        by_cases later : other ∈ rest.map Prod.snd
        · rw [if_pos later, if_pos (listed.mpr (.inr later))]
        · rw [if_neg later]
          by_cases here : other = entry.2
          · rw [if_pos here, if_pos (listed.mpr (.inl here))]
          · rw [if_neg here, if_neg fun member => (listed.mp member).elim here later]
      · rw [step]
        split
        · exact .inr rfl
        · exact isPartial

/-- The tree has all arcs of the graph and of its nodes. -/
structure Covers (network : Network) (tree : OwnershipTree) (graph : GraphKey) : Prop where
  top : tree.successors (.graph graph) = network.owned (.graph graph)
  inside : ∀ node ∈ network.nodesOf graph, tree.successors (.node node) = network.owned (.node node)

theorem covers_expandGraph (sound : network.Sound) (isPartial : network.IsPartial tree) (key : GraphKey) :
    network.Covers (network.expandGraph tree key) key := by
  have nodes := sound.nodup_owned (.graph key)
  constructor
  case top =>
    have listed : (network.graph key).nodes.map (fun entry => Owner.node entry.2) = network.owned (.graph key) := by
      rw [owned_graph, nodesOf, List.map_map]
      rfl
    rw [expandGraph_eq, successors_expandNodes_graph, if_pos rfl, listed]
    exact OwnershipTree.foldl_insertNew nodes (isPartial _)
  case inside =>
    intro node member
    rw [expandGraph_eq, successors_expandNodes_node sound key node (isPartial _)]
    exact if_pos member

/-- What has all its arcs keeps them, and every vertex has all or none. -/
theorem successors_expandGraph (sound : network.Sound) (isPartial : network.IsPartial tree) (key : GraphKey)
    (vertex : Owner) : (network.expandGraph tree key).successors vertex = tree.successors vertex ∨
      (network.expandGraph tree key).successors vertex = network.owned vertex := by
  cases vertex with
  | graph other =>
      by_cases same : other = key
      · exact .inr (same ▸ (covers_expandGraph sound isPartial key).top)
      · rw [expandGraph_eq, successors_expandNodes_graph, if_neg same]
        exact .inl rfl
  | node other =>
      rw [expandGraph_eq, successors_expandNodes_node sound key other (isPartial _)]
      split
      · exact .inr rfl
      · exact .inl rfl

theorem IsPartial.expandGraph (isPartial : network.IsPartial tree) (sound : network.Sound) (key : GraphKey) :
    network.IsPartial (network.expandGraph tree key) := by
  intro vertex
  rcases successors_expandGraph sound isPartial key vertex with same | full
  · rw [same]
    exact isPartial vertex
  · exact .inr full

theorem Covers.expandGraph (covers : network.Covers tree graph) (sound : network.Sound)
    (isPartial : network.IsPartial tree) (key : GraphKey) :
    network.Covers (network.expandGraph tree key) graph := by
  constructor
  case top => exact (successors_expandGraph sound isPartial key _).elim (·.trans covers.top) id
  case inside =>
    exact fun node member =>
      (successors_expandGraph sound isPartial key _).elim (·.trans (covers.inside node member)) id

/-- The walk that grows the tree covers all graphs below those on its stack. -/
theorem Explores.covers {stack : List GraphKey} (explores : network.Explores stack tree final)
    (sound : network.Sound) (isPartial : network.IsPartial tree) :
    (∀ graph, network.Covers tree graph → network.Covers final graph) ∧
      ∀ key ∈ stack, ∀ below, Relation.ReflTransGen network.Owns key below → network.Covers final below := by
  induction explores with
  | done => exact ⟨fun _ covers => covers, fun _ impossible => (List.not_mem_nil impossible).elim⟩
  | @next key stack tree final _ ih =>
      obtain ⟨kept, reached⟩ := ih (isPartial.expandGraph sound key)
      refine ⟨fun graph covers => kept graph (covers.expandGraph sound isPartial key), ?_⟩
      intro other member below path
      rcases List.mem_cons.mp member with rfl | later
      · rcases path.cases_head with rfl | ⟨inner, owns, onwards⟩
        · exact kept _ (covers_expandGraph sound isPartial _)
        · exact reached inner (List.mem_append_left _ (List.mem_reverse.mpr owns)) below onwards
      · exact reached other (List.mem_append_right _ later) below path

/-! ### The flattening -/

/-- The recursive flattening of some nodes: each of them, followed by the flattening of its inner graph. -/
inductive Flattens (network : Network) : List NodeKey → List NodeKey → Prop
  | nil : Flattens network [] []
  | closed {node : NodeKey} {rest flat : List NodeKey} (closed : (network.node node).inner? = none)
      (onwards : Flattens network rest flat) : Flattens network (node :: rest) (node :: flat)
  | opened {node : NodeKey} {inner : GraphKey} {rest inside flat : List NodeKey}
      (owned : (network.node node).inner? = some inner)
      (inwards : Flattens network (network.nodesOf inner) inside) (onwards : Flattens network rest flat) :
      Flattens network (node :: rest) (node :: (inside ++ flat))

/-- The node belongs to the graph, or to one that it owns through composite nodes. -/
def IsInside (network : Network) (graph : GraphKey) (node : NodeKey) : Prop :=
  node < network.nodes.size ∧ Relation.ReflTransGen network.Owns graph (network.node node).graph

theorem Flattens.unique {nodes first second : List NodeKey} (flattens : network.Flattens nodes first)
    (flattensToo : network.Flattens nodes second) : first = second := by
  induction flattens generalizing second with
  | nil =>
      cases flattensToo
      rfl
  | closed closed _ ih =>
      cases flattensToo with
      | closed _ onwards => rw [ih onwards]
      | opened owned _ _ =>
          rw [closed] at owned
          cases owned
  | opened owned _ _ inner outer =>
      cases flattensToo with
      | closed closed _ =>
          rw [closed] at owned
          cases owned
      | opened ownedToo inwards onwards =>
          rw [owned] at ownedToo
          cases ownedToo
          rw [inner inwards, outer onwards]

theorem owns_of_mem {node : NodeKey} {inner : GraphKey} (member : node ∈ network.nodesOf graph)
    (owned : (network.node node).inner? = some inner) : network.Owns graph inner := by
  obtain ⟨entry, listed, rfl⟩ := List.mem_map.mp member
  exact List.mem_filterMap.mpr ⟨entry, listed, owned⟩

/-- A graph without a circle below it has a flattening. -/
theorem exists_flattens (accessible : Acc (Function.swap network.Owns) graph) :
    ∃ flat, network.Flattens (network.nodesOf graph) flat := by
  induction accessible with
  | intro graph _ ih =>
      have some_of : ∀ nodes : List NodeKey, (∀ node ∈ nodes, node ∈ network.nodesOf graph) →
          ∃ flat, network.Flattens nodes flat := by
        intro nodes
        induction nodes with
        | nil => exact fun _ => ⟨[], .nil⟩
        | cons node rest onwards =>
            intro members
            obtain ⟨flat, flattens⟩ := onwards fun other later => members other (List.mem_cons_of_mem node later)
            cases owned : (network.node node).inner? with
            | none => exact ⟨_, .closed owned flattens⟩
            | some inner =>
                obtain ⟨inside, flattensInner⟩ := ih inner (owns_of_mem (members node List.mem_cons_self) owned)
                exact ⟨_, .opened owned flattensInner flattens⟩
      exact some_of (network.nodesOf graph) fun _ member => member

/-- The walk through a tree that covers everything below the nodes meets their flattening. -/
theorem Flattens.unfolds {nodes flat : List NodeKey} (flattens : network.Flattens nodes flat)
    (vertices : ∀ node ∈ nodes, tree.successors (.node node) = network.owned (.node node))
    (covers : ∀ node ∈ nodes, ∀ inner, (network.node node).inner? = some inner →
      ∀ below, Relation.ReflTransGen network.Owns inner below → network.Covers tree below) :
    ∃ listed, tree.Unfolds (nodes.map .node) listed ∧ listed.filterMap Owner.node? = flat := by
  induction flattens with
  | nil => exact ⟨[], .nil, rfl⟩
  | @closed node rest flat closed _ ih =>
      obtain ⟨listed, unfolds, same⟩ := ih
        (fun other later => vertices other (List.mem_cons_of_mem node later))
        (fun other later => covers other (List.mem_cons_of_mem node later))
      refine ⟨.node node :: ([] ++ listed), .cons ?_ unfolds, congrArg (node :: ·) same⟩
      rw [vertices node List.mem_cons_self, owned_node, closed]
      exact .nil
  | @opened node inner rest inside flat owned _ _ innerIh outerIh =>
      have below := covers node List.mem_cons_self inner owned
      obtain ⟨innerListed, innerUnfolds, innerSame⟩ := innerIh (below inner .refl).inside
        (fun other member deeper owns onwards path => below onwards (.head (owns_of_mem member owns) path))
      obtain ⟨listed, unfolds, same⟩ := outerIh
        (fun other later => vertices other (List.mem_cons_of_mem node later))
        (fun other later => covers other (List.mem_cons_of_mem node later))
      refine ⟨.node node :: ((.graph inner :: (innerListed ++ [])) ++ listed), .cons ?_ unfolds, ?_⟩
      · rw [vertices node List.mem_cons_self, owned_node, owned]
        refine .cons ?_ .nil
        rw [(below inner .refl).top]
        exact innerUnfolds
      · have opened : (Owner.node node :: ((.graph inner :: (innerListed ++ [])) ++ listed)).filterMap Owner.node?
            = node :: (innerListed.filterMap Owner.node? ++ listed.filterMap Owner.node?) := by
          simp [Owner.node?, List.filterMap_cons]
        rw [opened, innerSame, same]

theorem Sound.isInside_iff (sound : network.Sound) {listed : NodeKey} :
    network.IsInside graph listed ↔ ∃ top ∈ network.nodesOf graph, listed = top ∨
      ∃ inner, (network.node top).inner? = some inner ∧ network.IsInside inner listed := by
  constructor
  · rintro ⟨there, path⟩
    rcases path.cases_head with home | ⟨inner, owns, onwards⟩
    · exact ⟨listed, sound.mem_nodesOf.mpr ⟨there, home.symm⟩, .inl rfl⟩
    · obtain ⟨entry, member, owned⟩ := List.mem_filterMap.mp owns
      exact ⟨entry.2, List.mem_map_of_mem member, .inr ⟨inner, owned, there, onwards⟩⟩
  · rintro ⟨top, member, rfl | ⟨inner, owned, there, path⟩⟩
    · obtain ⟨there, home⟩ := sound.mem_nodesOf.mp member
      exact ⟨there, home ▸ .refl⟩
    · exact ⟨there, .head (owns_of_mem member owned) path⟩

theorem Flattens.mem_iff {nodes flat : List NodeKey} (flattens : network.Flattens nodes flat)
    (sound : network.Sound) {listed : NodeKey} : listed ∈ flat ↔ ∃ top ∈ nodes, listed = top ∨
      ∃ inner, (network.node top).inner? = some inner ∧ network.IsInside inner listed := by
  induction flattens with
  | nil => simp
  | closed closed _ ih =>
      rw [List.mem_cons, List.exists_mem_cons_iff, ih, closed]
      simp
  | opened owned _ _ inner outer =>
      rw [List.mem_cons, List.mem_append, List.exists_mem_cons_iff, inner, outer, owned,
        ← sound.isInside_iff]
      simp [or_assoc]

/-! ### Listing and finding nodes -/

theorem allNodes?_eq (network : Network) (graph : GraphKey) :
    network.allNodes? graph = (network.ownershipTree? graph).map fun tree =>
      (tree.preorder tree.size [.graph graph] []).filterMap Owner.node? := by
  rw [allNodes?]
  rfl

theorem isPartial_root (network : Network) (graph : GraphKey) : network.IsPartial [(.graph graph, [])] := by
  intro vertex
  refine .inl ?_
  rw [OwnershipTree.successors_cons]
  split
  · rfl
  · rfl

/-- The walk through the tree lists the flattening, each node where it is met first. -/
theorem Flattens.allNodes? {flat : List NodeKey} (flattens : network.Flattens (network.nodesOf graph) flat)
    (sound : network.Sound) (acyclic : ∀ below, Relation.ReflTransGen network.Owns graph below →
      ¬ Relation.TransGen network.Owns below below) :
    network.allNodes? graph = some flat.eraseDups := by
  obtain ⟨tree, grown⟩ := ownershipTree_of_acyclic acyclic
  have covers := ((explores_of_ownershipTree grown).covers sound (isPartial_root network graph)).2 graph
    (List.mem_singleton.mpr rfl)
  obtain ⟨listed, unfolds, same⟩ := flattens.unfolds (covers graph .refl).inside
    (fun node member inner owned below path => covers below (.head (owns_of_mem member owned) path))
  have whole : tree.Unfolds [.graph graph] (.graph graph :: (listed ++ [])) := by
    refine .cons ?_ .nil
    rw [(covers graph .refl).top]
    exact unfolds
  have enough : tree.pending [.graph graph] [] ≤ tree.size := by
    have arcs := List.countP_le_length (l := tree.arcs) (p := fun arc => arc.1 ∉ ([] : List Owner))
    rw [OwnershipTree.pending, OwnershipTree.size, List.length_singleton]
    omega
  have walked := OwnershipTree.preorder_eq whole enough (fun _ impossible => (List.not_mem_nil impossible).elim)
    List.nodup_nil
  rw [allNodes?_eq, grown, Option.map_some, walked, filterMap_eraseDups, List.nil_append, List.append_nil,
    List.filterMap_cons_none rfl, same]
  exact Owner.node?_injective

/-- All nodes are listed, unless one of them claims to own a graph that is none. -/
theorem allNodes_eq {listed : List NodeKey} (walked : network.allNodes? graph = some listed) :
    network.allNodes graph = if ∃ node ∈ listed, (network.node node).isHollow = true
      then .error (.lapsed .missingAttribute) else .ok listed := by
  rw [allNodes, walked]
  simp only [List.any_eq_true]

/-- What a name leads to, where these nodes are listed: a node of the graph itself, or else the first one listed. -/
structure Finds (network : Network) (graph : GraphKey) (listed : List NodeKey) (id : Key) : Prop where
  own : ∀ node ∈ network.nodesOf graph, (network.node node).id.same id = true →
    network.findNode graph id = .ok node
  first : (∀ node ∈ network.nodesOf graph, (network.node node).id.same id = false) →
    ∀ node, listed.find? (fun node => (network.node node).id.same id) = some node →
      network.findNode graph id = .ok node
  missing : network.findNode graph id = .error (.refused (.noNode id.literal)) ↔
    ∀ node ∈ listed, (network.node node).id.same id = false

theorem findNode_own (consistent : network.Consistent) (sound : network.Sound) {id : Key} {node : NodeKey}
    (own : node ∈ network.nodesOf graph) (same : (network.node node).id.same id = true) :
    network.findNode graph id = .ok node := by
  obtain ⟨there, rfl⟩ := sound.mem_nodesOf.mp own
  rw [findNode, ← Table.get?_same same, consistent.node_found node there]

theorem findNode_foreign (sound : network.Sound) {id : Key} {listed : List NodeKey}
    (foreign : ∀ node ∈ network.nodesOf graph, (network.node node).id.same id = false)
    (walked : network.allNodes graph = .ok listed) :
    network.findNode graph id = match listed.find? fun node => (network.node node).id.same id with
      | some node => .ok node
      | none => .error (.refused (.noNode id.literal)) := by
  have absent : (network.graph graph).nodes.get? id = none := by
    rw [Table.get?, Option.map_eq_none_iff, List.find?_eq_none]
    rintro ⟨name, node⟩ listed
    have own : node ∈ network.nodesOf graph := List.mem_map_of_mem listed
    obtain ⟨there, rfl⟩ := sound.mem_nodesOf.mp own
    obtain ⟨_, rfl, _⟩ := (sound.mem_nodes (sound.homes node there) name node).mp listed
    rw [foreign node own]
    exact Bool.false_ne_true
  rw [findNode, absent, walked]
  simp only [Partial.ok_bind]
  cases listed.find? fun node => (network.node node).id.same id with
  | some node => rfl
  | none => rfl

theorem finds (consistent : network.Consistent) (sound : network.Sound) {listed : List NodeKey}
    (walked : network.allNodes graph = .ok listed) (complete : ∀ node ∈ network.nodesOf graph, node ∈ listed)
    (id : Key) : network.Finds graph listed id where
  own := fun _ own same => findNode_own consistent sound own same
  first := fun foreign node found => by rw [findNode_foreign sound foreign walked, found]
  missing := by
    by_cases own : ∃ node ∈ network.nodesOf graph, (network.node node).id.same id = true
    · obtain ⟨node, own, same⟩ := own
      rw [findNode_own consistent sound own same]
      refine iff_of_false (fun impossible => nomatch impossible) fun missing => ?_
      rw [missing node (complete node own)] at same
      cases same
    · have foreign : ∀ node ∈ network.nodesOf graph, (network.node node).id.same id = false :=
        fun node member => Bool.eq_false_iff.mpr fun same => own ⟨node, member, same⟩
      rw [findNode_foreign sound foreign walked]
      cases found : listed.find? fun node => (network.node node).id.same id with
      | some node =>
          refine iff_of_false (fun impossible => nomatch impossible) fun missing => ?_
          have same := List.find?_some found
          rw [missing node (List.mem_of_find?_eq_some found)] at same
          cases same
      | none =>
          refine iff_of_true rfl fun node member => Bool.eq_false_iff.mpr ?_
          exact List.find?_eq_none.mp found node member

/-- Where no graph below owns itself, opening the composite nodes of a graph lists what is inside it, each node
once, as the recursive flattening with later repeats dropped, and names lead into this list. -/
theorem Reachable.nodes_flattened (reachable : network.Reachable)
    (acyclic : ∀ below, Relation.ReflTransGen network.Owns graph below →
      ¬ Relation.TransGen network.Owns below below) :
    ∃ flat, network.Flattens (network.nodesOf graph) flat ∧
      (∀ other, network.Flattens (network.nodesOf graph) other → other = flat) ∧
      flat.eraseDups.Nodup ∧
      (∀ node, node ∈ flat.eraseDups ↔ network.IsInside graph node) ∧
      ((∃ node, network.IsInside graph node ∧ (network.node node).isHollow = true) →
        network.allNodes graph = .error (.lapsed .missingAttribute)) ∧
      ((∀ node, network.IsInside graph node → (network.node node).isHollow = false) →
        network.allNodes graph = .ok flat.eraseDups ∧ ∀ id, network.Finds graph flat.eraseDups id) := by
  have sound := reachable.sound
  obtain ⟨tree, explores⟩ := walkEnds_iff.mpr acyclic
  obtain ⟨flat, flattens⟩ := exists_flattens (explores.accessible graph (List.mem_singleton.mpr rfl))
  have inside : ∀ node, node ∈ flat.eraseDups ↔ network.IsInside graph node := by
    intro node
    rw [List.mem_eraseDups, flattens.mem_iff sound, sound.isInside_iff]
  have listed := allNodes_eq (flattens.allNodes? sound acyclic)
  refine ⟨flat, flattens, fun other flattensToo => flattensToo.unique flattens, nodup_eraseDups flat, inside,
    ?_, ?_⟩
  · rintro ⟨node, member, hollow⟩
    rw [listed, if_pos ⟨node, (inside node).mpr member, hollow⟩]
  · intro opens
    have walked : network.allNodes graph = .ok flat.eraseDups := by
      rw [listed, if_neg]
      rintro ⟨node, member, hollow⟩
      rw [opens node ((inside node).mp member)] at hollow
      cases hollow
    refine ⟨walked, finds reachable.consistent sound walked fun node own => ?_⟩
    exact (inside node).mpr (sound.isInside_iff.mpr ⟨node, own, .inl rfl⟩)

/-- The last graph belongs to a composite node of the first graph and to one of the second, which the first owns. -/
def sharing : List Build.Call :=
  [.newGraph .absent, .newGraph .absent, .newGraph .absent, .addTerminal (some "a") (some 2),
    .addComposite (some 2) [.node 0] none (some "r") (some 1),
    .addComposite (some 1) [] none (some "p") (some 0),
    .addComposite (some 2) [.node 0] none (some "q") (some 0)]

def shared : Network := sharing.foldl Build.Call.after {}

theorem shared_reachable : shared.Reachable := by
  apply Reachable.empty.calls
  refine ⟨trivial, trivial, trivial, ?_, ⟨?_, ?_⟩, ⟨?_, nofun⟩, ⟨?_, ?_⟩, trivial⟩
  case refine_1 | refine_2 | refine_4 | refine_5 =>
    rintro key ⟨⟩
    decide +kernel
  all_goals
    intro key offered
    cases List.mem_singleton.mp offered
    decide +kernel

theorem Reachable.nodes_flattened_shared :
    shared.Reachable ∧ shared.Owns 0 1 ∧ shared.Owns 0 2 ∧ shared.Owns 1 2 ∧
    (∀ below, Relation.ReflTransGen shared.Owns 0 below → ¬ Relation.TransGen shared.Owns below below) ∧
    (∀ node, shared.IsInside 0 node → (shared.node node).isHollow = false) ∧
    shared.Flattens (shared.nodesOf 0) [2, 1, 0, 3, 0] ∧ shared.allNodes 0 = .ok [2, 1, 0, 3] ∧
    ∀ id, shared.Finds 0 [2, 1, 0, 3] id := by
  have grown : (shared.ownershipTree? 0).isSome = true := by decide +kernel
  obtain ⟨tree, found⟩ := Option.isSome_iff_exists.mp grown
  have acyclic := walkEnds_iff.mp ⟨tree, explores_of_ownershipTree found⟩
  obtain ⟨flat, flattens, only, _, _, _, opened⟩ := shared_reachable.nodes_flattened acyclic
  have opens : ∀ node, shared.IsInside 0 node → (shared.node node).isHollow = false := by
    rintro node ⟨there, _⟩
    have closed : ∀ node < shared.nodes.size, (shared.node node).isHollow = false := by decide +kernel
    exact closed node there
  have last : shared.Flattens [0] [0] := .closed (by decide +kernel) .nil
  have owns : (shared.node 1).inner? = some 2 ∧ (shared.node 2).inner? = some 1 ∧
      (shared.node 3).inner? = some 2 := by decide +kernel
  have middle : shared.Flattens [1] [1, 0] := .opened owns.1 last .nil
  have whole : shared.Flattens (shared.nodesOf 0) [2, 1, 0, 3, 0] :=
    .opened owns.2.1 middle (.opened owns.2.2 last .nil)
  cases only _ whole
  exact ⟨shared_reachable, by unfold Owns; decide +kernel, by unfold Owns; decide +kernel,
    by unfold Owns; decide +kernel, acyclic, opens, whole, (opened opens).1, (opened opens).2⟩

end Network

end SumProduct
