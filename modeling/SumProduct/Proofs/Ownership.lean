/-
When the walk through the owned graphs ends.

The walk keeps a stack of graphs and no record of the graphs that it has seen, so it ends below a graph
exactly if no graph below it owns itself through a chain of composite nodes.  A network has no such circle
exactly if no composite node closed one when it was registered.  Registration itself does not see to that: a
composite node that is refused because it would own its own graph stays registered, and a circle through
several graphs is not noticed.
-/

import Mathlib.Algebra.GroupWithZero.Nat
import Mathlib.Data.Finset.Card
import SumProduct.Network.Ownership
import SumProduct.Proofs.Consistency

set_option autoImplicit false

namespace SumProduct

/-! ### Relations without circles -/

section Circles

variable {α : Type} {linked : α → α → Prop} {start : α}

theorem no_circle_of_accessible (accessible : Acc (Function.swap linked) start) {reached : α}
    (path : Relation.ReflTransGen linked start reached) : ¬ Relation.TransGen linked reached reached := by
  induction accessible with
  | intro start _ ih =>
      intro circle
      rcases path.cases_head with rfl | ⟨next, link, onwards⟩
      · obtain ⟨next, link, back⟩ := Relation.TransGen.head'_iff.mp circle
        exact ih next link back circle
      · exact ih next link onwards circle

/-- Where only finitely many elements lead on, it is enough that none leads back to itself. -/
theorem accessible_of_no_circle [DecidableEq α] (sources : Finset α)
    (acyclic : ∀ reached, Relation.ReflTransGen linked start reached →
      ¬ Relation.TransGen linked reached reached)
    (contained : ∀ reached next, Relation.ReflTransGen linked start reached → linked reached next →
      reached ∈ sources) : Acc (Function.swap linked) start := by
  induction sources using Finset.strongInduction generalizing start with
  | H sources ih =>
      constructor
      intro next link
      have here : start ∈ sources := contained start next .refl link
      apply ih _ (Finset.erase_ssubset here)
      · exact fun reached path => acyclic reached (.head link path)
      · intro reached following path onwards
        refine Finset.mem_erase.mpr ⟨?_, contained reached following (.head link path) onwards⟩
        rintro rfl
        exact acyclic reached .refl (.head' link path)

/-- A path that may use new links from one source either does without them or goes to the source and on from
the target of such a link. -/
theorem transGen_with_links {source first last : α} {targets : α → Prop}
    (path : Relation.TransGen (fun one two => linked one two ∨ one = source ∧ targets two) first last) :
    Relation.TransGen linked first last ∨ Relation.ReflTransGen linked first source ∧
      ∃ target, targets target ∧ Relation.ReflTransGen linked target last := by
  induction path with
  | single step =>
      rcases step with old | ⟨rfl, new⟩
      · exact .inl (.single old)
      · exact .inr ⟨.refl, _, new, .refl⟩
  | tail _ step ih =>
      rcases step with old | ⟨rfl, new⟩
      · rcases ih with path | ⟨before, target, new, after⟩
        · exact .inl (path.tail old)
        · exact .inr ⟨before, target, new, after.tail old⟩
      · rcases ih with path | ⟨before, _⟩
        · exact .inr ⟨path.to_reflTransGen, _, new, .refl⟩
        · exact .inr ⟨before, _, new, .refl⟩

end Circles

/-! ### Walks -/

namespace Network

variable {network : Network}

/-- A node of the one graph owns the other as its inner graph. -/
def Owns (network : Network) (outer inner : GraphKey) : Prop :=
  inner ∈ network.innerGraphs outer

/-- No graph owns itself, directly or through other graphs. -/
def IsAcyclic (network : Network) : Prop :=
  ∀ graph, ¬ Relation.TransGen network.Owns graph graph

/-- The walk with this stack and this tree ends with the last tree. -/
inductive Explores (network : Network) : List GraphKey → OwnershipTree → OwnershipTree → Prop
  | done {tree : OwnershipTree} : Explores network [] tree tree
  | next {key : GraphKey} {stack : List GraphKey} {tree final : OwnershipTree}
      (onwards : Explores network ((network.innerGraphs key).reverse ++ stack)
        (network.expandGraph tree key) final) :
      Explores network (key :: stack) tree final

/-- The walk that starts at the graph ends. -/
def WalkEnds (network : Network) (graph : GraphKey) : Prop :=
  ∃ tree, network.Explores [graph] [(.graph graph, [])] tree

theorem Explores.unique {stack : List GraphKey} {tree first second : OwnershipTree}
    (explores : network.Explores stack tree first) (exploresToo : network.Explores stack tree second) :
    first = second := by
  induction explores with
  | done =>
      cases exploresToo
      rfl
  | next _ ih =>
      cases exploresToo with
      | next onwards => exact ih onwards

theorem Explores.accessible {stack : List GraphKey} {tree final : OwnershipTree}
    (explores : network.Explores stack tree final) :
    ∀ key ∈ stack, Acc (Function.swap network.Owns) key := by
  induction explores with
  | done => exact fun key impossible => nomatch impossible
  | @next key stack tree final _ ih =>
      intro other member
      rcases List.mem_cons.mp member with rfl | later
      · constructor
        intro inner owned
        exact ih inner (List.mem_append_left _ (List.mem_reverse.mpr owned))
      · exact ih other (List.mem_append_right _ later)

/-! ### The number of chains -/

theorem pathCount_foldlM {depth start total : Nat} {inners : List GraphKey} :
    inners.foldlM (fun count inner => (network.pathCount depth inner).map (count + ·)) start = some total ↔
      (∀ inner ∈ inners, ∃ count, network.pathCount depth inner = some count) ∧
        total = start + (inners.map fun inner => (network.pathCount depth inner).getD 0).sum := by
  induction inners generalizing start with
  | nil =>
      rw [List.foldlM_nil]
      simp [eq_comm]
  | cons inner rest ih =>
      rw [List.foldlM_cons]
      cases counted : network.pathCount depth inner with
      | none => simp [counted]
      | some count =>
          simp only [Option.map_some, Option.bind_eq_bind, Option.bind_some, ih, List.forall_mem_cons,
            counted, List.map_cons, List.sum_cons, Option.getD_some, Option.some.injEq, exists_eq',
            true_and, Nat.add_assoc]

/-- With the graphs on top of the stack, so many steps of the walk take it to where only the rest is left. -/
def Clears (network : Network) (steps : Nat) (graphs : List GraphKey) : Prop :=
  ∀ stack tree, ∃ reached,
    (∀ fuel, network.growTree (steps + fuel) (graphs ++ stack) tree = network.growTree fuel stack reached) ∧
      ∀ final, network.Explores stack reached final → network.Explores (graphs ++ stack) tree final

theorem Clears.nil : network.Clears 0 [] := by
  intro stack tree
  refine ⟨tree, fun fuel => ?_, fun final explores => explores⟩
  rw [Nat.zero_add, List.nil_append]

theorem Clears.append {first second : Nat} {graphs others : List GraphKey}
    (clears : network.Clears first graphs) (clearsToo : network.Clears second others) :
    network.Clears (first + second) (graphs ++ others) := by
  intro stack tree
  rw [List.append_assoc]
  obtain ⟨between, stepped, explored⟩ := clears (others ++ stack) tree
  obtain ⟨reached, steppedToo, exploredToo⟩ := clearsToo stack between
  refine ⟨reached, fun fuel => ?_, fun final explores => explored final (exploredToo final explores)⟩
  rw [Nat.add_assoc, stepped, steppedToo]

theorem Clears.graph {steps : Nat} {key : GraphKey}
    (clears : network.Clears steps (network.innerGraphs key).reverse) : network.Clears (1 + steps) [key] := by
  intro stack tree
  obtain ⟨reached, stepped, explored⟩ := clears stack (network.expandGraph tree key)
  refine ⟨reached, fun fuel => ?_, fun final explores => .next (explored final explores)⟩
  rw [Nat.add_assoc, Nat.add_comm 1, List.singleton_append, growTree, stepped]

theorem clears_of_pathCount {depth count : Nat} {key : GraphKey}
    (counted : network.pathCount depth key = some count) : network.Clears count [key] := by
  induction depth generalizing count key with
  | zero => cases counted
  | succ depth ih =>
      obtain ⟨each, rfl⟩ := pathCount_foldlM.mp counted
      have all : ∀ inners : List GraphKey,
          (∀ inner ∈ inners, ∃ count, network.pathCount depth inner = some count) →
          network.Clears (inners.map fun inner => (network.pathCount depth inner).getD 0).sum inners := by
        intro inners
        induction inners with
        | nil => exact fun _ => Clears.nil
        | cons inner rest onwards =>
            intro each
            obtain ⟨count, known⟩ := each inner List.mem_cons_self
            rw [List.map_cons, List.sum_cons, known, Option.getD_some]
            exact (ih known).append (onwards fun other member => each other (List.mem_cons_of_mem inner member))
      -- The last of the inner graphs is on top of the stack; their counts add up to the same.
      have inside := all (network.innerGraphs key).reverse fun inner member =>
        each inner (List.mem_reverse.mp member)
      rw [List.map_reverse, List.sum_reverse] at inside
      exact inside.graph

theorem pathCount_of_acyclic {key : GraphKey} (graphs : Finset GraphKey)
    (acyclic : ∀ graph, Relation.ReflTransGen network.Owns key graph →
      ¬ Relation.TransGen network.Owns graph graph)
    (contained : ∀ graph, Relation.ReflTransGen network.Owns key graph →
      network.innerGraphs graph ≠ [] → graph ∈ graphs) :
    ∃ count, network.pathCount (graphs.card + 1) key = some count := by
  -- A graph that owns others is used up: it is not met again further down the chain.
  induction graphs using Finset.strongInduction generalizing key with
  | H graphs ih =>
      have each : ∀ inner ∈ network.innerGraphs key,
          ∃ count, network.pathCount graphs.card inner = some count := by
        intro inner owned
        have here : key ∈ graphs := contained key .refl (List.ne_nil_of_mem owned)
        rw [← Finset.card_erase_add_one here]
        apply ih _ (Finset.erase_ssubset here)
        · exact fun graph below => acyclic graph (.head owned below)
        · intro graph below opens
          refine Finset.mem_erase.mpr ⟨?_, contained graph (.head owned below) opens⟩
          rintro rfl
          exact acyclic graph .refl (.head' owned below)
      exact ⟨_, pathCount_foldlM.mpr ⟨each, rfl⟩⟩

theorem innerGraphs_beyond {key : GraphKey} (beyond : network.graphs.size ≤ key) :
    network.innerGraphs key = [] := by
  rw [innerGraphs, graph_beyond beyond]
  rfl

theorem explores_of_ownershipTree {graph : GraphKey} {tree : OwnershipTree}
    (found : network.ownershipTree? graph = some tree) :
    network.Explores [graph] [(.graph graph, [])] tree := by
  obtain ⟨count, counted, rfl⟩ := Option.map_eq_some_iff.mp found
  obtain ⟨reached, stepped, explored⟩ := clears_of_pathCount counted [] [(.graph graph, [])]
  have last : network.growTree count [graph] [(.graph graph, [])] = reached := stepped 0
  rw [last]
  exact explored reached .done

theorem ownershipTree_of_acyclic {graph : GraphKey}
    (acyclic : ∀ below, Relation.ReflTransGen network.Owns graph below →
      ¬ Relation.TransGen network.Owns below below) :
    ∃ tree, network.ownershipTree? graph = some tree := by
  have contained : ∀ below, Relation.ReflTransGen network.Owns graph below →
      network.innerGraphs below ≠ [] → below ∈ Finset.range network.graphs.size := by
    intro below _ opens
    rw [Finset.mem_range]
    by_contra beyond
    exact opens (innerGraphs_beyond (Nat.le_of_not_lt beyond))
  obtain ⟨count, counted⟩ := pathCount_of_acyclic (Finset.range network.graphs.size) acyclic contained
  rw [Finset.card_range] at counted
  rw [ownershipTree?, counted]
  exact ⟨_, rfl⟩

/-- The walk ends exactly where no graph below owns itself. -/
theorem walkEnds_iff {graph : GraphKey} : network.WalkEnds graph ↔
    ∀ below, Relation.ReflTransGen network.Owns graph below →
      ¬ Relation.TransGen network.Owns below below := by
  constructor
  · rintro ⟨tree, explores⟩ below chain
    exact no_circle_of_accessible (explores.accessible graph List.mem_cons_self) chain
  · intro acyclic
    obtain ⟨tree, found⟩ := ownershipTree_of_acyclic acyclic
    exact ⟨tree, explores_of_ownershipTree found⟩

/-- The bounded exploration is the walk: it gives a tree exactly where the walk ends, and the same one. -/
theorem ownershipTree_eq_some_iff {graph : GraphKey} {tree : OwnershipTree} :
    network.ownershipTree? graph = some tree ↔ network.Explores [graph] [(.graph graph, [])] tree := by
  refine ⟨explores_of_ownershipTree, fun explores => ?_⟩
  obtain ⟨other, found⟩ := ownershipTree_of_acyclic (walkEnds_iff.mp ⟨tree, explores⟩)
  rw [found, (explores_of_ownershipTree found).unique explores]

/-! ### What relies on the walk -/

theorem allNodes_endless_iff {graph : GraphKey} :
    network.allNodes graph = .error (.lapsed .endlessOwnership) ↔ ¬ network.WalkEnds graph := by
  rw [allNodes, allNodes?]
  cases found : network.ownershipTree? graph with
  | none =>
      refine iff_of_true rfl ?_
      rintro ⟨tree, explores⟩
      rw [ownershipTree_eq_some_iff.mpr explores] at found
      cases found
  | some tree =>
      refine iff_of_false ?_ fun endless => endless ⟨tree, ownershipTree_eq_some_iff.mp found⟩
      simp only [Option.map_some]
      split
      · exact fun impossible => nomatch impossible
      · exact fun impossible => nomatch impossible

theorem findNode_endless_iff {graph : GraphKey} {id : Key} :
    network.findNode graph id = .error (.lapsed .endlessOwnership) ↔
      (network.graph graph).nodes.get? id = none ∧ ¬ network.WalkEnds graph := by
  rw [findNode, ← allNodes_endless_iff]
  cases (network.graph graph).nodes.get? id with
  | some node => exact iff_of_false (fun impossible => nomatch impossible) (fun impossible => nomatch impossible.1)
  | none =>
      cases network.allNodes graph with
      | error fault => simp
      | ok nodes =>
          refine iff_of_false ?_ (fun impossible => nomatch impossible.2)
          simp only [Partial.ok_bind]
          split
          · exact fun impossible => nomatch impossible
          · exact fun impossible => nomatch impossible

theorem graphText_endless_iff {graph : GraphKey} :
    network.graphText graph = .error (.lapsed .endlessOwnership) ↔ ¬ network.WalkEnds graph := by
  rw [graphText, ← allNodes_endless_iff]
  cases network.allNodes graph with
  | error fault => simp
  | ok nodes => exact iff_of_false (fun impossible => nomatch impossible) (fun impossible => nomatch impossible)

/-! ### How circles come about -/

/-- A node registered before the given one owns a graph: ownership as it was when that node came. -/
def OwnsBefore (network : Network) (bound : NodeKey) (outer inner : GraphKey) : Prop :=
  ∃ key < bound, (network.node key).graph = outer ∧ (network.node key).inner? = some inner

/-- Whenever a composite node was registered, its inner graph did not yet own the graph that it came to. -/
def ClosesNoCircle (network : Network) : Prop :=
  ∀ key < network.nodes.size, ∀ inner, (network.node key).inner? = some inner →
    ¬ Relation.ReflTransGen (network.OwnsBefore key) inner (network.node key).graph

theorem Sound.owns_iff (sound : network.Sound) {outer inner : GraphKey} :
    network.Owns outer inner ↔ network.OwnsBefore network.nodes.size outer inner := by
  rw [Owns, innerGraphs, List.mem_filterMap]
  constructor
  · rintro ⟨⟨name, key⟩, listed, owned⟩
    by_cases present : outer < network.graphs.size
    · obtain ⟨there, _, home⟩ := (sound.mem_nodes present name key).mp listed
      exact ⟨key, there, home, owned⟩
    · rw [graph_beyond (Nat.le_of_not_lt present)] at listed
      cases listed
  · rintro ⟨key, there, rfl, owned⟩
    exact ⟨_, (sound.mem_nodes (sound.homes key there) _ key).mpr ⟨there, rfl, rfl⟩, owned⟩

theorem ownsBefore_succ {bound : NodeKey} {outer inner : GraphKey} :
    network.OwnsBefore (bound + 1) outer inner ↔ network.OwnsBefore bound outer inner ∨
      (network.node bound).graph = outer ∧ (network.node bound).inner? = some inner := by
  constructor
  · rintro ⟨key, there, owned⟩
    by_cases last : key = bound
    · exact .inr (last ▸ owned)
    · exact .inl ⟨key, Nat.lt_of_le_of_ne (Nat.le_of_lt_succ there) last, owned⟩
  · rintro (⟨key, there, owned⟩ | owned)
    · exact ⟨key, Nat.lt_succ_of_lt there, owned⟩
    · exact ⟨bound, Nat.lt_succ_self bound, owned⟩

theorem ClosesNoCircle.acyclicBefore (closes : network.ClosesNoCircle) {bound : NodeKey}
    (within : bound ≤ network.nodes.size) (graph : GraphKey) :
    ¬ Relation.TransGen (network.OwnsBefore bound) graph graph := by
  induction bound generalizing graph with
  | zero =>
      intro circle
      obtain ⟨_, ⟨key, impossible, _⟩, _⟩ := Relation.TransGen.head'_iff.mp circle
      exact absurd impossible (Nat.not_lt_zero key)
  | succ bound ih =>
      intro circle
      have links : Relation.TransGen (fun outer inner => network.OwnsBefore bound outer inner ∨
          outer = (network.node bound).graph ∧ (network.node bound).inner? = some inner) graph graph := by
        refine Relation.TransGen.mono ?_ _ _ circle
        intro outer inner owns
        rcases ownsBefore_succ.mp owns with before | ⟨home, last⟩
        · exact .inl before
        · exact .inr ⟨home.symm, last⟩
      -- A new circle runs through the node, and so from its inner graph back to its own one.
      rcases transGen_with_links links with old | ⟨toHome, inner, owned, fromInner⟩
      · exact ih (Nat.le_of_succ_le within) graph old
      · exact closes bound within inner owned (fromInner.trans toHome)

theorem Sound.acyclic_iff (sound : network.Sound) : network.IsAcyclic ↔ network.ClosesNoCircle := by
  have same : network.Owns = network.OwnsBefore network.nodes.size := by
    funext outer inner
    exact propext sound.owns_iff
  constructor
  · intro acyclic key there inner owned chain
    have below : Relation.ReflTransGen network.Owns inner (network.node key).graph := by
      rw [same]
      refine Relation.ReflTransGen.mono ?_ _ _ chain
      rintro outer other ⟨earlier, before, rest⟩
      exact ⟨earlier, Nat.lt_trans before there, rest⟩
    have owns : network.Owns (network.node key).graph inner := sound.owns_iff.mpr ⟨key, there, rfl, owned⟩
    exact acyclic inner (Relation.TransGen.tail' below owns)
  · intro closes graph
    rw [same]
    exact closes.acyclicBefore (Nat.le_refl _) graph

/-- In every network that can be built, also by calls that fail, ownership has no circle exactly if no composite
node closed one when it was registered; and then the walk ends from every graph, with the tree that
`ownershipTree?` gives, so that listing all nodes, finding a node and writing a graph come to an end. -/
theorem Reachable.ownership_ends (reachable : network.Reachable) :
    (network.IsAcyclic ↔ network.ClosesNoCircle) ∧
    (network.IsAcyclic ↔ ∀ graph, network.WalkEnds graph) ∧
    ∀ graph,
      (∀ tree, network.ownershipTree? graph = some tree ↔
        network.Explores [graph] [(.graph graph, [])] tree) ∧
      (network.allNodes graph = .error (.lapsed .endlessOwnership) ↔ ¬ network.WalkEnds graph) ∧
      (∀ id, network.findNode graph id = .error (.lapsed .endlessOwnership) ↔
        (network.graph graph).nodes.get? id = none ∧ ¬ network.WalkEnds graph) ∧
      (network.graphText graph = .error (.lapsed .endlessOwnership) ↔ ¬ network.WalkEnds graph) := by
  refine ⟨reachable.sound.acyclic_iff, ⟨?_, ?_⟩, fun graph => ⟨fun tree => ownershipTree_eq_some_iff,
    allNodes_endless_iff, fun id => findNode_endless_iff, graphText_endless_iff⟩⟩
  · intro acyclic graph
    exact walkEnds_iff.mpr fun below _ => acyclic below
  · intro ends graph
    exact walkEnds_iff.mp (ends graph) graph .refl

/-- A graph with a composite node that owns another graph. -/
def nesting : List Build.Call :=
  [.newGraph .absent, .newGraph .absent, .addTerminal (some "a") (some 1),
    .addComposite (some 1) [.node 0] none (some "p") (some 0)]

def nested : Network := nesting.foldl Build.Call.after {}

theorem nested_reachable : nested.Reachable := by
  apply Reachable.empty.calls
  refine ⟨trivial, trivial, ?_, ⟨?_, ?_⟩, trivial⟩
  · rintro key ⟨⟩
    decide +kernel
  · rintro key ⟨⟩
    decide +kernel
  · intro key offered
    cases List.mem_singleton.mp offered
    decide +kernel

theorem nested_closesNoCircle : nested.ClosesNoCircle := by
  have count : nested.nodes.size = 2 := by decide +kernel
  have outer : (nested.node 1).graph = 0 ∧ (nested.node 1).inner? = some 1 := by decide +kernel
  have inner : (nested.node 0).inner? = none := by decide +kernel
  intro key there owned owns chain
  rw [count] at there
  obtain rfl | rfl : key = 0 ∨ key = 1 := by omega
  · rw [inner] at owns
    cases owns
  · rw [outer.2] at owns
    cases owns
    rw [outer.1] at chain
    rcases chain.cases_head with impossible | ⟨_, ⟨earlier, before, _, owns⟩, _⟩
    · cases impossible
    · cases Nat.lt_one_iff.mp before
      rw [inner] at owns
      cases owns

theorem Reachable.ownership_ends_nested :
    nested.Reachable ∧ nested.Owns 0 1 ∧ nested.IsAcyclic ∧ ∀ graph, nested.WalkEnds graph := by
  obtain ⟨circles, walks, _⟩ := nested_reachable.ownership_ends
  have acyclic := circles.mpr nested_closesNoCircle
  exact ⟨nested_reachable, by unfold Owns; decide +kernel, acyclic, walks.mp acyclic⟩

/-- The first composite node is refused, since it would own its own graph; the other two are accepted. -/
def circling : List Build.Call :=
  [.newGraph .absent, .newGraph .absent, .newGraph .absent,
    .addComposite (some 0) [] none (some "p") (some 0),
    .addComposite (some 2) [] none (some "q") (some 1),
    .addComposite (some 1) [] none (some "r") (some 2)]

def circled : Network := circling.foldl Build.Call.after {}

theorem circled_reachable : circled.Reachable := by
  apply Reachable.empty.calls
  refine ⟨trivial, trivial, trivial, ⟨?_, nofun⟩, ⟨?_, nofun⟩, ⟨?_, nofun⟩, trivial⟩
  all_goals
    rintro key ⟨⟩
    decide +kernel

/-- Circles come about: by a composite node that is refused but stays registered, and by two composite nodes
that own each other's graphs.  The walk does not end from any of the graphs. -/
theorem composites_close_circles :
    circled.Reachable ∧
    (∃ fault after, Build.addComposite (some 0) [] none (some "p") (some 0)
      ((circling.take 3).foldl Build.Call.after {}) = .error fault after) ∧
    circled.Owns 0 0 ∧ circled.Owns 1 2 ∧ circled.Owns 2 1 ∧ ¬ circled.IsAcyclic ∧
    (∀ graph : Nat, graph < 3 → ¬ circled.WalkEnds graph) ∧
    circled.graphText 0 = .error (.lapsed .endlessOwnership) := by
  have own : circled.Owns 0 0 := by
    unfold Owns
    decide +kernel
  have there : circled.Owns 1 2 := by
    unfold Owns
    decide +kernel
  have back : circled.Owns 2 1 := by
    unfold Owns
    decide +kernel
  have circle : ∀ graph : Nat, graph < 3 → Relation.TransGen circled.Owns graph graph := by
    intro graph known
    obtain rfl | rfl | rfl : graph = 0 ∨ graph = 1 ∨ graph = 2 := by omega
    · exact .single own
    · exact .head there (.single back)
    · exact .head back (.single there)
  have endless : ∀ graph : Nat, graph < 3 → ¬ circled.WalkEnds graph := by
    intro graph known ends
    exact walkEnds_iff.mp ends graph .refl (circle graph known)
  exact ⟨circled_reachable, ⟨_, _, rfl⟩, own, there, back, fun acyclic => acyclic 0 (.single own), endless,
    graphText_endless_iff.mpr (endless 0 (by decide))⟩

end Network

end SumProduct
