/-
The depth-first walk through an ownership tree.

The walk lists every vertex when it is first met.  Where no vertex leads back to itself, this is the recursive
listing, in which each vertex is followed by the listings of all that it leads to, with repeats dropped: a
vertex that is met again has been listed together with everything below it.
-/

import SumProduct.Proofs.Ownership

set_option autoImplicit false

namespace SumProduct

/-! ### Lists with repeats dropped -/

section Repeats

variable {α β : Type} [BEq α] [LawfulBEq α] [BEq β] [LawfulBEq β]

theorem nodup_eraseDups (items : List α) : items.eraseDups.Nodup := by
  match items with
  | [] => exact List.nodup_nil
  | head :: rest =>
      rw [List.eraseDups_cons, List.nodup_cons, List.mem_eraseDups, List.mem_filter]
      have shorter : (rest.filter fun item => !item == head).length ≤ rest.length :=
        List.length_filter_le _ rest
      exact ⟨by simp, nodup_eraseDups _⟩
termination_by items.length
decreasing_by exact Nat.lt_succ_of_le shorter

theorem eraseDups_of_nodup {items : List α} (distinct : items.Nodup) : items.eraseDups = items := by
  induction items with
  | nil => rfl
  | cons head rest ih =>
      obtain ⟨fresh, others⟩ := List.nodup_cons.mp distinct
      have kept : (rest.filter fun item => !item == head) = rest := by
        rw [List.filter_eq_self]
        intro item member
        have different : item ≠ head := fun same => fresh (same ▸ member)
        simp [different]
      rw [List.eraseDups_cons, kept, ih others]

/-- What is there already may be left out. -/
theorem eraseDups_append_of_subset {items known others : List α} (subset : ∀ item ∈ known, item ∈ items) :
    (items ++ (known ++ others)).eraseDups = (items ++ others).eraseDups := by
  have none : known.removeAll items = [] := by
    rw [List.removeAll, List.filter_eq_nil_iff]
    intro item member
    simp [subset item member]
  have split : (known ++ others).removeAll items = known.removeAll items ++ others.removeAll items :=
    List.filter_append _ _
  rw [List.eraseDups_append, List.eraseDups_append, split, none, List.nil_append]

theorem filterMap_eraseDups {f : α → Option β} (injective : ∀ one two image,
    f one = some image → f two = some image → one = two) (items : List α) :
    items.eraseDups.filterMap f = (items.filterMap f).eraseDups := by
  match items with
  | [] => rfl
  | head :: rest =>
      have shorter : (rest.filter fun item => !item == head).length ≤ rest.length :=
        List.length_filter_le _ rest
      have ih := filterMap_eraseDups injective (rest.filter fun item => !item == head)
      rw [List.eraseDups_cons]
      cases image : f head with
      | none =>
          rw [List.filterMap_cons_none image, List.filterMap_cons_none image, ih, List.filterMap_filter]
          congr 1
          apply List.filterMap_congr
          intro item _
          by_cases same : item = head
          · simp [same, image]
          · simp [same]
      | some found =>
          rw [List.filterMap_cons_some image, List.filterMap_cons_some image, ih, List.eraseDups_cons,
            List.filterMap_filter, List.filter_filterMap]
          congr 2
          apply List.filterMap_congr
          intro item _
          by_cases same : item = head
          · simp [same, image, Option.filter]
          · cases other : f item with
            | none => simp [same, Option.filter]
            | some result =>
                have apart : result ≠ found := fun equal =>
                  same (injective item head found (equal ▸ other) image)
                simp [same, apart, Option.filter]
termination_by items.length
decreasing_by exact Nat.lt_succ_of_le shorter

end Repeats

namespace OwnershipTree

variable {tree : OwnershipTree} {stack others flat first second seen : List Owner} {vertex : Owner}

/-- The tree has an arc from the first vertex to the second. -/
def Leads (tree : OwnershipTree) (source target : Owner) : Prop := target ∈ tree.successors source

/-- The recursive listing of some vertices: each of them, followed by the listing of its successors. -/
inductive Unfolds (tree : OwnershipTree) : List Owner → List Owner → Prop
  | nil : Unfolds tree [] []
  | cons {vertex : Owner} {rest inside flat : List Owner} (inwards : Unfolds tree (tree.successors vertex) inside)
      (onwards : Unfolds tree rest flat) : Unfolds tree (vertex :: rest) (vertex :: (inside ++ flat))

theorem Unfolds.append (unfolds : tree.Unfolds stack first) (unfoldsToo : tree.Unfolds others second) :
    tree.Unfolds (stack ++ others) (first ++ second) := by
  induction unfolds with
  | nil => exact unfoldsToo
  | cons inwards _ _ ih =>
      rw [List.cons_append, List.cons_append, List.append_assoc]
      exact .cons inwards ih

theorem Unfolds.mem_iff (unfolds : tree.Unfolds stack flat) {listed : Owner} :
    listed ∈ flat ↔ ∃ vertex ∈ stack, Relation.ReflTransGen tree.Leads vertex listed := by
  induction unfolds with
  | nil => simp
  | @cons vertex rest inside flat _ _ inner outer =>
      rw [List.mem_cons, List.mem_append, inner, outer, List.exists_mem_cons_iff,
        Relation.ReflTransGen.cases_head_iff, or_assoc]
      exact or_congr_left eq_comm

theorem Unfolds.accessible (unfolds : tree.Unfolds stack flat) :
    ∀ vertex ∈ stack, Acc (Function.swap tree.Leads) vertex := by
  induction unfolds with
  | nil => exact fun vertex impossible => nomatch impossible
  | cons _ _ inner outer =>
      intro vertex member
      rcases List.mem_cons.mp member with rfl | later
      · exact ⟨_, fun target leads => inner target leads⟩
      · exact outer vertex later

/-! ### Enough steps -/

/-- Steps that a walk may still take: the vertices on the stack, and those that are put on it. -/
def pending (tree : OwnershipTree) (stack seen : List Owner) : Nat :=
  stack.length + tree.arcs.countP fun arc => arc.1 ∉ seen

theorem arcs_cons (entry : Owner × List Owner) (tree : OwnershipTree) :
    arcs (entry :: tree) = (entry.2.map fun target => (entry.1, target)) ++ arcs tree := rfl

theorem successors_cons (source : Owner) (targets : List Owner) (tree : OwnershipTree) (vertex : Owner) :
    successors ((source, targets) :: tree) vertex
      = if vertex = source then targets else tree.successors vertex := by
  rw [successors, Association.lookup_cons]
  split
  · rfl
  · rfl

/-- The arcs from a vertex are used up when the vertex is listed. -/
theorem countP_arcs_listed (tree : OwnershipTree) (fresh : vertex ∉ seen) :
    (tree.successors vertex).length + (tree.arcs.countP fun arc => arc.1 ∉ seen ++ [vertex])
      ≤ tree.arcs.countP fun arc => arc.1 ∉ seen := by
  induction tree with
  | nil => exact Nat.le_refl 0
  | cons entry rest ih =>
      obtain ⟨source, targets⟩ := entry
      rw [arcs_cons, List.countP_append, List.countP_append, List.countP_map, List.countP_map,
        successors_cons]
      by_cases same : vertex = source
      · subst same
        have fewer : (arcs rest).countP (fun arc => arc.1 ∉ seen ++ [vertex])
            ≤ (arcs rest).countP fun arc => arc.1 ∉ seen := by
          apply List.countP_mono_left
          intro arc _ listed
          simp only [List.mem_append, not_or, decide_eq_true_eq] at listed ⊢
          exact listed.1
        simpa [Function.comp_def, fresh] using fewer
      · have alike : (source ∈ seen ++ [vertex]) = (source ∈ seen) := by
          simp [Ne.symm same]
        simp only [Function.comp_def, alike, if_neg same]
        omega

/-- A listed vertex has been listed with all below it, but for what lies below vertices on top of the stack that
were put there because of it. -/
def Settled (tree : OwnershipTree) (stack seen : List Owner) : Prop :=
  ∀ listed ∈ seen, ∃ above below, stack = above ++ below ∧
    (∀ vertex ∈ above, Relation.TransGen tree.Leads listed vertex) ∧
    ∀ reached, Relation.ReflTransGen tree.Leads listed reached →
      reached ∈ seen ∨ ∃ vertex ∈ above, Relation.ReflTransGen tree.Leads vertex reached

theorem Settled.skip (settled : tree.Settled (vertex :: stack) seen) (met : vertex ∈ seen)
    (acyclic : ¬ Relation.TransGen tree.Leads vertex vertex) :
    (∀ reached, Relation.ReflTransGen tree.Leads vertex reached → reached ∈ seen) ∧
      tree.Settled stack seen := by
  have whole : ∀ reached, Relation.ReflTransGen tree.Leads vertex reached → reached ∈ seen := by
    obtain ⟨above, below, split, because, listed⟩ := settled vertex met
    cases above with
    | nil =>
        intro reached path
        rcases listed reached path with here | ⟨_, impossible, _⟩
        · exact here
        · cases impossible
    | cons top above =>
        -- The vertex would be on the stack because of itself.
        cases split
        exact absurd (because vertex List.mem_cons_self) acyclic
  refine ⟨whole, fun listed member => ?_⟩
  obtain ⟨above, below, split, because, rest⟩ := settled listed member
  cases above with
  | nil => exact ⟨[], stack, rfl, fun _ impossible => (List.not_mem_nil impossible).elim, rest⟩
  | cons top above =>
      cases split
      refine ⟨above, below, rfl, fun other later => because other (List.mem_cons_of_mem _ later), ?_⟩
      intro reached path
      rcases rest reached path with here | ⟨other, later, onwards⟩
      · exact .inl here
      · rcases List.mem_cons.mp later with rfl | later
        · exact .inl (whole reached onwards)
        · exact .inr ⟨other, later, onwards⟩

theorem Settled.list (settled : tree.Settled (vertex :: stack) seen) :
    tree.Settled (tree.successors vertex ++ stack) (seen ++ [vertex]) := by
  -- What lies below the vertex lies below one of its successors, which replace it on the stack.
  have opened : ∀ reached, Relation.ReflTransGen tree.Leads vertex reached →
      reached ∈ seen ++ [vertex] ∨
        ∃ target ∈ tree.successors vertex, Relation.ReflTransGen tree.Leads target reached := by
    intro reached path
    rcases path.cases_head with rfl | ⟨target, leads, onwards⟩
    · exact .inl (List.mem_append_right _ (List.mem_singleton.mpr rfl))
    · exact .inr ⟨target, leads, onwards⟩
  intro listed member
  rcases List.mem_append.mp member with earlier | here
  · obtain ⟨above, below, split, because, rest⟩ := settled listed earlier
    cases above with
    | nil =>
        refine ⟨[], _, rfl, fun _ impossible => (List.not_mem_nil impossible).elim, fun reached path => ?_⟩
        rcases rest reached path with known | ⟨_, impossible, _⟩
        · exact .inl (List.mem_append_left _ known)
        · cases impossible
    | cons top above =>
        cases split
        have below := because vertex List.mem_cons_self
        refine ⟨tree.successors vertex ++ above, _, List.append_assoc _ _ _ |>.symm, ?_, ?_⟩
        · intro other later
          rcases List.mem_append.mp later with target | later
          · exact below.tail target
          · exact because other (List.mem_cons_of_mem _ later)
        · intro reached path
          rcases rest reached path with known | ⟨other, later, onwards⟩
          · exact .inl (List.mem_append_left _ known)
          · rcases List.mem_cons.mp later with rfl | later
            · rcases opened reached onwards with known | ⟨target, leads, onwards⟩
              · exact .inl known
              · exact .inr ⟨target, List.mem_append_left _ leads, onwards⟩
            · exact .inr ⟨other, List.mem_append_right _ later, onwards⟩
  · cases List.mem_singleton.mp here
    exact ⟨tree.successors vertex, stack, rfl, fun target leads => .single leads, opened⟩

/-- With enough steps the walk lists what is listed recursively, behind what was listed before. -/
theorem preorder_eq {fuel : Nat} (unfolds : tree.Unfolds stack flat) (enough : tree.pending stack seen ≤ fuel)
    (settled : tree.Settled stack seen) (distinct : seen.Nodup) :
    tree.preorder fuel stack seen = (seen ++ flat).eraseDups := by
  induction fuel generalizing stack seen flat with
  | zero =>
      cases unfolds with
      | nil => rw [List.append_nil, eraseDups_of_nodup distinct, preorder]
      | cons inwards onwards =>
          rw [pending, List.length_cons] at enough
          omega
  | succ fuel ih =>
      cases unfolds with
      | nil => rw [List.append_nil, eraseDups_of_nodup distinct, preorder]
      | @cons vertex rest inside others inwards onwards =>
          have whole : tree.Unfolds [vertex] (vertex :: inside) := by
            have alone := Unfolds.cons inwards .nil
            rwa [List.append_nil] at alone
          rw [preorder]
          split
          · rename_i met
            have acyclic := no_circle_of_accessible
              (whole.accessible vertex (List.mem_singleton.mpr rfl)) .refl
            obtain ⟨listed, settled⟩ := settled.skip met acyclic
            have known : ∀ item ∈ vertex :: inside, item ∈ seen := by
              intro item member
              obtain ⟨top, here, path⟩ := whole.mem_iff.mp member
              cases List.mem_singleton.mp here
              exact listed item path
            rw [ih onwards _ settled distinct, ← List.cons_append, eraseDups_append_of_subset known]
            rw [pending, List.length_cons] at enough
            rw [pending]
            omega
          · rename_i fresh
            have apart : (seen ++ [vertex]).Nodup := by
              rw [List.nodup_append]
              refine ⟨distinct, List.nodup_singleton vertex, fun item member other here same => ?_⟩
              cases List.mem_singleton.mp here
              exact fresh (same ▸ member)
            rw [ih (inwards.append onwards) _ settled.list apart, List.append_assoc, List.singleton_append]
            have used := tree.countP_arcs_listed fresh
            rw [pending, List.length_cons] at enough
            rw [pending, List.length_append]
            omega

end OwnershipTree

end SumProduct
