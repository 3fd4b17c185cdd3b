/-
Maps that are lists of pairs, after a key has been set.

Look-up finds the new value under the key and the old values elsewhere; there is still one pair for each
key.
-/

import Mathlib.Data.List.Nodup
import SumProduct.Association

set_option autoImplicit false

namespace SumProduct.Association

variable {κ β : Type} [DecidableEq κ]

theorem lookup_cons (key other : κ) (value : β) (rest : List (κ × β)) :
    ((key, value) :: rest).lookup other = if other = key then some value else rest.lookup other := by
  rw [List.lookup_cons]
  by_cases same : other = key
  · rw [if_pos same, beq_iff_eq.mpr same]
  · rw [if_neg same, beq_eq_false_iff_ne.mpr same]

theorem lookup_set (key other : κ) (value : β) (table : List (κ × β)) :
    (set key value table).lookup other
      = if other = key then some value else table.lookup other := by
  induction table with
  | nil => exact lookup_cons key other value []
  | cons head rest ih =>
      obtain ⟨first, old⟩ := head
      rw [set, lookup_cons]
      by_cases here : first = key
      · rw [if_pos here, lookup_cons]
        by_cases same : other = key
        · rw [if_pos same, if_pos same]
        · rw [if_neg same, if_neg same, if_neg (here ▸ same)]
      · rw [if_neg here, lookup_cons, ih]
        by_cases same : other = key
        · have different : other ≠ first := fun equal => here (equal.symm.trans same)
          rw [if_pos same, if_neg different, if_pos same]
        · rw [if_neg same, if_neg same]

theorem mem_set {key : κ} {value : β} {table : List (κ × β)} {entry : κ × β}
    (member : entry ∈ set key value table) : entry = (key, value) ∨ entry ∈ table := by
  induction table with
  | nil => exact Or.inl (List.mem_singleton.mp member)
  | cons head rest ih =>
      obtain ⟨other, old⟩ := head
      rw [set] at member
      split at member
      · rcases List.mem_cons.mp member with here | later
        · exact Or.inl here
        · exact Or.inr (List.mem_cons_of_mem _ later)
      · rcases List.mem_cons.mp member with here | later
        · exact Or.inr (here ▸ List.mem_cons_self)
        · exact (ih later).imp_right (List.mem_cons_of_mem _)

/-- Setting an entry does not make a second one for its key. -/
theorem nodup_set (key : κ) (value : β) {table : List (κ × β)}
    (separate : (table.map Prod.fst).Nodup) : ((set key value table).map Prod.fst).Nodup := by
  induction table with
  | nil => exact List.nodup_singleton key
  | cons head rest ih =>
      obtain ⟨other, old⟩ := head
      obtain ⟨apart, separateRest⟩ := List.nodup_cons.mp separate
      rw [set]
      by_cases here : other = key
      · rw [if_pos here, ← here]
        exact separate
      · rw [if_neg here]
        -- the key in front could come up again only as the key that is set
        refine List.nodup_cons.mpr ⟨?_, ih separateRest⟩
        intro met
        obtain ⟨entry, member, same⟩ := List.mem_map.mp met
        rcases mem_set member with rfl | old
        · exact here same.symm
        · exact apart (List.mem_map.mpr ⟨entry, old, same⟩)

/-- An item that is added to one of the lists of a table is the only one that is added. -/
theorem flatMap_set_append (key : κ) (item : β) (table : List (κ × List β)) :
    ((set key ((table.lookup key).getD [] ++ [item]) table).flatMap Prod.snd).Perm
      (table.flatMap Prod.snd ++ [item]) := by
  induction table with
  | nil => exact List.Perm.refl _
  | cons head rest ih =>
      obtain ⟨other, listed⟩ := head
      rw [set, lookup_cons]
      by_cases here : other = key
      -- the item goes behind the list of its key, and from there behind all that follows
      · rw [if_pos here, if_pos here.symm, Option.getD_some, List.flatMap_cons, List.flatMap_cons,
          List.append_assoc, List.append_assoc]
        exact List.perm_append_comm.append_left listed
      · rw [if_neg here, if_neg fun same => here same.symm, List.flatMap_cons, List.flatMap_cons,
          List.append_assoc]
        exact ih.append_left listed

end SumProduct.Association
