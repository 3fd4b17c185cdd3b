/-
Identifiers of one registry never clash.

Numbers that are looked through for a free identifier belong to different identifiers, and there are
more of them than identifiers that are taken.  So a generated identifier is free, as a claimed one is,
and the identifiers that a registry has handed out lead to different entries.
-/

import SumProduct.Identifier
import SumProduct.Proofs.Partial

set_option autoImplicit false

namespace SumProduct

open Partial (map_eq_ok)

theorem Key.same_iff {left right : Key} : left.same right = true ↔ left.normal = right.normal :=
  decide_eq_true_iff

theorem Key.same_comm (left right : Key) : left.same right = right.same left := by
  rw [Key.same, Key.same]
  exact decide_eq_decide.mpr eq_comm

/-- Only the text itself leads to the entry of a text. -/
theorem Key.normal_eq_text {key : Key} {name : String} : key.normal = .text name ↔ key = .text name := by
  cases key with
  | text other => rfl
  | absent => exact Iff.rfl
  | flag value => simp [Key.normal]
  | whole value => exact Iff.rfl
  | real value =>
      rw [Key.normal]
      cases Number.toInt? value with
      | none => simp
      | some number => simp

/-- An item that is apart from all items of a list can be added to it. -/
theorem pairwise_fresh {α : Type} {apart : α → α → Prop} {items : List α} {item : α}
    (distinct : items.Pairwise apart) (fresh : ∀ other ∈ items, apart other item) :
    (items ++ [item]).Pairwise apart := by
  rw [List.pairwise_append]
  refine ⟨distinct, List.pairwise_singleton _ _, ?_⟩
  intro other member last new
  rw [List.mem_singleton.mp new]
  exact fresh other member

namespace IdRegistry

theorem integerText_injective {first second : Nat}
    (same : Number.integerText first = Number.integerText second) : first = second := by
  have written : ∀ number : Nat,
      Number.integerText number = String.ofList (Nat.toDigits 10 number) := by
    intro number
    have sign : ¬ ((number : Int) < 0) := by omega
    rw [Number.integerText, if_neg sign]
    rfl
  rw [written, written] at same
  have digits := congrArg (fun digits => Nat.ofDigitChars 10 digits 0) (String.ofList_injective same)
  simpa using digits

theorem numbered_injective {stem : String} {first second : Nat}
    (same : numbered stem first = numbered stem second) : first = second := by
  apply integerText_injective
  exact (String.append_right_inj (stem ++ "_")).mp same

/-- The search ends at a free number.  `left` holds what the remaining numbers can still meet; each
taken number uses up one of them. -/
theorem firstFree_not_mem {taken : List Key} {stem : String} {steps last : Nat} (left : List Key)
    (within : ∀ number, last < number → .text (numbered stem number) ∈ taken →
      .text (numbered stem number) ∈ left) (enough : left.length ≤ steps) :
    .text (numbered stem (firstFree taken stem steps last)) ∉ taken := by
  induction steps generalizing last left with
  | zero =>
      intro member
      have there := within (last + 1) (Nat.lt_succ_self last) member
      rw [List.eq_nil_of_length_eq_zero (Nat.le_zero.mp enough)] at there
      cases there
  | succ steps ih =>
      rw [firstFree]
      by_cases met : taken.contains (.text (numbered stem (last + 1))) = true
      · rw [if_pos met]
        have here := within (last + 1) (Nat.lt_succ_self last) (List.contains_iff_mem.mp met)
        refine ih (left.erase (.text (numbered stem (last + 1)))) ?_ ?_
        · intro number later member
          have different : Key.text (numbered stem number) ≠ .text (numbered stem (last + 1)) := by
            intro same
            have equal := numbered_injective (Key.text.inj same)
            omega
          exact (List.mem_erase_of_ne different).mpr (within number (by omega) member)
        · rw [List.length_erase_of_mem here]
          omega
      · rw [if_neg met]
        intro member
        exact met (List.contains_iff_mem.mpr member)

theorem generate_fresh (registry : IdRegistry) (stem : String) :
    (registry.generate stem).2.taken = registry.taken ++ [.text (registry.generate stem).1] ∧
      ∀ key ∈ registry.taken, key.same (.text (registry.generate stem).1) = false := by
  refine ⟨rfl, ?_⟩
  intro key member
  rw [Bool.eq_false_iff]
  intro same
  have equal := Key.normal_eq_text.mp (Key.same_iff.mp same)
  rw [equal] at member
  exact firstFree_not_mem registry.taken (fun _ _ there => there) (Nat.le_refl _) member

/-- An identifier that is assigned is recorded, and no identifier was the same before. -/
theorem assign_fresh {registry updated : IdRegistry} {id : Option Key} {stem : Value} {name : Key}
    (assigned : registry.assign id stem = .ok (name, updated)) :
    updated.taken = registry.taken ++ [name] ∧
      ∀ key ∈ registry.taken, key.same name = false := by
  cases id with
  | some chosen =>
      obtain ⟨claimed, granted, same⟩ := map_eq_ok.mp assigned
      rw [Prod.mk.injEq] at same
      obtain ⟨rfl, rfl⟩ := same
      rw [claim] at granted
      split at granted
      · cases granted
      · rename_i free
        cases granted
        refine ⟨rfl, fun key member => ?_⟩
        rw [Bool.eq_false_iff]
        intro same
        rw [Key.same_comm] at same
        exact free (List.any_eq_true.mpr ⟨key, member, same⟩)
  | none =>
      cases stem with
      | text stem =>
          have same := Except.ok.inj assigned
          rw [Prod.mk.injEq] at same
          obtain ⟨rfl, rfl⟩ := same
          exact generate_fresh registry stem
      | absent | flag _ | whole _ | real _ | list _ | record _ | array _ | message _ => cases assigned

end IdRegistry

/-! ### Tables -/

namespace Table

variable {β : Type}

theorem get?_cons (name key : Key) (value : β) (rest : Table β) :
    Table.get? ((name, value) :: rest) key
      = if name.same key = true then some value else rest.get? key := by
  rw [Table.get?, List.find?_cons]
  by_cases here : name.same key = true
  · simp only [here, if_true, Option.map_some]
  · simp only [here, if_false, Bool.false_eq_true]
    rfl

theorem get?_same {first second : Key} (same : first.same second = true) (table : Table β) :
    table.get? first = table.get? second := by
  have alike : ∀ key : Key, key.same first = key.same second := by
    intro key
    rw [Key.same, Key.same, Key.same_iff.mp same]
  simp only [Table.get?, alike]

theorem get?_put (name key : Key) (value : β) (table : Table β) :
    (Table.put name value table).get? key
      = if name.same key = true then some value else table.get? key := by
  induction table with
  | nil => exact get?_cons name key value []
  | cons head rest ih =>
      obtain ⟨other, old⟩ := head
      rw [Table.put]
      by_cases here : other.same name = true
      · rw [if_pos here, get?_cons, get?_cons]
        have equal : other.same key = name.same key := by
          rw [Key.same, Key.same, Key.same_iff.mp here]
        rw [equal]
        split
        · rfl
        · rfl
      · rw [if_neg here, get?_cons, get?_cons, ih]
        by_cases there : name.same key = true
        · have different : ¬ other.same key = true := by
            intro equal
            have transitive := (Key.same_iff.mp equal).trans (Key.same_iff.mp there).symm
            exact here (Key.same_iff.mpr transitive)
          rw [if_neg different, if_pos there, if_pos there]
        · rw [if_neg there, if_neg there]

theorem put_fresh {name : Key} (value : β) {table : Table β}
    (fresh : ∀ entry ∈ table, entry.1.same name = false) :
    Table.put name value table = table ++ [(name, value)] := by
  induction table with
  | nil => rfl
  | cons head rest ih =>
      obtain ⟨other, old⟩ := head
      have different : other.same name = false := fresh (other, old) List.mem_cons_self
      have later : ∀ entry ∈ rest, entry.1.same name = false :=
        fun entry member => fresh entry (List.mem_cons_of_mem _ member)
      rw [Table.put, different, ih later]
      rfl

/-- The keys of a table after an entry has been set: the key is new only if none was the same. -/
theorem mem_put {name key : Key} {value found : β} {table : Table β}
    (member : (key, found) ∈ Table.put name value table) :
    key = name ∨ ∃ old, (key, old) ∈ table := by
  induction table with
  | nil => exact Or.inl (congrArg Prod.fst (List.mem_singleton.mp member))
  | cons head rest ih =>
      obtain ⟨other, old⟩ := head
      rw [Table.put] at member
      split at member
      · rcases List.mem_cons.mp member with here | later
        · cases here
          exact Or.inr ⟨old, List.mem_cons_self⟩
        · exact Or.inr ⟨found, List.mem_cons_of_mem _ later⟩
      · rcases List.mem_cons.mp member with here | later
        · cases here
          exact Or.inr ⟨found, List.mem_cons_self⟩
        · rcases ih later with same | ⟨before, listed⟩
          · exact Or.inl same
          · exact Or.inr ⟨before, List.mem_cons_of_mem _ listed⟩

end Table

end SumProduct
