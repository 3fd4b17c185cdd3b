/-
Emitted programs, instruction by instruction.

The instruction of an entry is the one that its status asks for, and what it reads are the references of
the entry.  A program consists of the instructions of its entries and of those for the targets; the
slots that the latter read are those of the latest entries.
-/

import SumProduct.Program.Emission
import SumProduct.Proofs.Latest
import SumProduct.Proofs.Resolution

set_option autoImplicit false

namespace SumProduct

open Partial (bind_eq_ok mapM_eq_ok)

/-! ### References -/

theorem Reference.isAbsent_toValue {reference : Reference} {index : Int} {answer : Bool}
    (compared : reference.isBefore index = .ok answer) : reference.toValue.isAbsent = false := by
  cases reference with
  | entry place => rfl
  | given value =>
      cases value with
      | absent => cases compared
      | text _ | flag _ | whole _ | real _ | list _ | record _ | array _ | message _ => rfl

theorem Emission.checkedInbounds_inv {network : Network} {index : Nat} {entry : Entry}
    {slots : List Slot} (checked : Emission.checkedInbounds network index entry = .ok slots) :
    slots = entry.inbounds.map Reference.optionValue ∧
      ∀ reference, some reference ∈ entry.inbounds → reference.isBefore index = .ok true := by
  have pointwise : ∀ {found : Option Reference} {slot : Slot},
      Emission.checkedInbound network index entry found = .ok slot →
      slot = Reference.optionValue found ∧
        ∀ reference, found = some reference → reference.isBefore index = .ok true := by
    intro found slot passed
    cases found with
    | none =>
        cases passed
        exact ⟨rfl, fun _ impossible => nomatch impossible⟩
    | some reference =>
        obtain ⟨answer, compared, passed⟩ := bind_eq_ok.mp passed
        cases answer with
        | false => cases passed
        | true =>
            cases passed
            refine ⟨rfl, fun other same => ?_⟩
            cases same
            exact compared
  have each := mapM_eq_ok.mp checked
  constructor
  · have same : List.Forall₂ (fun found slot => Reference.optionValue found = slot)
        entry.inbounds slots := each.imp fun _ _ passed => (pointwise passed).1.symm
    exact (List.forall₂_eq_eq_eq ▸ List.forall₂_map_left_iff.mpr same).symm
  · intro reference member
    obtain ⟨slot, _, passed⟩ := Partial.exists_of_mem_left each member
    exact (pointwise passed).2 reference rfl

/-! ### Entries -/

namespace Emission

section Entries

variable {network : Network} {index : Nat} {entry : Entry}

theorem entryInstruction_leaf (status : entry.status = .leaf) :
    entryInstruction network index entry = leafInstruction network index entry := by
  cases entry
  cases status
  rw [entryInstruction]

theorem entryInstruction_composite (status : entry.status = .composite) :
    entryInstruction network index entry
      = innerBody network entry.inner >>= innerInstruction network index entry (entry.inner.getD []) := by
  cases entry
  cases status
  rw [entryInstruction]

theorem entryInstruction_rule {category : Category} (status : entry.status = category.status) :
    entryInstruction network index entry = ruleInstruction network index entry := by
  cases entry
  cases category with
  | exact =>
      cases status
      rw [entryInstruction] <;> simp
  | approximate =>
      cases status
      rw [entryInstruction] <;> simp

theorem ruleInstruction_inv {instruction : Instruction}
    (emitted : ruleInstruction network index entry = .ok instruction) :
    (∀ reference, some reference ∈ entry.inbounds → reference.isBefore index = .ok true) ∧
      instruction = .applyRule (.whole index) (entry.rule.getD .absent) entry.socket.node
        (entry.inbounds.map Reference.optionValue) entry.approximation := by
  obtain ⟨slots, checked, emitted⟩ := bind_eq_ok.mp emitted
  obtain ⟨rfl, before⟩ := checkedInbounds_inv checked
  exact ⟨before, (Except.ok.inj emitted).symm⟩

theorem innerInstruction_inv {inner : Schedule} {body : List Instruction} {instruction : Instruction}
    (emitted : innerInstruction network index entry inner body = .ok instruction) :
    (∀ reference, some reference ∈ entry.inbounds → reference.isBefore index = .ok true) ∧
      ∃ result, Resolver.resultIndex? network (network.node entry.socket.node) entry.socket.slot inner
          = some result ∧
        instruction = .invokeInner (.whole index) (network.node entry.socket.node).id body
          (.whole inner.length)
          (terminalFeeds network (network.node entry.socket.node) entry.socket.slot
            (entry.inbounds.map Reference.optionValue)) (.whole result) := by
  unfold innerInstruction at emitted
  simp only at emitted
  split at emitted
  · cases emitted
  · obtain ⟨slots, checked, emitted⟩ := bind_eq_ok.mp emitted
    obtain ⟨rfl, before⟩ := checkedInbounds_inv checked
    split at emitted
    · rename_i result located
      exact ⟨before, result, located, (Except.ok.inj emitted).symm⟩
    · cases emitted

end Entries

/-! ### Schedules -/

section Schedules

variable {network : Network} {schedule : Schedule} {targets : List VariableKey}

/-- The instructions of entries alone, the first of which has the given index. -/
def scheduleInstructions (network : Network) (first : Nat) :
    List Entry → Except Fault (List Instruction)
  | [] => .ok []
  | entry :: rest => do
    let instruction ← entryInstruction network first entry
    let others ← scheduleInstructions network (first + 1) rest
    return instruction :: others

/-- What is noted on the way makes no difference to the instructions, and tells the slots of all entries. -/
theorem emitEntries_eq (network : Network) (first : Nat) (noted : SocketIndex) (schedule : Schedule) :
    emitEntries network first noted schedule
      = (scheduleInstructions network first schedule).map fun body =>
          (body, noted.after first schedule) := by
  induction schedule generalizing first noted with
  | nil => rw [emitEntries, scheduleInstructions, Partial.map_ok, SocketIndex.after]
  | cons entry rest ih =>
      rw [emitEntries, scheduleInstructions, ih]
      cases entryInstruction network first entry with
      | error fault => rfl
      | ok instruction =>
          rw [Partial.ok_bind, Partial.ok_bind]
          cases scheduleInstructions network (first + 1) rest with
          | error fault => rfl
          | ok others => rfl

theorem innerBody_some (network : Network) (schedule : Schedule) :
    innerBody network (some schedule) = scheduleInstructions network 0 schedule := by
  rw [innerBody, emitEntries_eq]
  cases scheduleInstructions network 0 schedule with
  | error fault => rfl
  | ok body => rfl

theorem scheduleInstructions_length {first : Nat} {body : List Instruction}
    (emitted : scheduleInstructions network first schedule = .ok body) :
    body.length = schedule.length := by
  induction schedule generalizing first body with
  | nil =>
      cases emitted
      rfl
  | cons entry rest ih =>
      rw [scheduleInstructions] at emitted
      obtain ⟨instruction, _, emitted⟩ := bind_eq_ok.mp emitted
      obtain ⟨others, later, emitted⟩ := bind_eq_ok.mp emitted
      rw [← Except.ok.inj emitted, List.length_cons, List.length_cons, ih later]

/-- A program consists of the instructions of the entries and those for the targets, which are given the
slots of all entries. -/
theorem program_eq (network : Network) (schedule : Schedule) (targets : List VariableKey) :
    program network schedule targets = (do
      let body ← scheduleInstructions network 0 schedule
      let closing ← targets.mapM (marginalInstruction network schedule.slots)
      return { instructions := body ++ closing, messages := .whole schedule.length }) := by
  rw [program, emitEntries_eq]
  cases scheduleInstructions network 0 schedule with
  | error fault => rfl
  | ok body => rfl

theorem program_eq_ok {program : Program} :
    Emission.program network schedule targets = .ok program ↔
      ∃ body closing, scheduleInstructions network 0 schedule = .ok body ∧
        targets.mapM (marginalInstruction network schedule.slots) = .ok closing ∧
        program = { instructions := body ++ closing, messages := .whole schedule.length } := by
  rw [program_eq]
  constructor
  · intro emitted
    obtain ⟨body, within, emitted⟩ := bind_eq_ok.mp emitted
    obtain ⟨closing, after, emitted⟩ := bind_eq_ok.mp emitted
    exact ⟨body, closing, within, after, (Except.ok.inj emitted).symm⟩
  · rintro ⟨body, closing, within, after, rfl⟩
    exact bind_eq_ok.mpr ⟨body, within, bind_eq_ok.mpr ⟨closing, after, rfl⟩⟩

/-- The instruction for a target multiplies the messages in the slots of the two sockets of its first edge. -/
theorem marginalInstruction_inv {slots : SocketIndex} {target : VariableKey} {instruction : Instruction}
    (emitted : marginalInstruction network slots target = .ok instruction) :
    ∃ key others first second, (network.var target).edges = key :: others ∧
      slots.lookup (network.edge key).first = some first ∧
      slots.lookup (network.edge key).second = some second ∧
      instruction = .combineMarginal (network.var target).id (.whole first) (.whole second) := by
  unfold marginalInstruction at emitted
  simp only at emitted
  split at emitted
  · cases emitted
  · rename_i key others carried
    split at emitted
    · rename_i first second atFirst atSecond
      exact ⟨key, others, first, second, carried, atFirst, atSecond, (Except.ok.inj emitted).symm⟩
    · cases emitted

end Schedules

end Emission

end SumProduct
