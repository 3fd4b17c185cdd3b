/-
The layout of emitted programs.

Emission of a resolved schedule can fail only at a target whose marginal cannot be computed.  All other
checks of emission were made by resolution before, and what emission relies on inside a composite node was
checked when its inner schedule was given.  The program consists of one instruction for each entry, then
one for each target; programs inside composite nodes are laid out in the same way, without targets.
-/

import SumProduct.Proofs.Consistency
import SumProduct.Proofs.Runs

set_option autoImplicit false

namespace SumProduct

open Partial (bind_eq_ok map_eq_ok mapM_eq_ok)

/-- The slots of the messages that an entry uses: its inbound references that are there. -/
def Entry.reads (entry : Entry) : List Slot :=
  entry.inbounds.filterMap fun found => found.map Reference.toValue

/-- The slots that an instruction for an entry reads. -/
inductive Instruction.Reads : Instruction → List Slot → Prop
  | injectData {target : Slot} {buffer index : Value} : Reads (.injectData target buffer index) []
  | injectConstant {target : Slot} {value : Value} : Reads (.injectConstant target value) []
  | applyRule {target : Slot} {rule : Value} {node : NodeKey} {inbounds : List Slot}
      {approximation : Option Method} : Reads (.applyRule target rule node inbounds approximation)
        (inbounds.filter fun slot => !slot.isAbsent)
  | invokeInner {target : Slot} {node : Key} {body : List Instruction} {messages : Value}
      {terminals : List (Key × Slot)} {result : Slot} :
      Reads (.invokeInner target node body messages terminals result) (terminals.map Prod.snd)

/-- The instruction writes the slot of the entry and reads the slots that the entry refers to, all of
them slots of earlier entries. -/
structure Instruction.Serves (index : Nat) (entry : Entry) (instruction : Instruction) : Prop where
  target : instruction.target = .whole index
  reads : instruction.Reads entry.reads
  earlier : ∀ reference, some reference ∈ entry.inbounds →
    ∃ place : Nat, reference.index? = some (place : Int) ∧ place < index

namespace Emission

/-- The instruction for an entry with the given index. -/
inductive LaysOut (network : Network) : Nat → Entry → Instruction → Prop
  | terminal {index : Nat} {entry : Entry} (status : entry.status = .leaf)
      (terminal : (network.node entry.socket.node).isTerminal = true)
      (serves : Instruction.Serves index entry
        (.injectData (.whole index) (network.node entry.socket.node).id.toValue .absent)) :
      LaysOut network index entry
        (.injectData (.whole index) (network.node entry.socket.node).id.toValue .absent)
  | placeholder {index : Nat} {entry : Entry} {binding : Placeholder} (status : entry.status = .leaf)
      (constant : (network.node entry.socket.node).isConstant = true)
      (bound : network.placeholder? entry.socket.node = some binding)
      (serves : Instruction.Serves index entry
        (.injectData (.whole index) binding.buffer binding.index)) :
      LaysOut network index entry (.injectData (.whole index) binding.buffer binding.index)
  | constant {index : Nat} {entry : Entry} {value : Value} {message : Message}
      (status : entry.status = .leaf)
      (constant : (network.node entry.socket.node).role = .constant value)
      (unbound : network.placeholder? entry.socket.node = none)
      (converted : value.toMessage = .ok message)
      (serves : Instruction.Serves index entry (.injectConstant (.whole index) (.message message))) :
      LaysOut network index entry (.injectConstant (.whole index) (.message message))
  | rule {index : Nat} {entry : Entry} {rule : Value} {category : Category}
      (status : entry.status = category.status) (named : entry.rule = some rule)
      (serves : Instruction.Serves index entry (.applyRule (.whole index) rule entry.socket.node
        (entry.inbounds.map Reference.optionValue) entry.approximation)) :
      LaysOut network index entry (.applyRule (.whole index) rule entry.socket.node
        (entry.inbounds.map Reference.optionValue) entry.approximation)
  | inner {index result : Nat} {entry : Entry} {inner : Schedule} {body : List Instruction}
      {terminals : List (Key × Slot)} (status : entry.status = .composite)
      (held : entry.inner = some inner) (counted : body.length = inner.length)
      (each : ∀ place other instruction, inner[place]? = some other →
        body[place]? = some instruction → LaysOut network place other instruction)
      (located : Resolver.resultIndex? network (network.node entry.socket.node) entry.socket.slot inner
        = some result) (inside : result < inner.length)
      (serves : Instruction.Serves index entry (.invokeInner (.whole index)
        (network.node entry.socket.node).id body (.whole inner.length) terminals (.whole result))) :
      LaysOut network index entry (.invokeInner (.whole index) (network.node entry.socket.node).id body
        (.whole inner.length) terminals (.whole result))

/-- The marginal of the variable cannot be computed: no edge carries it, or the schedule does not compute
both messages on its first edge. -/
def isIncomplete (network : Network) (schedule : Schedule) (target : VariableKey) : Bool :=
  match (network.var target).edges with
  | [] => true
  | key :: _ => (schedule.indexOf (network.edge key).first).isNone ||
      (schedule.indexOf (network.edge key).second).isNone

/-- The instruction multiplies the messages on the first edge of the target. -/
def Combines (network : Network) (schedule : Schedule) (target : VariableKey)
    (instruction : Instruction) : Prop :=
  ∃ key others first second, (network.var target).edges = key :: others ∧
    schedule.indexOf (network.edge key).first = some first ∧
    schedule.indexOf (network.edge key).second = some second ∧
    instruction = .combineMarginal (network.var target).id (.whole first) (.whole second)

structure LaysOutAll (network : Network) (schedule : Schedule) (targets : List VariableKey)
    (program : Program) : Prop where
  messages : program.messages = .whole schedule.length
  counted : program.instructions.length = schedule.length + targets.length
  entries : ∀ index entry instruction, schedule[index]? = some entry →
    program.instructions[index]? = some instruction → LaysOut network index entry instruction
  marginals : ∀ place target instruction, targets[place]? = some target →
    program.instructions[schedule.length + place]? = some instruction →
      Combines network schedule target instruction

/-- What emission needs of an entry beyond its resolution: it is about an interface of a node, and a
constant that is not fed from a buffer holds a value that is a message. -/
structure IsEmittable (network : Network) (entry : Entry) : Prop where
  socket : network.IsSocket entry.socket
  convertible : ∀ value, (network.node entry.socket.node).role = .constant value →
    network.placeholder? entry.socket.node = none → ∃ message, value.toMessage = .ok message

end Emission

/-! ### References -/

section References

variable {network : Network} {socket : Socket} {entry : Entry} {index : Nat}

theorem Network.otherSockets_length (there : network.IsSocket socket) :
    (network.otherSockets socket).length + 1 = (network.node socket.node).interfaces.length := by
  have listed : socket ∈ network.sockets socket.node := by
    rw [Network.sockets, List.mem_map]
    exact ⟨socket.slot, List.mem_range.mpr there, rfl⟩
  have different : (network.sockets socket.node).Nodup := by
    rw [Network.sockets, List.Nodup, List.pairwise_map]
    exact List.nodup_range.imp fun apart same => apart (congrArg Socket.slot same)
  have erased : network.otherSockets socket = (network.sockets socket.node).erase socket := by
    rw [Network.otherSockets, different.erase_eq_filter]
    apply List.filter_congr
    intro other _
    exact Bool.eq_iff_iff.mpr (by rw [decide_eq_true_eq, bne_iff_ne])
  have positive := List.length_pos_of_mem listed
  rw [erased, List.length_erase_of_mem listed, Nat.sub_add_cancel positive, Network.sockets,
    List.length_map, List.length_range]

/-- An entry that was accepted has one inbound reference, or nothing in its place, for each other
interface of its node. -/
theorem Resolver.arrivingTypes_count {resolver : Resolver} {known : Int → Option Entry} {position : Int}
    {arriving : List (Option Pattern)} (there : resolver.network.IsSocket entry.socket)
    (arrives : resolver.arrivingTypes entry position known = .ok arriving) :
    entry.inbounds.length + 1 = (resolver.network.node entry.socket.node).interfaces.length := by
  unfold Resolver.arrivingTypes at arrives
  simp only at arrives
  split at arrives
  · cases arrives
  · rename_i counted
    rw [not_not.mp counted]
    exact Network.otherSockets_length there

theorem Resolver.EntryResolved.earlier {resolver : Resolver} {leafTypes : LeafTypes} {done : Schedule}
    (certified : resolver.EntryResolved leafTypes done entry) {reference : Reference}
    (member : some reference ∈ entry.inbounds) :
    ∃ place : Nat, reference.index? = some (place : Int) ∧ place < done.length := by
  obtain ⟨arriving, arrives⟩ := certified.arrives
  obtain ⟨type, _, found⟩ := Partial.exists_of_mem_left (arrivingTypes_inv arrives) member
  obtain ⟨_, position, other, known, placed, _⟩ := found
  unfold Schedule.entry? at placed
  split at placed
  · rename_i nonnegative
    refine ⟨position.toNat, ?_, (List.getElem?_eq_some_iff.mp placed).1⟩
    rw [known, Int.toNat_of_nonneg nonnegative]
  · cases placed

theorem Emission.checkedInbounds_ok
    (before : ∀ reference, some reference ∈ entry.inbounds → reference.isBefore index = .ok true) :
    Emission.checkedInbounds network index entry
      = .ok (entry.inbounds.map Reference.optionValue) := by
  rw [Emission.checkedInbounds, mapM_eq_ok, List.forall₂_map_right_iff, List.forall₂_same]
  intro found member
  cases found with
  | none => rfl
  | some reference =>
      rw [Emission.checkedInbound, before reference member]
      rfl

/-- Slots that hold nothing are not read. -/
theorem Entry.present_slots
    (before : ∀ reference, some reference ∈ entry.inbounds → reference.isBefore index = .ok true) :
    (entry.inbounds.map Reference.optionValue).filter (fun slot => !slot.isAbsent) = entry.reads := by
  have general : ∀ inbounds : List (Option Reference),
      (∀ reference, some reference ∈ inbounds → reference.isBefore index = .ok true) →
      (inbounds.map Reference.optionValue).filter (fun slot => !slot.isAbsent)
        = inbounds.filterMap fun found => found.map Reference.toValue := by
    intro inbounds
    induction inbounds with
    | nil => exact fun _ => rfl
    | cons found rest ih =>
        intro earlier
        have later := ih fun reference member => earlier reference (List.mem_cons_of_mem _ member)
        cases found with
        | none => exact later
        | some reference =>
            have there := Reference.isAbsent_toValue (earlier reference List.mem_cons_self)
            simp [Reference.optionValue, there, later]
  exact general entry.inbounds before

/-- Where there is a terminal for every slot, the feeds read all slots that hold something. -/
theorem Emission.feeds_slots (network : Network) {terminals : List NodeKey} {slots : List Slot}
    (counted : slots.length = terminals.length) :
    (((terminals.zip slots).filter fun pair => !pair.2.isAbsent).map fun pair =>
        ((network.node pair.1).id, pair.2)).map Prod.snd
      = slots.filter fun slot => !slot.isAbsent := by
  rw [List.map_map]
  have projected : (Prod.snd ∘ fun pair : NodeKey × Slot => ((network.node pair.1).id, pair.2))
      = Prod.snd := rfl
  have separate : (fun pair : NodeKey × Slot => !pair.2.isAbsent)
      = (fun slot : Slot => !slot.isAbsent) ∘ Prod.snd := rfl
  rw [projected, separate, ← List.filter_map, List.map_snd_zip (Nat.le_of_eq counted)]

end References

theorem Node.composite_of_scheduled {node : Node} {slot : Nat}
    (scheduled : (node.innerSchedule? slot).isSome = true) :
    ∃ inner terminals schedules, node.role = .composite inner terminals schedules := by
  unfold Node.innerSchedule? at scheduled
  split at scheduled
  · rename_i inner terminals schedules role
    exact ⟨inner, terminals, schedules, role⟩
  · cases scheduled

/-! ### Entries -/

namespace Emission

section Entries

variable {resolver : Resolver} {leafTypes : LeafTypes} {done : Schedule} {entry : Entry}
  {arriving : List (Option Pattern)}

theorem laysOut_leaf (sound : resolver.network.Sound)
    (certified : resolver.EntryResolved leafTypes done entry)
    (outward : (resolver.network.node entry.socket.node).isLeaf = true) (status : entry.status = .leaf)
    (emittable : IsEmittable resolver.network entry) :
    ∃ instruction, entryInstruction resolver.network done.length entry = .ok instruction ∧
      LaysOut resolver.network done.length entry instruction := by
  obtain ⟨arriving, arrives⟩ := certified.arrives
  have fits := sound.fitting _ emittable.socket.node_lt
  have single : (resolver.network.node entry.socket.node).interfaces.length = 1 := by
    unfold Node.isLeaf at outward
    split at outward
    · rename_i role
      rw [role] at fits
      exact fits
    · rename_i role
      rw [role] at fits
      exact fits
    · cases outward
  have counted := Resolver.arrivingTypes_count emittable.socket arrives
  have none : entry.inbounds = [] := List.eq_nil_of_length_eq_zero (by omega)
  have reads : entry.reads = [] := by
    rw [Entry.reads, none]
    rfl
  have serves : ∀ {instruction : Instruction}, instruction.target = .whole done.length →
      instruction.Reads [] → instruction.Serves done.length entry := by
    intro instruction target reading
    exact ⟨target, reads ▸ reading, fun reference member => certified.earlier member⟩
  rw [entryInstruction_leaf status, leafInstruction]
  by_cases terminal : (resolver.network.node entry.socket.node).isTerminal = true
  · refine ⟨_, if_pos terminal, .terminal status terminal (serves rfl .injectData)⟩
  · simp only [if_neg terminal]
    have constant : ∃ value, (resolver.network.node entry.socket.node).role = .constant value := by
      unfold Node.isLeaf at outward
      unfold Node.isTerminal at terminal
      split at outward
      · rename_i value role
        exact ⟨value, role⟩
      · rename_i role
        rw [role] at terminal
        exact absurd rfl terminal
      · cases outward
    obtain ⟨value, role⟩ := constant
    cases bound : resolver.network.placeholder? entry.socket.node with
    | some binding =>
        have isConstant : (resolver.network.node entry.socket.node).isConstant = true := by
          rw [Node.isConstant, role]
        exact ⟨_, rfl, .placeholder status isConstant bound (serves rfl .injectData)⟩
    | none =>
        obtain ⟨message, converted⟩ := emittable.convertible value role bound
        refine ⟨.injectConstant (.whole done.length) (.message message), ?_,
          .constant status role bound converted (serves rfl .injectConstant)⟩
        rw [Node.held, role]
        simp only [Partial.ok_bind, converted]
        rfl

theorem entryInstruction_rule_ok {network : Network} {index : Nat} {category : Category}
    (status : entry.status = category.status)
    (before : ∀ reference, some reference ∈ entry.inbounds → reference.isBefore index = .ok true) :
    entryInstruction network index entry
      = .ok (.applyRule (.whole index) (entry.rule.getD .absent) entry.socket.node
          (entry.inbounds.map Reference.optionValue) entry.approximation) := by
  rw [entryInstruction_rule status, ruleInstruction, checkedInbounds_ok before]
  rfl

theorem entryInstruction_composite_ok {network : Network} {index result : Nat} {inner : Schedule}
    {body : List Instruction}
    (scheduled : ((network.node entry.socket.node).innerSchedule? entry.socket.slot).isSome = true)
    (status : entry.status = .composite) (held : entry.inner = some inner)
    (emitted : scheduleInstructions network 0 inner = .ok body)
    (located : Resolver.resultIndex? network (network.node entry.socket.node) entry.socket.slot inner
      = some result)
    (before : ∀ reference, some reference ∈ entry.inbounds → reference.isBefore index = .ok true) :
    entryInstruction network index entry
      = .ok (.invokeInner (.whole index) (network.node entry.socket.node).id body
          (.whole inner.length) (terminalFeeds network (network.node entry.socket.node)
            entry.socket.slot (entry.inbounds.map Reference.optionValue)) (.whole result)) := by
  obtain ⟨owned, terminals, schedules, role⟩ := Node.composite_of_scheduled scheduled
  have composite : (network.node entry.socket.node).isComposite = true := by
    rw [Node.isComposite, role]
  rw [entryInstruction_composite status, held, innerBody_some, emitted, Partial.ok_bind, innerInstruction]
  simp only [composite, Bool.not_true, Bool.false_eq_true, if_false, checkedInbounds_ok before,
    Option.getD_some, located]
  rfl

theorem laysOut_rule {candidate : Candidate} {type : MessageType} {category : Category}
    (certified : resolver.EntryResolved leafTypes done entry)
    (chosen : resolver.RuleChosen done entry arriving candidate type category) :
    ∃ instruction, entryInstruction resolver.network done.length entry = .ok instruction ∧
      LaysOut resolver.network done.length entry instruction := by
  have before : ∀ reference, some reference ∈ entry.inbounds →
      reference.isBefore done.length = .ok true := fun reference => certified.isBefore
  refine ⟨_, ?_, .rule chosen.status chosen.rule ⟨rfl, ?_, fun reference => certified.earlier⟩⟩
  · rw [entryInstruction_rule_ok chosen.status before, chosen.rule]
    rfl
  · rw [← Entry.present_slots before]
    exact .applyRule

/-- Where every entry has an instruction, the schedule has its instructions. -/
theorem scheduleInstructions_ok {network : Network} {schedule : Schedule} {first : Nat}
    (each : ∀ place entry, schedule[place]? = some entry →
      ∃ instruction, entryInstruction network (first + place) entry = .ok instruction) :
    ∃ body, scheduleInstructions network first schedule = .ok body := by
  induction schedule generalizing first with
  | nil => exact ⟨[], rfl⟩
  | cons entry rest ih =>
      obtain ⟨instruction, here⟩ := each 0 entry rfl
      have onwards : ∀ place other, rest[place]? = some other →
          ∃ instruction, entryInstruction network (first + 1 + place) other = .ok instruction := by
        intro place other placed
        have later := each (place + 1) other placed
        rw [Nat.add_comm place 1, ← Nat.add_assoc] at later
        exact later
      obtain ⟨others, later⟩ := ih onwards
      refine ⟨instruction :: others, ?_⟩
      rw [Nat.add_zero] at here
      rw [scheduleInstructions, here, later]
      rfl

theorem laysOut_schedule {network : Network} {schedule : Schedule}
    (each : ∀ place entry, schedule[place]? = some entry →
      ∃ instruction, entryInstruction network place entry = .ok instruction ∧
        LaysOut network place entry instruction) :
    ∃ body, scheduleInstructions network 0 schedule = .ok body ∧ body.length = schedule.length ∧
      ∀ place entry instruction, schedule[place]? = some entry → body[place]? = some instruction →
        LaysOut network place entry instruction := by
  have emitting : ∀ place entry, schedule[place]? = some entry →
      ∃ instruction, entryInstruction network (0 + place) entry = .ok instruction := by
    intro place entry placed
    obtain ⟨instruction, here, _⟩ := each place entry placed
    rw [Nat.zero_add]
    exact ⟨instruction, here⟩
  obtain ⟨body, emitted⟩ := scheduleInstructions_ok emitting
  refine ⟨body, emitted, scheduleInstructions_length emitted, ?_⟩
  intro place entry instruction placed found
  obtain ⟨other, here, laid⟩ := each place entry placed
  have same := scheduleInstructions_getElem emitted placed found
  rw [Nat.zero_add, here] at same
  cases same
  exact laid

theorem laysOut_inner {inner : Schedule} {result : Nat} (sound : resolver.network.Sound)
    (certified : resolver.EntryResolved leafTypes done entry)
    (scheduled : ((resolver.network.node entry.socket.node).innerSchedule?
      entry.socket.slot).isSome = true)
    (status : entry.status = .composite) (held : entry.inner = some inner)
    (last : Resolver.resultIndex? resolver.network (resolver.network.node entry.socket.node)
      entry.socket.slot inner = some result) (inside : result < inner.length)
    (emittable : IsEmittable resolver.network entry)
    (each : ∀ place other, inner[place]? = some other →
      ∃ instruction, entryInstruction resolver.network place other = .ok instruction ∧
        LaysOut resolver.network place other instruction) :
    ∃ instruction, entryInstruction resolver.network done.length entry = .ok instruction ∧
      LaysOut resolver.network done.length entry instruction := by
  obtain ⟨arriving, arrives⟩ := certified.arrives
  have before : ∀ reference, some reference ∈ entry.inbounds →
      reference.isBefore done.length = .ok true := fun reference => certified.isBefore
  obtain ⟨body, emitted, counted, within⟩ := laysOut_schedule each
  obtain ⟨owned, terminals, schedules, role⟩ := Node.composite_of_scheduled scheduled
  have listed : (resolver.network.node entry.socket.node).terminals = terminals := by
    rw [Node.terminals, role]
  have fits := sound.fitting _ emittable.socket.node_lt
  rw [role] at fits
  -- There is a terminal for every inbound reference, so none is lost on the way inside.
  have every : (entry.inbounds.map Reference.optionValue).length
      = ((resolver.network.node entry.socket.node).terminals.eraseIdx entry.socket.slot).length := by
    have slot : entry.socket.slot < terminals.length := fits.1 ▸ emittable.socket
    have references := Resolver.arrivingTypes_count emittable.socket arrives
    rw [List.length_map, listed, List.length_eraseIdx_of_lt slot, ← fits.1]
    omega
  refine ⟨_, entryInstruction_composite_ok scheduled status held emitted last before,
    .inner status held counted within last inside ⟨rfl, ?_, fun reference => certified.earlier⟩⟩
  · rw [← Entry.present_slots before, ← feeds_slots resolver.network every]
    exact .invokeInner

/-- A resolved entry has an instruction, which is laid out as it should be.  The induction is on the
reason for which the entry was accepted, so it goes through all inner schedules. -/
theorem laysOut_of_resolved (sound : resolver.network.Sound)
    (certified : resolver.EntryResolved leafTypes done entry)
    (emittable : IsEmittable resolver.network entry)
    (within : ∀ path found, entry.within.entryAlong path = some found →
      IsEmittable resolver.network found) :
    ∃ instruction, entryInstruction resolver.network done.length entry = .ok instruction ∧
      LaysOut resolver.network done.length entry instruction := by
  induction certified with
  | leaf outward arrives status supplied =>
      exact laysOut_leaf sound (.leaf outward arrives status supplied) outward status emittable
  | @composite leafTypes done entry arriving inner result index inward scheduled arrives status held
      resolved last computed outbound ih =>
      have inside : index < inner.length := (List.getElem?_eq_some_iff.mp computed).1
      have certified : resolver.EntryResolved leafTypes done entry :=
        .composite inward scheduled arrives status held resolved last computed outbound
      refine laysOut_inner sound certified scheduled status held last inside emittable ?_
      intro place other placed
      have same : entry.within = inner := by
        rw [Entry.within, if_pos status, held]
        rfl
      rw [same] at within
      have counted : (inner.take place).length = place := by
        have bound := (List.getElem?_eq_some_iff.mp placed).1
        rw [List.length_take]
        omega
      have laid := ih place other placed (within [place] other placed) ?_
      · rw [counted] at laid
        exact laid
      · intro path found along
        exact within (place :: path) found (Schedule.entryAlong_within placed along)
  | @rule leafTypes _ _ _ _ _ _ inward plain chosen =>
      have certified : resolver.EntryResolved leafTypes _ _ := .rule inward plain chosen
      exact laysOut_rule certified chosen

end Entries

/-! ### Targets -/

section Targets

variable {network : Network} {schedule : Schedule} {slots : SocketIndex} {target : VariableKey}

theorem marginalInstruction_complete (indexes : slots.Indexes schedule)
    (complete : isIncomplete network schedule target = false) :
    ∃ instruction, marginalInstruction network slots target = .ok instruction ∧
      Combines network schedule target instruction := by
  unfold isIncomplete at complete
  unfold marginalInstruction Combines
  cases edges : (network.var target).edges with
  | nil =>
      rw [edges] at complete
      cases complete
  | cons key others =>
      rw [edges, Bool.or_eq_false_iff] at complete
      obtain ⟨hasFirst, hasSecond⟩ := complete
      obtain ⟨first, atFirst⟩ := Option.isSome_iff_exists.mp (Option.isNone_eq_false_iff.mp hasFirst)
      obtain ⟨second, atSecond⟩ := Option.isSome_iff_exists.mp (Option.isNone_eq_false_iff.mp hasSecond)
      refine ⟨.combineMarginal (network.var target).id (.whole first) (.whole second), ?_,
        key, others, first, second, rfl, atFirst, atSecond, rfl⟩
      simp only [edges, indexes (network.edge key).first, indexes (network.edge key).second, atFirst,
        atSecond]

theorem marginalInstruction_incomplete (indexes : slots.Indexes schedule)
    (incomplete : isIncomplete network schedule target = true) :
    ∃ cause, marginalInstruction network slots target = .error (.ofCause cause) ∧
      cause.family = .incompleteSchedule ∧ cause.target? = some (network.var target).id := by
  unfold isIncomplete at incomplete
  unfold marginalInstruction
  cases edges : (network.var target).edges with
  | nil => exact ⟨.uncarriedVariable (network.var target).id, by simp only [edges], rfl, rfl⟩
  | cons key others =>
      rw [edges] at incomplete
      simp only [edges]
      split
      · rename_i first second atFirst atSecond
        rw [indexes] at atFirst atSecond
        simp only [atFirst, atSecond, Option.isNone_some, Bool.or_self, Bool.false_eq_true] at incomplete
      · exact ⟨_, rfl, rfl, rfl⟩

/-- Either all targets are complete and have their instructions, or the first that is not is the reason
of a failure. -/
theorem marginals_cases (network : Network) (indexes : slots.Indexes schedule)
    (targets : List VariableKey) :
    (∃ marginals, targets.mapM (marginalInstruction network slots) = .ok marginals ∧
      List.Forall₂ (Combines network schedule) targets marginals ∧
      ∀ target ∈ targets, isIncomplete network schedule target = false) ∨
    ∃ target cause, targets.find? (isIncomplete network schedule) = some target ∧
      targets.mapM (marginalInstruction network slots) = .error (.ofCause cause) ∧
      cause.family = .incompleteSchedule ∧ cause.target? = some (network.var target).id := by
  induction targets with
  | nil => exact Or.inl ⟨[], rfl, .nil, fun _ impossible => nomatch impossible⟩
  | cons first rest ih =>
      rw [List.mapM_cons]
      cases incomplete : isIncomplete network schedule first with
      | true =>
          obtain ⟨cause, failed, family, named⟩ := marginalInstruction_incomplete indexes incomplete
          refine Or.inr ⟨first, cause, ?_, ?_, family, named⟩
          · rw [List.find?_cons, incomplete]
          · rw [failed]
            rfl
      | false =>
          obtain ⟨instruction, emitted, combines⟩ := marginalInstruction_complete indexes incomplete
          rw [emitted, Partial.ok_bind]
          rcases ih with ⟨marginals, later, combine, complete⟩ | ⟨target, cause, found, failed, named⟩
          · refine Or.inl ⟨instruction :: marginals, ?_, .cons combines combine, ?_⟩
            · rw [later]
              rfl
            · intro target member
              rcases List.mem_cons.mp member with rfl | other
              · exact incomplete
              · exact complete target other
          · refine Or.inr ⟨target, cause, ?_, ?_, named⟩
            · rw [List.find?_cons, incomplete]
              exact found
            · rw [failed]
              rfl

end Targets

/-! ### Programs -/

/-- Emission of a resolved schedule fails exactly if some target is incomplete, and then names the first
one; otherwise the program is laid out as it should be. -/
theorem program_of_resolved {network : Network} {catalog : Catalog} {depth : Nat}
    {leafTypes : LeafTypes} {schedule resolved : Schedule} (reachable : network.Reachable)
    (accepted : Resolver.resolveAtDepth ⟨network, catalog⟩ depth leafTypes schedule = .ok resolved)
    (emittable : ∀ path entry, resolved.entryAlong path = some entry → IsEmittable network entry)
    (targets : List VariableKey) :
    ((∃ fault, program network resolved targets = .error fault) ↔
      ∃ target ∈ targets, isIncomplete network resolved target = true) ∧
    (∀ fault, program network resolved targets = .error fault →
      ∃ target cause, fault = .ofCause cause ∧ cause.family = .incompleteSchedule ∧
        cause.target? = some (network.var target).id ∧
        targets.find? (isIncomplete network resolved) = some target) ∧
    ∀ emitted, program network resolved targets = .ok emitted →
      LaysOutAll network resolved targets emitted := by
  have certified := Resolver.resolveAtDepth_resolved accepted
  have each : ∀ place entry, resolved[place]? = some entry →
      ∃ instruction, entryInstruction network place entry = .ok instruction ∧
        LaysOut network place entry instruction := by
    intro place entry placed
    have laid := laysOut_of_resolved reachable.sound (certified place entry placed)
      (emittable [place] entry placed)
      fun path found along => emittable (place :: path) found (Schedule.entryAlong_within placed along)
    have counted : (resolved.take place).length = place := by
      have bound := (List.getElem?_eq_some_iff.mp placed).1
      rw [List.length_take]
      omega
    rw [counted] at laid
    exact laid
  obtain ⟨body, within, counted, laid⟩ := laysOut_schedule each
  have opened : program network resolved targets
      = targets.mapM (marginalInstruction network resolved.slots) >>= fun marginals =>
        .ok { instructions := body ++ marginals, messages := .whole resolved.length } := by
    rw [program_eq, within]
    rfl
  rw [opened]
  rcases marginals_cases network resolved.slots_indexes targets with
    ⟨marginals, emitted, combine, complete⟩ | ⟨target, cause, found, failed, family, named⟩
  · rw [emitted, Partial.ok_bind]
    refine ⟨⟨?_, ?_⟩, ?_, ?_⟩
    · rintro ⟨fault, impossible⟩
      cases impossible
    · rintro ⟨target, member, incomplete⟩
      rw [complete target member] at incomplete
      cases incomplete
    · intro fault impossible
      cases impossible
    · rintro program ⟨⟩
      have lengths := combine.length_eq
      refine ⟨rfl, ?_, ?_, ?_⟩
      · rw [List.length_append, counted, lengths]
      · intro index entry instruction placed found
        have bound := (List.getElem?_eq_some_iff.mp placed).1
        rw [List.getElem?_append_left (counted ▸ bound)] at found
        exact laid index entry instruction placed found
      · intro place target instruction placed found
        rw [← counted, List.getElem?_append_right (Nat.le_add_right _ _), Nat.add_sub_cancel_left] at found
        obtain ⟨atTarget, rfl⟩ := List.getElem?_eq_some_iff.mp placed
        obtain ⟨atInstruction, rfl⟩ := List.getElem?_eq_some_iff.mp found
        exact combine.get atTarget atInstruction
  · rw [failed]
    refine ⟨⟨fun _ => ?_, fun _ => ⟨_, rfl⟩⟩, ?_, ?_⟩
    · exact ⟨target, List.mem_of_find?_eq_some found, List.find?_some found⟩
    · rintro fault ⟨⟩
      exact ⟨target, cause, rfl, family, named, found⟩
    · intro program impossible
      cases impossible

/-! The relay of the wired network: the constant `c`, the box, and the constant `d`, which is fed from a
buffer.  The message from the box toward `c` is never computed. -/

def relaySchedule : Schedule :=
  [{ socket := ⟨3, 0⟩ }, { socket := ⟨2, 0⟩, inbounds := [some (.entry 0)] }, { socket := ⟨4, 0⟩ }]

def relayResolved : Schedule :=
  [{ socket := ⟨3, 0⟩, outbound := some (.typed .pointMass), status := .leaf },
   { socket := ⟨2, 0⟩, inbounds := [some (.entry 0)], outbound := some (.typed .pointMass),
     rule := some (.text "CompositeNode.a"), status := .composite,
     inner := some [{ socket := ⟨1, 0⟩, outbound := some (.typed .pointMass), status := .leaf }] },
   { socket := ⟨4, 0⟩, outbound := some (.typed .pointMass), status := .leaf }]

set_option maxRecDepth 100000 in
theorem relay_accepted :
    Resolver.resolveAtDepth ⟨Network.wired, {}⟩ 2 [] relaySchedule = .ok relayResolved := (rfl)

set_option maxRecDepth 100000 in
theorem relay_roles : (Network.wired.node 3).role = .constant (.real 2.0) ∧
    (Network.wired.node 4).role = .constant (.real 3.0) ∧
    (Network.wired.node 1).isConstant = false ∧ (Network.wired.node 2).isConstant = false :=
  ⟨rfl, rfl, rfl, rfl⟩

theorem relay_emittable (path : List Nat) (entry : Entry)
    (along : relayResolved.entryAlong path = some entry) : IsEmittable Network.wired entry := by
  obtain ⟨atC, atD, inside, atBox⟩ := relay_roles
  have nowhere : ∀ path found, Schedule.entryAlong [] path = some found →
      IsEmittable Network.wired found := by
    intro path found impossible
    rw [Schedule.entryAlong_nil] at impossible
    cases impossible
  have holds : ∀ {node : NodeKey} {number : Float},
      (Network.wired.node node).role = .constant (.real number) →
      ∀ value, (Network.wired.node node).role = .constant value →
        Network.wired.placeholder? node = none → ∃ message, value.toMessage = .ok message := by
    intro node number role value held _
    cases role.symm.trans held
    exact ⟨.pointMass (.scalar number), rfl⟩
  have holdsNone : ∀ {node : NodeKey}, (Network.wired.node node).isConstant = false →
      ∀ value, (Network.wired.node node).role = .constant value →
        Network.wired.placeholder? node = none → ∃ message, value.toMessage = .ok message := by
    intro node other value held _
    rw [Node.isConstant, held] at other
    cases other
  refine Schedule.entryAlong_all ?_ along
  intro entry member
  simp only [relayResolved, List.mem_cons, List.not_mem_nil, or_false] at member
  rcases member with rfl | rfl | rfl
  · exact ⟨⟨show (_ : Nat) < _ by decide +kernel, holds atC⟩, nowhere⟩
  · refine ⟨⟨show (_ : Nat) < _ by decide +kernel, holdsNone atBox⟩, fun path found => Schedule.entryAlong_all ?_⟩
    intro entry member
    simp only [Entry.within, if_true, Option.getD_some, List.mem_cons, List.not_mem_nil,
      or_false] at member
    rcases member with rfl
    exact ⟨⟨show (_ : Nat) < _ by decide +kernel, holdsNone inside⟩, nowhere⟩
  · exact ⟨⟨show (_ : Nat) < _ by decide +kernel, holds atD⟩, nowhere⟩

/-- With the variable between the box and `d` as the only target the program is complete; the variable
between the box and `c` is the first that has no marginal. -/
theorem program_of_resolved_relay :
    Resolver.resolveAtDepth ⟨Network.wired, {}⟩ 2 [] relaySchedule = .ok relayResolved ∧
    (∃ emitted, program Network.wired relayResolved [2] = .ok emitted ∧
      LaysOutAll Network.wired relayResolved [2] emitted) ∧
    ∃ fault cause, program Network.wired relayResolved [2, 1] = .error fault ∧ fault = .ofCause cause ∧
      cause.family = .incompleteSchedule ∧ cause.target? = some "v" := by
  refine ⟨relay_accepted, ?_, ?_⟩
  · obtain ⟨fails, _, laid⟩ :=
      program_of_resolved Network.wired_reachable relay_accepted relay_emittable [2]
    cases emitted : program Network.wired relayResolved [2] with
    | ok program => exact ⟨program, rfl, laid program emitted⟩
    | error fault =>
        obtain ⟨target, member, incomplete⟩ := fails.mp ⟨fault, emitted⟩
        rw [List.mem_singleton.mp member] at incomplete
        exact absurd incomplete (by decide +kernel)
  · obtain ⟨fails, named, _⟩ :=
      program_of_resolved Network.wired_reachable relay_accepted relay_emittable [2, 1]
    obtain ⟨fault, failed⟩ := fails.mpr ⟨1, by decide, by decide +kernel⟩
    obtain ⟨target, cause, same, family, id, first⟩ := named fault failed
    have second : [2, 1].find? (isIncomplete Network.wired relayResolved) = some 1 := by decide +kernel
    cases first.symm.trans second
    refine ⟨fault, cause, failed, same, family, id.trans ?_⟩
    decide +kernel

end Emission

end SumProduct
