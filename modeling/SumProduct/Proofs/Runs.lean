/-
The moments of a run.

A moment is the state of the machine before one of its instructions, in the program that is run or in
an inner one.  Its path lists the places of the instructions that lead to it: those of the inner programs
that are being run, from the outside in, and its own.  In a schedule the same path leads to an entry.
-/

import SumProduct.Proofs.Compilation

set_option autoImplicit false

namespace SumProduct

open Partial (bind_eq_ok)

/-- The state before an instruction is run. -/
structure Moment where
  data : Buffers
  store : MessageStore
  marginals : Marginals
  instruction : Instruction

namespace Machine

/-- The moments of running instructions, the first of which stands at the given place. -/
inductive Reaches (machine : Machine) :
    Buffers → MessageStore → Marginals → Nat → List Instruction → List Nat → Moment → Prop
  | now {data : Buffers} {store : MessageStore} {marginals : Marginals} {place : Nat}
      {instruction : Instruction} {rest : List Instruction} :
      Reaches machine data store marginals place (instruction :: rest) [place]
        ⟨data, store, marginals, instruction⟩
  | next {data : Buffers} {store updated : MessageStore} {marginals after : Marginals} {place : Nat}
      {instruction : Instruction} {rest : List Instruction} {path : List Nat} {moment : Moment}
      (stepped : step machine data store marginals instruction = ⟨after, .ok updated⟩)
      (later : Reaches machine data updated after (place + 1) rest path moment) :
      Reaches machine data store marginals place (instruction :: rest) path moment
  | inside {data inner : Buffers} {store fresh : MessageStore} {marginals : Marginals} {place : Nat}
      {target : Slot} {node : Key} {body : List Instruction} {messages : Value}
      {terminals : List (Key × Slot)} {result : Slot} {rest : List Instruction} {path : List Nat}
      {moment : Moment}
      (entered : enter store data terminals messages body = .ok (inner, fresh))
      (within : Reaches machine inner fresh marginals 0 body path moment) :
      Reaches machine data store marginals place
        (.invokeInner target node body messages terminals result :: rest) (place :: path) moment
  | insideWritten {data inner : Buffers} {store fresh : MessageStore} {marginals : Marginals}
      {place : Nat} {form : Form} {body : List Instruction} {messages : Value}
      {rest : List Instruction} {path : List Nat} {moment : Moment}
      (operation : form.operation = .invokeInner)
      (entered : enterForm store data form messages body = .ok (fresh, inner))
      (within : Reaches machine inner fresh marginals 0 body path moment) :
      Reaches machine data store marginals place (.written form body messages :: rest)
        (place :: path) moment

/-- The moments of running a program on a fresh store. -/
def Reached (machine : Machine) (program : Program) (data : Buffers) (prior : Marginals)
    (path : List Nat) (moment : Moment) : Prop :=
  ∃ store, MessageStore.forBody program.messages program.instructions = .ok store ∧
    machine.Reaches data store prior 0 program.instructions path moment

def outcomeAt (machine : Machine) (moment : Moment) : Outcome :=
  step machine moment.data moment.store moment.marginals moment.instruction

/-- The instruction of the moment succeeds, and leaves the value in its slot. -/
def StoresAt (machine : Machine) (moment : Moment) (value : Value) : Prop :=
  ∃ updated, (machine.outcomeAt moment).store = .ok updated ∧
    MessageStore.get updated moment.instruction.target = .ok value

section Reaches

variable {machine : Machine} {data : Buffers} {store : MessageStore} {marginals : Marginals}
  {place last : Nat} {instructions : List Instruction} {path : List Nat} {moment : Moment}

theorem Reaches.path_ne_nil
    (reached : machine.Reaches data store marginals place instructions path moment) : path ≠ [] := by
  induction reached with
  | now => exact List.cons_ne_nil _ _
  | next _ _ ih => exact ih
  | inside _ _ _ => exact List.cons_ne_nil _ _
  | insideWritten _ _ _ _ => exact List.cons_ne_nil _ _

theorem Reaches.outermost
    (reached : machine.Reaches data store marginals place instructions path moment)
    (single : path = [last]) :
    place ≤ last ∧ instructions[last - place]? = some moment.instruction ∧ moment.data = data := by
  induction reached with
  | now =>
      cases single
      rw [Nat.sub_self]
      exact ⟨Nat.le_refl _, rfl, rfl⟩
  | @next data store updated marginals after place instruction rest path moment _ _ ih =>
      obtain ⟨bound, found, same⟩ := ih single
      have shifted : last - place = last - (place + 1) + 1 := by omega
      refine ⟨by omega, ?_, same⟩
      rw [shifted, List.getElem?_cons_succ]
      exact found
  | inside _ within _ =>
      cases single
      exact absurd rfl within.path_ne_nil
  | insideWritten _ _ within _ =>
      cases single
      exact absurd rfl within.path_ne_nil

end Reaches

end Machine

/-! ### Slots that are written -/

theorem MessageStore.get_set {store updated : MessageStore} {slot : Slot} {value found : Value}
    (written : MessageStore.set store slot value = .ok updated)
    (gotten : MessageStore.get updated slot = .ok found) : found = value := by
  obtain ⟨place, located, written⟩ := bind_eq_ok.mp written
  have same : List.set store place value = updated := Except.ok.inj written
  have length : updated.length = store.length := by rw [← same, List.length_set]
  have again : MessageStore.place updated slot = .ok place := by
    rw [MessageStore.place, length]
    exact located
  rw [MessageStore.get, again, Partial.ok_bind, ← same, List.getElem?_set_self'] at gotten
  cases there : store[place]? with
  | none =>
      rw [there] at gotten
      cases gotten
  | some old =>
      rw [there] at gotten
      cases value with
      | absent => cases gotten
      | text _ | flag _ | whole _ | real _ | list _ | record _ | array _ | message _ =>
          exact (Except.ok.inj gotten).symm

theorem MessageStore.get_absent (store : MessageStore) (value : Value) :
    MessageStore.get store .absent ≠ .ok value := by
  intro gotten
  obtain ⟨place, located, _⟩ := bind_eq_ok.mp gotten
  cases located

/-! ### Entries along a path -/

/-- The inner schedule that a composite entry runs. -/
def Entry.within (entry : Entry) : Schedule :=
  if entry.status = .composite then entry.inner.getD [] else []

/-- The entry that a path leads to, through the inner schedules of the entries before it. -/
def Schedule.entryAlong : Schedule → List Nat → Option Entry
  | _, [] => none
  | schedule, [place] => schedule[place]?
  | schedule, place :: other :: path =>
    schedule[place]?.bind fun entry => Schedule.entryAlong entry.within (other :: path)

theorem Schedule.entryAlong_inside {schedule inner : Schedule} {place : Nat} {entry : Entry}
    (placed : schedule[place]? = some entry) (status : entry.status = .composite)
    (held : entry.inner = some inner) {path : List Nat} {found : Entry} (along : inner.entryAlong path = some found) :
    schedule.entryAlong (place :: path) = some found := by
  cases path with
  | nil => cases along
  | cons other path =>
      rw [Schedule.entryAlong, placed, Option.bind_some, Entry.within, if_pos status, held]
      exact along

theorem Schedule.entryAlong_within {schedule : Schedule} {place : Nat} {entry found : Entry}
    {path : List Nat} (placed : schedule[place]? = some entry)
    (along : entry.within.entryAlong path = some found) :
    schedule.entryAlong (place :: path) = some found := by
  cases path with
  | nil => cases along
  | cons other path =>
      rw [Schedule.entryAlong, placed, Option.bind_some]
      exact along

theorem Schedule.entryAlong_all {holds : Entry → Prop} {schedule : Schedule}
    (each : ∀ entry ∈ schedule, holds entry ∧
      ∀ path found, entry.within.entryAlong path = some found → holds found)
    {path : List Nat} {found : Entry} (along : schedule.entryAlong path = some found) :
    holds found := by
  cases path with
  | nil => cases along
  | cons place path =>
      cases path with
      | nil => exact (each found (List.mem_of_getElem? along)).1
      | cons other path =>
          obtain ⟨entry, placed, along⟩ := Option.bind_eq_some_iff.mp along
          exact (each entry (List.mem_of_getElem? placed)).2 _ found along

theorem Schedule.entryAlong_nil (path : List Nat) : Schedule.entryAlong [] path = none := by
  cases path with
  | nil => rfl
  | cons place path =>
      cases path with
      | nil => rfl
      | cons other path => rfl

/-! ### Emitted instructions -/

namespace Emission

variable {network : Network} {schedule : Schedule} {index : Nat} {entry : Entry}
  {instruction : Instruction}

theorem leafInstruction_inv (emitted : leafInstruction network index entry = .ok instruction) :
    (∃ buffer position, instruction = .injectData (.whole index) buffer position) ∨
      ∃ value, instruction = .injectConstant (.whole index) value := by
  unfold leafInstruction at emitted
  simp only at emitted
  split at emitted
  · exact Or.inl ⟨_, _, (Except.ok.inj emitted).symm⟩
  · split at emitted
    · exact Or.inl ⟨_, _, (Except.ok.inj emitted).symm⟩
    · obtain ⟨held, _, emitted⟩ := bind_eq_ok.mp emitted
      obtain ⟨message, _, emitted⟩ := bind_eq_ok.mp emitted
      exact Or.inr ⟨_, (Except.ok.inj emitted).symm⟩

/-- The instruction of a composite entry runs the program of its inner schedule. -/
theorem entryInstruction_composite_inv {inner : Schedule} (status : entry.status = .composite)
    (held : entry.inner = some inner)
    (emitted : entryInstruction network index entry = .ok instruction) :
    ∃ body result, scheduleInstructions network 0 inner = .ok body ∧
      Resolver.resultIndex? network (network.node entry.socket.node) entry.socket.slot inner
        = some result ∧
      (∀ reference, some reference ∈ entry.inbounds → reference.isBefore index = .ok true) ∧
      instruction = .invokeInner (.whole index) (network.node entry.socket.node).id body
        (.whole inner.length)
        (terminalFeeds network (network.node entry.socket.node) entry.socket.slot
          (entry.inbounds.map Reference.optionValue)) (.whole result) := by
  rw [entryInstruction_composite status, held] at emitted
  obtain ⟨body, within, emitted⟩ := bind_eq_ok.mp emitted
  rw [innerBody_some] at within
  obtain ⟨before, result, located, same⟩ := innerInstruction_inv emitted
  exact ⟨body, result, within, located, before, same⟩

theorem scheduleInstructions_getElem {first place : Nat} {body : List Instruction}
    (emitted : scheduleInstructions network first schedule = .ok body)
    (placed : schedule[place]? = some entry) (found : body[place]? = some instruction) :
    entryInstruction network (first + place) entry = .ok instruction := by
  induction schedule generalizing first place body with
  | nil => cases placed
  | cons head rest ih =>
      rw [scheduleInstructions] at emitted
      obtain ⟨next, here, emitted⟩ := bind_eq_ok.mp emitted
      obtain ⟨others, later, emitted⟩ := bind_eq_ok.mp emitted
      cases emitted
      cases place with
      | zero =>
          cases placed
          cases found
          exact here
      | succ place =>
          rw [List.getElem?_cons_succ] at placed found
          have onwards := ih later placed found
          rw [Nat.add_assoc, Nat.add_comm 1 place] at onwards
          exact onwards

/-- The instructions are those of the entries from a place on, and of marginals after them. -/
def EmittedFrom (network : Network) (schedule : Schedule) (place : Nat) (instructions : List Instruction) :
    Prop :=
  ∃ body closing, instructions = body ++ closing ∧
    scheduleInstructions network place (schedule.drop place) = .ok body ∧
    ∀ instruction ∈ closing, ∃ name first second, instruction = .combineMarginal name first second

theorem EmittedFrom.cons_inv {place : Nat} {rest : List Instruction}
    (emitted : EmittedFrom network schedule place (instruction :: rest)) :
    EmittedFrom network schedule (place + 1) rest ∧
      ((∃ entry, schedule[place]? = some entry ∧
          entryInstruction network place entry = .ok instruction) ∨
        schedule.length ≤ place ∧
          ∃ name first second, instruction = .combineMarginal name first second) := by
  obtain ⟨body, closing, same, within, closes⟩ := emitted
  cases placed : schedule[place]? with
  | none =>
      have beyond := List.getElem?_eq_none_iff.mp placed
      rw [List.drop_eq_nil_of_le beyond] at within
      cases within
      rw [List.nil_append] at same
      subst same
      refine ⟨⟨[], rest, rfl, ?_, fun other member => ?_⟩, Or.inr ⟨beyond, ?_⟩⟩
      · rw [List.drop_eq_nil_of_le (Nat.le_succ_of_le beyond)]
        rfl
      · exact closes other (List.mem_cons_of_mem instruction member)
      · exact closes instruction List.mem_cons_self
  | some entry =>
      obtain ⟨inside, rfl⟩ := List.getElem?_eq_some_iff.mp placed
      rw [List.drop_eq_getElem_cons inside, scheduleInstructions] at within
      obtain ⟨next, here, within⟩ := bind_eq_ok.mp within
      obtain ⟨others, later, within⟩ := bind_eq_ok.mp within
      cases within
      rw [List.cons_append, List.cons.injEq] at same
      obtain ⟨rfl, rfl⟩ := same
      exact ⟨⟨others, closing, rfl, later, closes⟩, Or.inl ⟨_, rfl, here⟩⟩

theorem program_inv {targets : List VariableKey} {program : Program}
    (emitted : Emission.program network schedule targets = .ok program) :
    EmittedFrom network schedule 0 program.instructions ∧
      MessageStore.forBody program.messages program.instructions
        = .ok (List.replicate schedule.length .absent) := by
  obtain ⟨body, closing, within, after, rfl⟩ := program_eq_ok.mp emitted
  refine ⟨⟨body, closing, rfl, within, fun instruction member => ?_⟩, ?_⟩
  · obtain ⟨target, _, here⟩ := Partial.exists_of_mem_right (Partial.mapM_eq_ok.mp after) member
    obtain ⟨_, _, first, second, _, _, _, same⟩ := marginalInstruction_inv here
    exact ⟨_, _, _, same⟩
  · apply MessageStore.forBody_eq
    rw [List.length_append, scheduleInstructions_length within]
    omega

end Emission

/-- The instruction of a certified entry, which writes the slot of the entry. -/
theorem Resolver.EntryResolved.instruction_inv {resolver : Resolver} {leafTypes : LeafTypes}
    {done : Schedule} {entry : Entry} (certified : resolver.EntryResolved leafTypes done entry)
    {index : Nat} {instruction : Instruction}
    (emitted : Emission.entryInstruction resolver.network index entry = .ok instruction) :
    (∃ buffer position, instruction = .injectData (.whole index) buffer position) ∨
      (∃ value, instruction = .injectConstant (.whole index) value) ∨
      (∃ rule node slots approximation,
        instruction = .applyRule (.whole index) rule node slots approximation) ∨
      ∃ name body messages terminals result,
        instruction = .invokeInner (.whole index) name body messages terminals result := by
  cases certified with
  | leaf outward arrives status supplied =>
      rw [Emission.entryInstruction_leaf status] at emitted
      rcases Emission.leafInstruction_inv emitted with data | constant
      · exact Or.inl data
      · exact Or.inr (Or.inl constant)
  | composite inward scheduled arrives status held =>
      obtain ⟨body, result, _, _, _, same⟩ :=
        Emission.entryInstruction_composite_inv status held emitted
      exact Or.inr (Or.inr (Or.inr ⟨_, body, _, _, _, same⟩))
  | rule inward plain chosen =>
      rw [Emission.entryInstruction_rule chosen.status] at emitted
      have same := (Emission.ruleInstruction_inv emitted).2
      exact Or.inr (Or.inr (Or.inl ⟨_, _, _, _, same⟩))

theorem Resolver.EntryResolved.target_eq {resolver : Resolver} {leafTypes : LeafTypes}
    {done : Schedule} {entry : Entry} (certified : resolver.EntryResolved leafTypes done entry)
    {index : Nat} {instruction : Instruction}
    (emitted : Emission.entryInstruction resolver.network index entry = .ok instruction) :
    instruction.target = .whole index := by
  rcases certified.instruction_inv emitted with ⟨_, _, rfl⟩ | ⟨_, rfl⟩ | ⟨_, _, _, _, rfl⟩ |
    ⟨_, _, _, _, _, rfl⟩
  · rfl
  · rfl
  · rfl
  · rfl

end SumProduct
