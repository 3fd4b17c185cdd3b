/-
Messages keep the types that resolution found for them.

Along a run the slots before the next instruction hold messages of the types of their entries.  Every
instruction keeps this: a rule because it is sound, and one that runs an inner program by the same
statement about the inner schedule.  So whatever is stored anywhere in a run has the type of the entry it
is stored for, provided that constants and the outermost terminals deliver what was announced.
-/

import SumProduct.Proofs.BundledRules
import SumProduct.Proofs.Typing

set_option autoImplicit false

namespace SumProduct

open Partial (bind_eq_ok map_eq_ok)

theorem Node.isLeaf_of_isTerminal {node : Node} (terminal : node.isTerminal = true) :
    node.isLeaf = true := by
  unfold Node.isTerminal at terminal
  cases role : node.role with
  | terminal => rw [Node.isLeaf, role]
  | factor | constant _ | gain _ | composite _ _ _ =>
      rw [role] at terminal
      cases terminal

namespace Machine

/-- A leaf whose message comes from outside: a constant, or a terminal of the schedule itself. -/
def IsGiven (machine : Machine) (path : List Nat) (entry : Entry) : Prop :=
  (machine.network.node entry.socket.node).isConstant = true ∨
    (machine.network.node entry.socket.node).isTerminal = true ∧ path.length = 1

/-- Every leaf that is given from outside stores a message of the type of its entry. -/
def LeavesTyped (machine : Machine) (schedule : Schedule) (data : Buffers) (store : MessageStore)
    (marginals : Marginals) (place : Nat) (instructions : List Instruction) : Prop :=
  ∀ path moment entry value, machine.Reaches data store marginals place instructions path moment →
    schedule.entryAlong path = some entry → machine.IsGiven path entry →
    machine.StoresAt moment value → value.HasType entry.outbound

/-- The instructions are about to run the schedule from a place on. -/
structure Ready (machine : Machine) (catalog : Catalog) (leafTypes : LeafTypes) (schedule : Schedule)
    (data : Buffers) (store : MessageStore) (marginals : Marginals) (place : Nat)
    (instructions : List Instruction) : Prop where
  certified : Resolver.ScheduleResolved ⟨machine.network, catalog⟩ leafTypes schedule
  filled : ∃ values, Filled schedule store place values
  emitted : Emission.EmittedFrom machine.network schedule place instructions
  leaves : machine.LeavesTyped schedule data store marginals place instructions

/-! ### Leaves -/

section Leaves

variable {machine : Machine} {catalog : Catalog} {leafTypes : LeafTypes} {schedule inner : Schedule}
  {data buffers : Buffers} {store fresh : MessageStore} {marginals : Marginals} {place : Nat}
  {entry : Entry} {value : Value}

/-- A terminal that is fed stores a message of the type that was supplied for it. -/
theorem terminal_typed {index : Nat} {moment : Moment} (fed : Fed leafTypes moment.data)
    (terminal : (machine.network.node entry.socket.node).isTerminal = true)
    (supplied : leafTypes.get? (machine.network.node entry.socket.node).id = some entry.outbound)
    (emitted : Emission.leafInstruction machine.network index entry = .ok moment.instruction)
    (stored : machine.StoresAt moment value) : value.HasType entry.outbound := by
  obtain ⟨held, found, typed⟩ := fed _ _ supplied
  obtain ⟨message, type, rfl, computed, same⟩ := typed
  simp only [Emission.leafInstruction, terminal, if_true] at emitted
  have read : moment.data.observe (machine.network.node entry.socket.node).id.toValue .absent
      = .ok message := by
    simp only [Buffers.observe, Buffers.read, Key.key_toValue, Partial.ok_bind, found,
      Partial.pure_eq_ok, Value.toMessage]
  obtain ⟨updated, succeeded, gotten⟩ := stored
  rw [outcomeAt, ← Except.ok.inj emitted, step, read] at succeeded
  rw [← Except.ok.inj emitted] at gotten
  rw [MessageStore.get_set succeeded gotten]
  exact ⟨message, type, rfl, computed, same⟩

/-- The leaves of an inner schedule: constants deliver as they do outside, and terminals are fed. -/
theorem LeavesTyped.inside {target : Slot} {name : Key} {body rest : List Instruction}
    {messages : Value} {terminals : List (Key × Slot)} {result : Slot}
    (leaves : machine.LeavesTyped schedule data store marginals place
      (.invokeInner target name body messages terminals result :: rest))
    (placed : schedule[place]? = some entry) (status : entry.status = .composite)
    (held : entry.inner = some inner)
    (entered : enter store data terminals messages body = .ok (buffers, fresh))
    (certified : Resolver.ScheduleResolved ⟨machine.network, catalog⟩ leafTypes inner)
    (emitted : Emission.scheduleInstructions machine.network 0 inner = .ok body)
    (fed : Fed leafTypes buffers) :
    machine.LeavesTyped inner buffers fresh marginals 0 body := by
  intro path moment found value reached along given stored
  rcases given with constant | ⟨terminal, single⟩
  · exact leaves (place :: path) moment found value (.inside entered reached)
      (Schedule.entryAlong_inside placed status held along) (Or.inl constant) stored
  · obtain ⟨last, rfl⟩ := List.length_eq_one_iff.mp single
    obtain ⟨_, listed, same⟩ := reached.outermost rfl
    rw [Nat.sub_zero] at listed
    have here := Emission.scheduleInstructions_getElem emitted along listed
    rw [Nat.zero_add] at here
    rw [← same] at fed
    cases certified last found along with
    | leaf outward arrives leaf supplied =>
        rw [Emission.entryInstruction_leaf leaf] at here
        exact terminal_typed fed terminal (supplied terminal) here stored
    | composite inward | rule inward =>
        rw [Node.isLeaf_of_isTerminal terminal] at inward
        cases inward

end Leaves

/-! ### One instruction -/

section Steps

variable {machine : Machine} {library : Library} {leafTypes : LeafTypes} {schedule : Schedule}
  {data : Buffers} {store : MessageStore} {marginals : Marginals} {place : Nat}
  {instruction : Instruction} {rest : List Instruction} {entry : Entry}

theorem Ready.here
    (ready : machine.Ready library.catalog leafTypes schedule data store marginals place
      (instruction :: rest)) (placed : schedule[place]? = some entry) :
    Emission.entryInstruction machine.network place entry = .ok instruction := by
  rcases ready.emitted.cons_inv.2 with ⟨other, found, emitted⟩ | ⟨beyond, _⟩
  · rw [placed] at found
    cases found
    exact emitted
  · have inside := (List.getElem?_eq_some_iff.mp placed).1
    omega

/-- What arrives at the next entry is carried by the slots before it. -/
theorem Ready.carries
    (ready : machine.Ready library.catalog leafTypes schedule data store marginals place
      (instruction :: rest)) {arriving : List (Option Pattern)}
    (arrives : Resolver.arrivingTypes ⟨machine.network, library.catalog⟩ entry
      (schedule.take place).length (Schedule.entry? (schedule.take place)) = .ok arriving) :
    List.Forall₂ (Carries fun reference => MessageStore.get store reference.toValue) entry.inbounds
      arriving := by
  obtain ⟨values, filled⟩ := ready.filled
  exact (Resolver.arrivingTypes_inv arrives).imp fun _ _ => filled.carries

/-- The next instruction stores what the rule of its entry computes. -/
theorem Ready.step_rule {category : Category}
    (ready : machine.Ready library.catalog leafTypes schedule data store marginals place
      (instruction :: rest)) (placed : schedule[place]? = some entry)
    (inward : (machine.network.node entry.socket.node).isLeaf = false)
    (plain : (machine.network.node entry.socket.node).innerSchedule? entry.socket.slot = none)
    (status : entry.status = category.status) :
    step machine data store marginals instruction
      = ⟨marginals, machine.evaluateRule marginals (fun reference => store.get reference.toValue) entry
          >>= store.set (.whole place)⟩ := by
  have emitted := ready.here placed
  rw [Emission.entryInstruction_rule status] at emitted
  have stepped : step machine data store marginals instruction
      = ⟨marginals, machine.evaluateEntry marginals (fun reference => store.get reference.toValue)
          (fun _ => .ok []) data entry >>= store.set (.whole place)⟩ :=
    Machine.step_rule inward plain emitted
  rw [evaluateEntry_rule inward plain] at stepped
  exact stepped

/-- Entering an inner program: its schedule is about to be run on data that feeds its terminals. -/
theorem Ready.inside {target : Slot} {name : Key} {body : List Instruction} {messages : Value}
    {terminals : List (Key × Slot)} {result : Slot} {buffers : Buffers} {fresh : MessageStore}
    (ready : machine.Ready library.catalog leafTypes schedule data store marginals place
      (.invokeInner target name body messages terminals result :: rest))
    (placed : schedule[place]? = some entry) (status : entry.status = .composite) {inner : Schedule}
    (held : entry.inner = some inner) {arriving : List (Option Pattern)}
    (arrives : Resolver.arrivingTypes ⟨machine.network, library.catalog⟩ entry
      (schedule.take place).length (Schedule.entry? (schedule.take place)) = .ok arriving)
    (certified : Resolver.ScheduleResolved ⟨machine.network, library.catalog⟩
      (Resolver.terminalTypes ⟨machine.network, library.catalog⟩
        (machine.network.node entry.socket.node) entry.socket.slot arriving) inner)
    (entered : enter store data terminals messages body = .ok (buffers, fresh)) :
    machine.Ready library.catalog
      (Resolver.terminalTypes ⟨machine.network, library.catalog⟩
        (machine.network.node entry.socket.node) entry.socket.slot arriving)
      inner buffers fresh marginals 0 body := by
  obtain ⟨_, index, within, _, before, same⟩ :=
    Emission.entryInstruction_composite_inv status held (ready.here placed)
  cases same
  have entering := entered
  obtain ⟨overlaid, fedData, entered⟩ := bind_eq_ok.mp entered
  obtain ⟨empty, made, entered⟩ := bind_eq_ok.mp entered
  cases entered
  rw [MessageStore.forBody_eq (Nat.le_of_eq (Emission.scheduleInstructions_length within).symm)] at made
  rw [Emission.terminalFeeds, innerData_references machine.network before] at fedData
  have nothing : Fed [] data := fun _ _ impossible => by cases impossible
  have fed : Fed (Resolver.terminalTypes ⟨machine.network, library.catalog⟩
      (machine.network.node entry.socket.node) entry.socket.slot arriving) buffers :=
    Fed.overlay (ready.carries arrives) nothing fedData
  refine ⟨certified, ?_, ⟨body, [], (List.append_nil _).symm, within, ?_⟩, ?_⟩
  · rw [← Except.ok.inj made]
    exact ⟨[], Filled.fresh inner⟩
  · exact fun _ impossible => (List.not_mem_nil impossible).elim
  · exact ready.leaves.inside placed status held entering certified within fed

/-- The instruction of the entry stores messages of the type of the entry. -/
def KeepsType (machine : Machine) (catalog : Catalog) (leafTypes : LeafTypes) (done : Schedule)
    (entry : Entry) : Prop :=
  ∀ schedule data store marginals place instruction rest,
    machine.Ready catalog leafTypes schedule data store marginals place (instruction :: rest) →
    schedule[place]? = some entry → schedule.take place = done →
    ∃ outcome, (step machine data store marginals instruction).store
        = outcome >>= MessageStore.set store (.whole place) ∧
      ∀ value, outcome = .ok value → value.HasType entry.outbound

/-- The step lemma: after an instruction the rest is about to be run. -/
theorem Ready.next
    (keeps : ∀ index entry, schedule[index]? = some entry →
      machine.KeepsType library.catalog leafTypes (schedule.take index) entry)
    (ready : machine.Ready library.catalog leafTypes schedule data store marginals place
      (instruction :: rest)) {after : Marginals} {updated : MessageStore}
    (stepped : step machine data store marginals instruction = ⟨after, .ok updated⟩) :
    machine.Ready library.catalog leafTypes schedule data updated after (place + 1) rest := by
  obtain ⟨emitted, here⟩ := ready.emitted.cons_inv
  obtain ⟨values, filled⟩ := ready.filled
  refine ⟨ready.certified, ?_, emitted, ?_⟩
  · rcases here with ⟨entry, placed, _⟩ | ⟨beyond, name, first, second, rfl⟩
    · obtain ⟨outcome, computed, typed⟩ :=
        keeps place entry placed schedule data store marginals place instruction rest ready placed rfl
      rw [stepped] at computed
      obtain ⟨value, delivered, written⟩ := bind_eq_ok.mp computed.symm
      exact ⟨_, filled.next placed (typed value delivered) written⟩
    · have unchanged : updated = store := by
        rw [step] at stepped
        split at stepped
        · cases stepped
        · exact (Except.ok.inj (Outcome.mk.inj stepped).2).symm
      refine ⟨values, ?_, ?_, filled.typed⟩
      · rw [filled.length]
        omega
      · have none : schedule.length - (place + 1) = schedule.length - place := by omega
        rw [unchanged, none]
        exact filled.store
  · intro path moment entry value reached
    exact ready.leaves path moment entry value (.next stepped reached)

/-- The run lemma: a run that ends leaves typed messages in the slots it has passed. -/
theorem Ready.runFrom_filled
    (keeps : ∀ index entry, schedule[index]? = some entry →
      machine.KeepsType library.catalog leafTypes (schedule.take index) entry)
    {instructions : List Instruction}
    (ready : machine.Ready library.catalog leafTypes schedule data store marginals place instructions)
    {final : MessageStore}
    (finished : (runFrom machine data store marginals instructions).store = .ok final) :
    ∃ values, Filled schedule final (place + instructions.length) values := by
  induction instructions generalizing store marginals place with
  | nil =>
      rw [runFrom] at finished
      cases finished
      exact ready.filled
  | cons instruction rest ih =>
      rw [runFrom] at finished
      cases stepped : step machine data store marginals instruction with
      | mk after result =>
          rw [stepped] at finished
          cases result with
          | error fault => cases finished
          | ok updated =>
              have onwards := ih (ready.next keeps stepped) finished
              rw [List.length_cons, Nat.add_comm rest.length 1, ← Nat.add_assoc]
              exact onwards

theorem keepsType_leaf {done : Schedule}
    (outward : (machine.network.node entry.socket.node).isLeaf = true)
    (status : entry.status = .leaf) :
    machine.KeepsType library.catalog leafTypes done entry := by
  intro schedule data store marginals place instruction rest ready placed _
  have emitted := ready.here placed
  rw [Emission.entryInstruction_leaf status] at emitted
  have stepped : step machine data store marginals instruction
      = ⟨marginals, machine.evaluateEntry marginals (fun reference => store.get reference.toValue)
          (fun _ => .ok []) data entry >>= store.set (.whole place)⟩ := step_leaf outward emitted
  refine ⟨_, congrArg Outcome.store stepped, fun value evaluated => ?_⟩
  obtain ⟨values, filled⟩ := ready.filled
  obtain ⟨updated, written⟩ : ∃ updated, store.set (.whole place) value = .ok updated :=
    ⟨_, filled.set_eq placed value⟩
  -- The assumption is about what is stored; so the value is first followed into its slot.
  have stored : machine.StoresAt ⟨data, store, marginals, instruction⟩ value := by
    refine ⟨updated, ?_, ?_⟩
    · rw [outcomeAt, stepped, evaluated]
      exact written
    · rw [(ready.certified place entry placed).target_eq (ready.here placed)]
      exact filled.get_next placed (evaluateEntry_leaf outward evaluated) written
  have given : machine.IsGiven [place] entry := by
    unfold Node.isLeaf at outward
    unfold IsGiven Node.isConstant Node.isTerminal
    cases role : (machine.network.node entry.socket.node).role with
    | terminal => exact Or.inr ⟨rfl, rfl⟩
    | constant held => exact Or.inl rfl
    | factor | gain _ | composite _ _ _ =>
        rw [role] at outward
        cases outward
  exact ready.leaves [place] _ entry value .now placed given stored

theorem keepsType_rule (fitted : library.Fitted)
    (implemented : machine.implementations = library.implementations) {done : Schedule}
    {arriving : List (Option Pattern)} {candidate : Candidate} {type : MessageType}
    {category : Category} (inward : (machine.network.node entry.socket.node).isLeaf = false)
    (plain : (machine.network.node entry.socket.node).innerSchedule? entry.socket.slot = none)
    (chosen : Resolver.RuleChosen ⟨machine.network, library.catalog⟩ done entry arriving candidate type
      category) :
    machine.KeepsType library.catalog leafTypes done entry := by
  intro schedule data store marginals place instruction rest ready placed taken
  subst taken
  have stepped := ready.step_rule placed inward plain chosen.status
  refine ⟨_, congrArg Outcome.store stepped, ?_⟩
  exact (chosen.evaluateRule_typed fitted implemented (ready.carries chosen.arrives) marginals).1

theorem keepsType_composite {done : Schedule} {arriving : List (Option Pattern)} {inner : Schedule}
    {last : Entry} {index : Nat} (status : entry.status = .composite)
    (arrives : Resolver.arrivingTypes ⟨machine.network, library.catalog⟩ entry done.length done.entry?
      = .ok arriving) (held : entry.inner = some inner)
    (resolved : Resolver.ScheduleResolved ⟨machine.network, library.catalog⟩
      (Resolver.terminalTypes ⟨machine.network, library.catalog⟩
        (machine.network.node entry.socket.node) entry.socket.slot arriving) inner)
    (keeps : ∀ place other, inner[place]? = some other →
      machine.KeepsType library.catalog
        (Resolver.terminalTypes ⟨machine.network, library.catalog⟩
          (machine.network.node entry.socket.node) entry.socket.slot arriving)
        (inner.take place) other)
    (located : Resolver.resultIndex? machine.network (machine.network.node entry.socket.node)
      entry.socket.slot inner = some index) (computed : inner[index]? = some last)
    (outbound : entry.outbound = last.outbound) :
    machine.KeepsType library.catalog leafTypes done entry := by
  intro schedule data store marginals place instruction rest ready placed taken
  subst taken
  obtain ⟨body, result, within, found, _, rfl⟩ :=
    Emission.entryInstruction_composite_inv status held (ready.here placed)
  rw [located] at found
  cases found
  rw [step]
  split
  · rename_i fault _
    exact ⟨.error fault, rfl, fun _ impossible => by cases impossible⟩
  · rename_i buffers fresh entered
    refine ⟨_, (bind_assoc _ _ _).symm, fun value delivered => ?_⟩
    obtain ⟨final, finished, gotten⟩ := bind_eq_ok.mp delivered
    -- The slots of the inner run are typed, and among them is the one that is handed out.
    have entering := ready.inside placed status held arrives resolved entered
    obtain ⟨values, filled⟩ := entering.runFrom_filled keeps finished
    have inside := (List.getElem?_eq_some_iff.mp computed).1
    have length := Emission.scheduleInstructions_length within
    have present : index < values.length := by
      rw [filled.length, length]
      omega
    have there := List.getElem?_eq_getElem present
    rw [filled.store, MessageStore.get_whole filled.present there] at gotten
    obtain ⟨other, listed, typed⟩ := filled.typed index _ there
    rw [computed] at listed
    cases listed
    rw [outbound, ← Except.ok.inj gotten]
    exact typed

/-- Every certified entry keeps its type, whatever its nesting. -/
theorem keepsType_of_resolved (fitted : library.Fitted)
    (implemented : machine.implementations = library.implementations) {done : Schedule}
    (certified : Resolver.EntryResolved ⟨machine.network, library.catalog⟩ leafTypes done entry) :
    machine.KeepsType library.catalog leafTypes done entry := by
  induction certified with
  | leaf outward arrives status supplied => exact keepsType_leaf outward status
  | rule inward plain chosen => exact keepsType_rule fitted implemented inward plain chosen
  | composite inward scheduled arrives status held resolved located computed outbound ih =>
      exact keepsType_composite status arrives held resolved ih located computed outbound

end Steps

/-! ### Whole runs -/

section Runs

variable {machine : Machine} {library : Library} {leafTypes : LeafTypes} {schedule : Schedule}
  {data : Buffers} {store : MessageStore} {marginals : Marginals} {place : Nat}
  {instructions : List Instruction} {path : List Nat} {moment : Moment}

theorem Ready.not_written {form : Form} {body rest : List Instruction} {messages : Value}
    (ready : machine.Ready library.catalog leafTypes schedule data store marginals place
      (.written form body messages :: rest)) : False := by
  rcases ready.emitted.cons_inv.2 with ⟨entry, placed, here⟩ | ⟨_, _, _, _, impossible⟩
  · rcases (ready.certified place entry placed).instruction_inv here with ⟨_, _, impossible⟩ |
      ⟨_, impossible⟩ | ⟨_, _, _, _, impossible⟩ | ⟨_, _, _, _, _, impossible⟩
    all_goals cases impossible
  · cases impossible

/-- An instruction that enters an inner program belongs to a composite entry, whose inner schedule is
about to be run. -/
theorem Ready.enters {target : Slot} {name : Key} {body rest : List Instruction} {messages : Value}
    {terminals : List (Key × Slot)} {result : Slot} {buffers : Buffers} {fresh : MessageStore}
    (ready : machine.Ready library.catalog leafTypes schedule data store marginals place
      (.invokeInner target name body messages terminals result :: rest))
    (entered : enter store data terminals messages body = .ok (buffers, fresh)) :
    ∃ entry inner types, schedule[place]? = some entry ∧ entry.status = .composite ∧
      entry.inner = some inner ∧
      machine.Ready library.catalog types inner buffers fresh marginals 0 body := by
  rcases ready.emitted.cons_inv.2 with ⟨entry, placed, here⟩ | ⟨_, _, _, _, impossible⟩
  · cases ready.certified place entry placed with
    | leaf outward arrives status supplied =>
        rw [Emission.entryInstruction_leaf status] at here
        rcases Emission.leafInstruction_inv here with ⟨_, _, impossible⟩ | ⟨_, impossible⟩
        · cases impossible
        · cases impossible
    | composite inward scheduled arrives status held resolved =>
        exact ⟨entry, _, _, placed, status, held,
          ready.inside placed status held arrives resolved entered⟩
    | rule inward plain chosen =>
        rw [Emission.entryInstruction_rule chosen.status] at here
        obtain ⟨_, impossible⟩ := Emission.ruleInstruction_inv here
        cases impossible
  · cases impossible

/-- At every moment of a run an entry of the schedule at hand is about to be computed, or a marginal. -/
theorem Ready.reaches (fitted : library.Fitted)
    (implemented : machine.implementations = library.implementations)
    (ready : machine.Ready library.catalog leafTypes schedule data store marginals place instructions)
    (reached : machine.Reaches data store marginals place instructions path moment) :
    (∃ name first second, moment.instruction = .combineMarginal name first second) ∨
      ∃ types within last entry rest, path.getLast? = some last ∧
        schedule.entryAlong path = some entry ∧ within[last]? = some entry ∧
        machine.Ready library.catalog types within moment.data moment.store moment.marginals last
          (moment.instruction :: rest) := by
  -- The schedule changes with every inner program, so the statement is about any schedule at hand.
  induction reached generalizing leafTypes schedule with
  | now =>
      rcases ready.emitted.cons_inv.2 with ⟨entry, placed, _⟩ | ⟨_, closing⟩
      · exact Or.inr ⟨leafTypes, schedule, _, entry, _, rfl, placed, placed, ready⟩
      · exact Or.inl closing
  | next stepped _ ih =>
      have keeps := fun index entry placed =>
        keepsType_of_resolved fitted implemented (ready.certified index entry placed)
      exact ih (ready.next keeps stepped)
  | inside entered within ih =>
      obtain ⟨composite, inner, types, placed, status, held, entering⟩ := ready.enters entered
      rcases ih entering with closing | ⟨types, level, last, entry, rest, ends, along, there, onwards⟩
      · exact Or.inl closing
      · refine Or.inr ⟨types, level, last, entry, rest, ?_,
          Schedule.entryAlong_inside placed status held along, there, onwards⟩
        rw [List.getLast?_cons_of_ne_nil within.path_ne_nil]
        exact ends
  | insideWritten operation entered within ih => exact ready.not_written.elim

/-- What a compiled program is about to do at any moment of its run. -/
theorem Reached.ready (fitted : library.Fitted)
    (implemented : machine.implementations = library.implementations) {depth : Nat}
    {resolved : Schedule}
    (accepted : Resolver.resolveAtDepth ⟨machine.network, library.catalog⟩ depth leafTypes schedule
      = .ok resolved) {targets : List VariableKey} {program : Program}
    (emitted : Emission.program machine.network resolved targets = .ok program) {prior : Marginals}
    (leaves : ∀ path moment entry value, machine.Reached program data prior path moment →
      resolved.entryAlong path = some entry → machine.IsGiven path entry →
      machine.StoresAt moment value → value.HasType entry.outbound)
    (reached : machine.Reached program data prior path moment) :
    (∃ name first second, moment.instruction = .combineMarginal name first second) ∨
      ∃ types within last entry rest, path.getLast? = some last ∧
        resolved.entryAlong path = some entry ∧ within[last]? = some entry ∧
        machine.Ready library.catalog types within moment.data moment.store moment.marginals last
          (moment.instruction :: rest) := by
  obtain ⟨instructions, sized⟩ := Emission.program_inv emitted
  have ready : machine.Ready library.catalog leafTypes resolved data
      (List.replicate resolved.length .absent) prior 0 program.instructions := by
    refine ⟨Resolver.resolveAtDepth_resolved accepted, ⟨[], Filled.fresh resolved⟩, instructions, ?_⟩
    intro path moment entry value along
    exact leaves path moment entry value ⟨_, sized, along⟩
  obtain ⟨store, made, reached⟩ := reached
  rw [sized] at made
  cases made
  exact ready.reaches fitted implemented reached

/-- Type preservation: whatever a compiled program stores, outside or in an inner program, is a message
of the type that resolution found for the entry of its slot, provided that constants and the terminals of
the program itself deliver messages of their types. -/
theorem stored_messages_typed
    (implemented : machine.implementations = Bundled.library.implementations) {depth : Nat}
    {resolved : Schedule}
    (accepted : Resolver.resolveAtDepth ⟨machine.network, Bundled.library.catalog⟩ depth leafTypes
      schedule = .ok resolved) {targets : List VariableKey} {program : Program}
    (emitted : Emission.program machine.network resolved targets = .ok program) {prior : Marginals}
    (leaves : ∀ path moment entry value, machine.Reached program data prior path moment →
      resolved.entryAlong path = some entry → machine.IsGiven path entry →
      machine.StoresAt moment value → value.HasType entry.outbound) :
    ∀ path moment value, machine.Reached program data prior path moment →
      machine.StoresAt moment value →
      ∃ place entry, path.getLast? = some place ∧ moment.instruction.target = .whole place ∧
        resolved.entryAlong path = some entry ∧ value.HasType entry.outbound := by
  intro path moment value reached stored
  rcases reached.ready Bundled.library_fitted implemented accepted emitted leaves with
    ⟨name, first, second, closing⟩ | ⟨types, within, place, entry, rest, ends, along, there, level⟩
  · obtain ⟨updated, _, gotten⟩ := stored
    rw [closing] at gotten
    exact absurd gotten (MessageStore.get_absent updated value)
  · have keeps := keepsType_of_resolved Bundled.library_fitted implemented
      (level.certified place entry there)
    obtain ⟨outcome, computed, typed⟩ := keeps _ _ _ _ _ _ _ level there rfl
    have target := (level.certified place entry there).target_eq (level.here there)
    obtain ⟨updated, succeeded, gotten⟩ := stored
    rw [outcomeAt, computed] at succeeded
    obtain ⟨delivered, answered, written⟩ := bind_eq_ok.mp succeeded
    rw [target] at gotten
    rw [MessageStore.get_set written gotten]
    exact ⟨place, entry, ends, target, along, typed delivered answered⟩

end Runs

def doubling : Gain where
  rows := 1
  cols := 1
  matrix := Tensor.ofFn [1, 1] fun _ => 2
  matrix_shape := rfl

def boxedGain : Network where
  nodes := #[
    { id := "p", graph := 0, kind := .text "Box",
      role := .composite (some 1) [2, 3]
        [(0, [{ socket := ⟨3, 0⟩ }, { socket := ⟨4, 0⟩, inbounds := [some (.entry 0)] }])],
      interfaces := [{ name := "a", edge := none }, { name := "b", edge := some 0 }] },
    { id := "c", graph := 0, kind := .text "Constant", role := .constant (.whole 2),
      interfaces := [{ name := "out", edge := some 0 }] },
    { id := "a", graph := 1, kind := .text "Terminal", role := .terminal,
      interfaces := [{ name := "out", edge := some 1 }] },
    { id := "b", graph := 1, kind := .text "Terminal", role := .terminal,
      interfaces := [{ name := "out", edge := some 2 }] },
    { id := "g", graph := 1, kind := .text "FixedGainNode", role := .gain doubling,
      interfaces := [{ name := "in", edge := some 1 }, { name := "out", edge := some 2 }] }]
  edges := #[
    { id := "e0", first := ⟨0, 1⟩, second := ⟨1, 0⟩, carried := .variable 0 },
    { id := "e1", first := ⟨2, 0⟩, second := ⟨4, 0⟩, carried := .variable 1 },
    { id := "e2", first := ⟨3, 0⟩, second := ⟨4, 1⟩, carried := .variable 2 }]
  vars := #[{ id := "v0", edges := [0] }, { id := "v1", edges := [1] }, { id := "v2", edges := [2] }]

def boxedSchedule : Schedule :=
  [{ socket := ⟨1, 0⟩ }, { socket := ⟨0, 0⟩, inbounds := [some (.entry 0)] }]

def boxedResolved : Schedule :=
  [{ socket := ⟨1, 0⟩, outbound := some (.typed .pointMass), status := .leaf },
   { socket := ⟨0, 0⟩, inbounds := [some (.entry 0)], outbound := some (.typed .pointMass),
     rule := some (.text "Box.a"), status := .composite,
     inner := some [
       { socket := ⟨3, 0⟩, outbound := some (.typed .pointMass), status := .leaf },
       { socket := ⟨4, 0⟩, inbounds := [some (.entry 0)], outbound := some (.typed .pointMass),
         rule := some (.text "fixed_gain_in_sp_pm"), status := .exact }] }]

def boxedProgram : Program where
  instructions := [
    .injectConstant (.whole 0) (.message (.pointMass (.scalar (Float.ofInt 2)))),
    .invokeInner (.whole 1) "p" [
      .injectData (.whole 0) (.text "b") .absent,
      .applyRule (.whole 1) (.text "fixed_gain_in_sp_pm") 4 [.whole 0] none]
      (.whole 2) [("b", .whole 0)] (.whole 1)]
  messages := .whole 2

def boxing : Machine where
  network := boxedGain
  implementations := Bundled.library.implementations

set_option maxRecDepth 100000 in
theorem boxed_accepted : Resolver.resolveAtDepth ⟨boxing.network, Bundled.library.catalog⟩ 2 []
    boxedSchedule = .ok boxedResolved := (rfl)

theorem boxed_emitted : Emission.program boxing.network boxedResolved [] = .ok boxedProgram := (rfl)

theorem boxing_implemented : boxing.implementations = Bundled.library.implementations := by
  -- Stated for any rules, so that the library is never unfolded.
  have generic : ∀ rules : Implementations,
      Machine.implementations { network := boxedGain, implementations := rules } = rules :=
    fun _ => rfl
  exact generic Bundled.library.implementations

theorem boxed_leaves (path : List Nat) (moment : Moment) (entry : Entry) (value : Value)
    (reached : boxing.Reached boxedProgram [] [] path moment)
    (along : boxedResolved.entryAlong path = some entry) (given : boxing.IsGiven path entry)
    (stored : boxing.StoresAt moment value) : value.HasType entry.outbound := by
  obtain ⟨store, sized, reached⟩ := reached
  cases reached with
  | now =>
      cases along
      obtain ⟨updated, succeeded, gotten⟩ := stored
      rw [outcomeAt, step] at succeeded
      rw [MessageStore.get_set succeeded gotten]
      exact ⟨_, _, rfl, rfl, rfl⟩
  | next _ later =>
      cases later with
      | next _ impossible => cases impossible
      | now =>
          cases along
          rcases given with constant | ⟨terminal, _⟩
          · exact absurd constant (by decide)
          · exact absurd terminal (by decide)
      | inside entered within =>
          cases within with
          | now =>
              cases along
              rcases given with constant | ⟨_, single⟩
              · exact absurd constant (by decide)
              · exact absurd single (by decide)
          | next _ last =>
              cases last with
              | next _ impossible => cases impossible
              | now =>
                  cases along
                  rcases given with constant | ⟨terminal, _⟩
                  · exact absurd constant (by decide)
                  · exact absurd terminal (by decide)

def boxedNumber : Value := .message (.pointMass (.scalar (Float.ofInt 2)))

/-- The moment before the terminal inside the box is read. -/
def boxedMoment : Moment where
  data := [("b", boxedNumber)]
  store := [.absent, .absent]
  marginals := []
  instruction := .injectData (.whole 0) (.text "b") .absent

theorem boxed_reached : boxing.Reached boxedProgram [] [] [1, 0] boxedMoment :=
  ⟨[.absent, .absent], rfl, .next rfl (.inside rfl .now)⟩

theorem boxed_stores : boxing.StoresAt boxedMoment boxedNumber := ⟨[boxedNumber, .absent], rfl, rfl⟩

theorem stored_messages_typed_boxed :
    boxing.Reached boxedProgram [] [] [1, 0] boxedMoment ∧ boxing.StoresAt boxedMoment boxedNumber ∧
      ∃ (place : Nat) (entry : Entry), [1, 0].getLast? = some place ∧ boxedMoment.instruction.target = .whole place ∧
        boxedResolved.entryAlong [1, 0] = some entry ∧ boxedNumber.HasType entry.outbound := by
  refine ⟨boxed_reached, boxed_stores, ?_⟩
  exact stored_messages_typed boxing_implemented boxed_accepted boxed_emitted boxed_leaves [1, 0]
    boxedMoment boxedNumber boxed_reached boxed_stores

end Machine

end SumProduct
