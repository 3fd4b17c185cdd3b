/-
Placeholders and the data of the caller.

An inner program sees the data of its caller overlaid by what its terminals receive, and so does every
program further inside.  A placeholder at any depth reads its buffer from the data that the run began with,
unless a terminal that is fed on the way to it has the name of the buffer.  Then the terminal hides the
buffer.
-/

import SumProduct.Proofs.Dependence

set_option autoImplicit false

namespace SumProduct

open Partial (bind_eq_ok)

namespace Network

/-- The names of the terminals that receive a message when the entry runs its inner program. -/
def fedBy (network : Network) (entry : Entry) : List Key :=
  (Emission.terminalFeeds network (network.node entry.socket.node) entry.socket.slot
    (entry.inbounds.map Reference.optionValue)).map Prod.fst

/-- The names of the terminals that receive a message on the way along a path. -/
def fedAlong (network : Network) : Schedule → List Nat → List Key
  | schedule, place :: other :: path =>
    match schedule[place]? with
    | some entry => network.fedBy entry ++ network.fedAlong entry.within (other :: path)
    | none => []
  | _, _ => []

end Network

/-! ### Emitted instructions -/

namespace Emission

variable {network : Network} {index : Nat} {entry : Entry} {instruction : Instruction}

/-- What is emitted for an entry; only a composite entry runs a program of its own. -/
theorem entryInstruction_inv (emitted : entryInstruction network index entry = .ok instruction) :
    (∃ buffer position, instruction = .injectData (.whole index) buffer position) ∨
      (∃ value, instruction = .injectConstant (.whole index) value) ∨
      (∃ rule node slots approximation,
        instruction = .applyRule (.whole index) rule node slots approximation) ∨
      ∃ body result, scheduleInstructions network 0 entry.within = .ok body ∧
        instruction = .invokeInner (.whole index) (network.node entry.socket.node).id body
          (.whole entry.within.length)
          (terminalFeeds network (network.node entry.socket.node) entry.socket.slot
            (entry.inbounds.map Reference.optionValue)) (.whole result) := by
  have ruled : ∀ category : Category, entry.status = category.status →
      ∃ rule node slots approximation,
        instruction = .applyRule (.whole index) rule node slots approximation := by
    intro category status
    rw [entryInstruction_rule status] at emitted
    exact ⟨_, _, _, _, (ruleInstruction_inv emitted).2⟩
  cases status : entry.status with
  | unresolved =>
      cases entry
      cases status
      rw [entryInstruction] at emitted
      cases emitted
  | leaf =>
      rw [entryInstruction_leaf status] at emitted
      rcases leafInstruction_inv emitted with data | constant
      · exact .inl data
      · exact .inr (.inl constant)
  | exact => exact .inr (.inr (.inl (ruled .exact status)))
  | approximate => exact .inr (.inr (.inl (ruled .approximate status)))
  | composite =>
      cases held : entry.inner with
      | none =>
          rw [entryInstruction_composite status, held] at emitted
          cases emitted
      | some inner =>
          obtain ⟨body, result, inside, _, _, same⟩ := entryInstruction_composite_inv status held emitted
          have within : entry.within = inner := by
            rw [Entry.within, if_pos status, held, Option.getD_some]
          rw [within]
          exact .inr (.inr (.inr ⟨body, result, inside, same⟩))

end Emission

/-! ### Stores and data along a run -/

theorem MessageStore.length_of_set {store updated : MessageStore} {slot : Slot} {value : Value}
    (written : MessageStore.set store slot value = .ok updated) : updated.length = store.length := by
  obtain ⟨place, _, written⟩ := bind_eq_ok.mp written
  rw [← Except.ok.inj written, List.length_set]

theorem MessageStore.set_whole {store : MessageStore} {place : Nat} (inside : place < store.length)
    (value : Value) : MessageStore.set store (.whole place) value = .ok (List.set store place value) := by
  have located : store.place (.whole place) = .ok place :=
    Value.position_eq rfl ⟨Int.natCast_nonneg place, Int.ofNat_lt.mpr inside⟩ _
  rw [MessageStore.set, located]
  rfl

namespace Machine

variable {machine : Machine} {data buffers : Buffers} {store updated : MessageStore}
  {marginals after prior : Marginals} {place : Nat} {instruction : Instruction}
  {instructions : List Instruction} {path : List Nat} {moment : Moment} {schedule : Schedule}
  {entry : Entry}

theorem step_length (stepped : step machine data store marginals instruction = ⟨after, .ok updated⟩) :
    updated.length = store.length := by
  have stored : (step machine data store marginals instruction).store = .ok updated :=
    congrArg Outcome.store stepped
  cases instruction with
  | injectConstant target value => exact MessageStore.length_of_set stored
  | injectData target buffer index =>
      obtain ⟨_, _, written⟩ := bind_eq_ok.mp stored
      exact MessageStore.length_of_set written
  | applyRule target rule node inbounds approximation =>
      obtain ⟨_, _, written⟩ := bind_eq_ok.mp stored
      exact MessageStore.length_of_set written
  | invokeInner target node body messages terminals result =>
      rw [step] at stored
      split at stored
      · cases stored
      · obtain ⟨_, _, stored⟩ := bind_eq_ok.mp stored
        obtain ⟨_, _, written⟩ := bind_eq_ok.mp stored
        exact MessageStore.length_of_set written
  | combineMarginal name first second =>
      rw [step] at stored
      split at stored
      · cases stored
      · cases stored
        rfl
  | written form body messages =>
      rw [step] at stored
      split at stored
      · obtain ⟨_, _, stored⟩ := bind_eq_ok.mp stored
        obtain ⟨_, _, stored⟩ := bind_eq_ok.mp stored
        obtain ⟨_, _, written⟩ := bind_eq_ok.mp stored
        exact MessageStore.length_of_set written
      · obtain ⟨_, _, written⟩ := bind_eq_ok.mp stored
        exact MessageStore.length_of_set written
      · obtain ⟨_, _, written⟩ := bind_eq_ok.mp stored
        exact MessageStore.length_of_set written
      · split at stored
        · cases stored
        · obtain ⟨_, _, stored⟩ := bind_eq_ok.mp stored
          obtain ⟨_, _, stored⟩ := bind_eq_ok.mp stored
          obtain ⟨_, _, written⟩ := bind_eq_ok.mp stored
          exact MessageStore.length_of_set written
      · split at stored
        · cases stored
        · cases stored
          rfl
      · cases stored

theorem innerData_apart {terminals : List (Key × Slot)} {key : Key}
    (entered : innerData store data terminals = .ok buffers)
    (apart : ∀ name ∈ terminals.map Prod.fst, name.same key = false) :
    buffers.get? key = data.get? key := by
  induction terminals generalizing data with
  | nil =>
      cases entered
      rfl
  | cons feed rest ih =>
      rw [innerData, List.foldlM_cons] at entered
      obtain ⟨overlaid, put, entered⟩ := bind_eq_ok.mp entered
      obtain ⟨message, _, put⟩ := bind_eq_ok.mp put
      cases put
      have different : ¬ feed.1.same key = true := by
        rw [apart feed.1 List.mem_cons_self]
        exact Bool.false_ne_true
      rw [ih entered fun name member => apart name (List.mem_cons_of_mem _ member),
        Table.get?_put, if_neg different]

theorem not_written_of_emitted {form : Form} {body rest : List Instruction} {messages : Value}
    (emitted : Emission.EmittedFrom machine.network schedule place (.written form body messages :: rest)) :
    False := by
  rcases emitted.cons_inv.2 with ⟨composite, there, here⟩ | ⟨_, _, _, _, impossible⟩
  · rcases Emission.entryInstruction_inv here with ⟨_, _, impossible⟩ | ⟨_, impossible⟩ |
      ⟨_, _, _, _, impossible⟩ | ⟨_, _, _, impossible⟩
    all_goals cases impossible
  · cases impossible

/-- An inner program is that of the inner schedule of a composite entry, and begins with a slot for each
of its entries and with data that differ only in the names of the terminals that are fed. -/
theorem enter_emitted {target : Slot} {name : Key} {body rest : List Instruction} {messages : Value}
    {terminals : List (Key × Slot)} {result : Slot} {fresh : MessageStore}
    (emitted : Emission.EmittedFrom machine.network schedule place
      (.invokeInner target name body messages terminals result :: rest))
    (entered : enter store data terminals messages body = .ok (buffers, fresh)) :
    ∃ composite, schedule[place]? = some composite ∧
      Emission.EmittedFrom machine.network composite.within 0 body ∧
      fresh.length = composite.within.length ∧
      ∀ key, (∀ name ∈ machine.network.fedBy composite, name.same key = false) →
        buffers.get? key = data.get? key := by
  obtain ⟨overlaid, overlay, entered⟩ := bind_eq_ok.mp entered
  obtain ⟨blank, made, entered⟩ := bind_eq_ok.mp entered
  cases entered
  rcases emitted.cons_inv.2 with ⟨composite, there, here⟩ | ⟨_, _, _, _, impossible⟩
  · rcases Emission.entryInstruction_inv here with ⟨_, _, impossible⟩ | ⟨_, impossible⟩ |
      ⟨_, _, _, _, impossible⟩ | ⟨body, result, inside, same⟩
    · cases impossible
    · cases impossible
    · cases impossible
    · cases same
      have count := Emission.scheduleInstructions_length inside
      rw [MessageStore.forBody_eq (Nat.le_of_eq count.symm)] at made
      cases made
      exact ⟨composite, there, ⟨body, [], (List.append_nil body).symm, inside, nofun⟩,
        List.length_replicate, fun key apart => innerData_apart overlay apart⟩
  · cases impossible

/-- Invariant of a run: wherever it is, the data at hand are those that it began with, but for the names
of the terminals that were fed on the way. -/
theorem Reaches.data_apart (emitted : Emission.EmittedFrom machine.network schedule place instructions)
    (sized : store.length = schedule.length)
    (reached : machine.Reaches data store marginals place instructions path moment)
    (along : schedule.entryAlong path = some entry) :
    ∃ last, path.getLast? = some last ∧ last < moment.store.length ∧
      Emission.entryInstruction machine.network last entry = .ok moment.instruction ∧
      ∀ key, (∀ name ∈ machine.network.fedAlong schedule path, name.same key = false) →
        moment.data.get? key = data.get? key := by
  induction reached generalizing schedule with
  | @now data store marginals place instruction rest =>
      have placed : schedule[place]? = some entry := along
      have bounded := (List.getElem?_eq_some_iff.mp placed).1
      refine ⟨place, rfl, sized ▸ bounded, ?_, fun key _ => rfl⟩
      rcases emitted.cons_inv.2 with ⟨other, there, here⟩ | ⟨beyond, _⟩
      · rw [placed] at there
        cases there
        exact here
      · omega
  | next stepped _ ih => exact ih emitted.cons_inv.1 ((step_length stepped).trans sized) along
  | inside entered within ih =>
      obtain ⟨composite, placed, emittedInside, sizedInside, kept⟩ := enter_emitted emitted entered
      obtain ⟨other, path, rfl⟩ := List.exists_cons_of_ne_nil within.path_ne_nil
      rw [Schedule.entryAlong, placed, Option.bind_some] at along
      obtain ⟨last, ends, bounded, here, apartInside⟩ := ih emittedInside sizedInside along
      refine ⟨last, ends, bounded, here, ?_⟩
      intro key apart
      rw [Network.fedAlong, placed] at apart
      have outside := kept key fun name member => apart name (List.mem_append_left _ member)
      have inside := apartInside key fun name member => apart name (List.mem_append_right _ member)
      exact inside.trans outside
  | insideWritten operation entered within ih => exact (not_written_of_emitted emitted).elim

/-- A placeholder stores what its buffer holds in the data that the run began with, at whatever depth it
stands, if no terminal that is fed on the way to it has the name of the buffer. -/
theorem placeholder_reads_given_data {targets : List VariableKey} {program : Program}
    (emitted : Emission.program machine.network schedule targets = .ok program)
    (reached : machine.Reached program data prior path moment)
    (along : schedule.entryAlong path = some entry) (leaf : entry.status = .leaf)
    (constant : (machine.network.node entry.socket.node).isTerminal = false) {binding : Placeholder}
    (bound : machine.network.placeholder? entry.socket.node = some binding)
    (apart : ∀ key, binding.buffer.key = .ok key →
      ∀ name ∈ machine.network.fedAlong schedule path, name.same key = false) :
    (∃ last, path.getLast? = some last ∧
      moment.instruction = .injectData (.whole last) binding.buffer binding.index) ∧
    ∀ value, machine.StoresAt moment value ↔
      ∃ message, data.observe binding.buffer binding.index = .ok message ∧ value = .message message := by
  obtain ⟨instructions, sized⟩ := Emission.program_inv emitted
  obtain ⟨store, made, reached⟩ := reached
  rw [sized] at made
  cases made
  obtain ⟨last, ends, bounded, here, kept⟩ := reached.data_apart instructions List.length_replicate along
  have injects : moment.instruction = .injectData (.whole last) binding.buffer binding.index := by
    rw [Emission.entryInstruction_leaf leaf] at here
    simp only [Emission.leafInstruction, constant, Bool.false_eq_true, if_false, bound] at here
    exact (Except.ok.inj here).symm
  have agree : moment.data.AgreeOn data [binding.buffer] := by
    intro buffer member key named
    cases List.mem_singleton.mp member
    exact kept key (apart key named)
  have performed : machine.outcomeAt moment = ⟨moment.marginals, do
      moment.store.set (.whole last) (.message (← data.observe binding.buffer binding.index))⟩ := by
    rw [outcomeAt, injects, step, agree.observe_eq]
  refine ⟨⟨last, ends, injects⟩, fun value => ⟨?_, ?_⟩⟩
  · rintro ⟨updated, succeeded, gotten⟩
    rw [performed] at succeeded
    obtain ⟨message, observed, written⟩ := bind_eq_ok.mp succeeded
    rw [injects] at gotten
    exact ⟨message, observed, MessageStore.get_set written gotten⟩
  · rintro ⟨message, observed, rfl⟩
    refine ⟨List.set moment.store last (.message message), ?_, ?_⟩
    · rw [performed, observed]
      exact MessageStore.set_whole bounded (.message message)
    · have known : (Value.whole last).toIndex? = some (last : Int) := rfl
      rw [injects]
      apply (MessageStore.get_eq_ok known).mpr
      rw [List.getElem?_set_self bounded]
      refine ⟨rfl, ?_⟩
      intro impossible
      cases impossible

/-- A composite node with a placeholder inside, on the edge to its second terminal.  The first terminal has
the name "y" and is fed by a constant outside. -/
def sheltered (buffer : String) : Network where
  graphs := #[{}, { placeholders := [("k", { buffer := .text buffer, index := .absent })] }]
  nodes := #[
    { id := "p", graph := 0, kind := .text "Shelter",
      role := .composite (some 1) [1, 2] [(1, [{ socket := ⟨3, 0⟩ }])],
      interfaces := [{ name := "y", edge := some 0 }, { name := "z", edge := none }] },
    { id := "y", graph := 1, kind := .text "Terminal", role := .terminal,
      interfaces := [{ name := "out", edge := none }] },
    { id := "z", graph := 1, kind := .text "Terminal", role := .terminal,
      interfaces := [{ name := "out", edge := some 1 }] },
    { id := "k", graph := 1, kind := .text "Constant", role := .constant (.whole 0),
      interfaces := [{ name := "out", edge := some 1 }] },
    { id := "c", graph := 0, kind := .text "Constant", role := .constant (.message (.gaussian 0 1)),
      interfaces := [{ name := "out", edge := some 0 }] }]
  edges := #[
    { id := "e0", first := ⟨4, 0⟩, second := ⟨0, 0⟩, carried := .variable 0 },
    { id := "e1", first := ⟨3, 0⟩, second := ⟨2, 0⟩, carried := .variable 1 }]
  vars := #[{ id := "v0", edges := [0] }, { id := "v1", edges := [1] }]

def sheltering (buffer : String) : Machine where
  network := sheltered buffer
  implementations := []

def shelterSchedule : Schedule :=
  [{ socket := ⟨4, 0⟩ }, { socket := ⟨0, 1⟩, inbounds := [some (.entry 0)] }]

def shelterResolved : Schedule :=
  [{ socket := ⟨4, 0⟩, outbound := some (.typed .gaussian), status := .leaf },
   { socket := ⟨0, 1⟩, inbounds := [some (.entry 0)], outbound := some (.typed .pointMass),
     rule := some (.text "Shelter.z"), status := .composite,
     inner := some [{ socket := ⟨3, 0⟩, outbound := some (.typed .pointMass), status := .leaf }] }]

theorem shelter_accepted (buffer : String) : Resolver.resolveAtDepth ⟨sheltered buffer, {}⟩ 2 []
    shelterSchedule = .ok shelterResolved := rfl

def shelterProgram (buffer : String) : Program where
  instructions := [
    .injectConstant (.whole 0) (.message (.gaussian 0 1)),
    .invokeInner (.whole 1) "p" [.injectData (.whole 0) (.text buffer) .absent] (.whole 1)
      [("y", .whole 0)] (.whole 0)]
  messages := .whole 2

theorem shelter_emitted (buffer : String) :
    Emission.program (sheltering buffer).network shelterResolved [] = .ok (shelterProgram buffer) := rfl

/-- The moment before the placeholder is read. -/
def shelterMoment (buffer : String) (data : Buffers) : Moment where
  data := Table.put "y" (.message (.gaussian 0 1)) data
  store := [.absent]
  marginals := []
  instruction := .injectData (.whole 0) (.text buffer) .absent

theorem shelter_reached (buffer : String) (data : Buffers) :
    (sheltering buffer).Reached (shelterProgram buffer) data [] [1, 0] (shelterMoment buffer data) :=
  ⟨[.absent, .absent], rfl, .next rfl (.inside rfl .now)⟩

theorem placeholder_reads_given_data_sheltered :
    Resolver.resolveAtDepth ⟨sheltered "x", {}⟩ 2 [] shelterSchedule = .ok shelterResolved ∧
    (sheltering "x").Reached (shelterProgram "x") [("x", .real 1)] [] [1, 0]
      (shelterMoment "x" [("x", .real 1)]) ∧
    (sheltered "x").fedAlong shelterResolved [1, 0] = ["y"] ∧
    ∃ message, Buffers.observe [("x", .real 1)] (.text "x") .absent = .ok message ∧
      (sheltering "x").StoresAt (shelterMoment "x" [("x", .real 1)]) (.message message) := by
  have fed : (sheltered "x").fedAlong shelterResolved [1, 0] = ["y"] := rfl
  have apart : ∀ key, (Value.text "x").key = .ok key →
      ∀ name ∈ (sheltered "x").fedAlong shelterResolved [1, 0], name.same key = false := by
    rintro key ⟨⟩ name member
    rw [fed] at member
    cases List.mem_singleton.mp member
    decide
  obtain ⟨_, stores⟩ := placeholder_reads_given_data (shelter_emitted "x")
    (shelter_reached "x" [("x", .real 1)]) rfl rfl rfl rfl apart
  have point : Buffers.observe [("x", .real 1)] (.text "x") .absent
      = .ok (.pointMass (.scalar 1)) := rfl
  exact ⟨shelter_accepted "x", shelter_reached "x" _, fed, _, point, (stores _).mpr ⟨_, point, rfl⟩⟩

/-- A terminal with the name of the buffer hides it: the placeholder stores the message for the terminal,
not what the buffer holds in the data that the run began with. -/
theorem fed_terminal_hides_buffer :
    Resolver.resolveAtDepth ⟨sheltered "y", {}⟩ 2 [] shelterSchedule = .ok shelterResolved ∧
    Emission.program (sheltered "y") shelterResolved [] = .ok (shelterProgram "y") ∧
    (sheltering "y").Reached (shelterProgram "y") [("y", .real 1)] [] [1, 0]
      (shelterMoment "y" [("y", .real 1)]) ∧
    (∃ entry binding, shelterResolved.entryAlong [1, 0] = some entry ∧ entry.status = .leaf ∧
      ((sheltered "y").node entry.socket.node).isTerminal = false ∧
      (sheltered "y").placeholder? entry.socket.node = some binding ∧ binding.buffer = .text "y" ∧
      binding.index = .absent) ∧
    ∃ value, (sheltering "y").StoresAt (shelterMoment "y" [("y", .real 1)]) value ∧
      ∀ message, Buffers.observe [("y", .real 1)] (.text "y") .absent = .ok message →
        value ≠ .message message := by
  refine ⟨shelter_accepted "y", shelter_emitted "y", shelter_reached "y" _,
    ⟨_, _, rfl, rfl, rfl, rfl, rfl, rfl⟩, .message (.gaussian 0 1), ⟨[.message (.gaussian 0 1)], rfl, rfl⟩, ?_⟩
  intro message observed same
  have point : Buffers.observe [("y", .real 1)] (.text "y") .absent
      = .ok (.pointMass (.scalar 1)) := rfl
  rw [point] at observed
  cases observed
  cases same

end Machine

end SumProduct
