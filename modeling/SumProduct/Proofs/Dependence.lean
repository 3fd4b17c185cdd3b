/-
A message depends on the data only through the entries that lead to its entry.

Two runs of one program on different data are compared entry by entry.  Where the data agree on the
buffers that are read on the way to an entry, both runs store the same message for it, whatever the data
hold elsewhere.  The inner program of a composite entry is given the data of its caller overlaid by the
messages for the terminals: data that agree on a buffer still agree on it after the overlay.
-/

import SumProduct.Proofs.Identifiers
import SumProduct.Proofs.Reordering

set_option autoImplicit false

namespace SumProduct

/-! ### Two computations side by side -/

namespace Partial

variable {ε α β γ δ : Type}

/-- If both computations succeed, their answers are related. -/
def Both (related : α → β → Prop) (first : Except ε α) (second : Except ε β) : Prop :=
  ∀ left right, first = .ok left → second = .ok right → related left right

theorem Both.of_eq {first second : Except ε α} (same : first = second) : Both Eq first second := by
  intro left right atFirst atSecond
  rw [same, atSecond] at atFirst
  exact (Except.ok.inj atFirst).symm

theorem Both.bind {related : α → β → Prop} {final : γ → δ → Prop} {first : Except ε α}
    {second : Except ε β} {next : α → Except ε γ} {other : β → Except ε δ}
    (both : Both related first second)
    (onwards : ∀ left right, related left right → Both final (next left) (other right)) :
    Both final (first >>= next) (second >>= other) := by
  intro left right atFirst atSecond
  obtain ⟨one, succeeded, atFirst⟩ := bind_eq_ok.mp atFirst
  obtain ⟨two, succeededToo, atSecond⟩ := bind_eq_ok.mp atSecond
  exact onwards one two (both one two succeeded succeededToo) left right atFirst atSecond

theorem Both.mapM {f g : α → Except ε β} {items : List α}
    (each : ∀ item ∈ items, Both Eq (f item) (g item)) : Both Eq (items.mapM f) (items.mapM g) := by
  induction items with
  | nil => exact .of_eq rfl
  | cons item rest ih =>
      rw [List.mapM_cons, List.mapM_cons]
      refine (each item List.mem_cons_self).bind ?_
      rintro value _ rfl
      refine (ih fun other member => each other (List.mem_cons_of_mem item member)).bind ?_
      rintro values _ rfl
      exact .of_eq rfl

theorem Both.foldlM {related : β → γ → Prop} {f : β → α → Except ε β} {g : γ → α → Except ε γ}
    {items : List α} {left : β} {right : γ} (start : related left right)
    (each : ∀ item ∈ items, ∀ left right, related left right → Both related (f left item) (g right item)) :
    Both related (items.foldlM f left) (items.foldlM g right) := by
  induction items generalizing left right with
  | nil =>
      intro one two atFirst atSecond
      cases atFirst
      cases atSecond
      exact start
  | cons item rest ih =>
      rw [List.foldlM_cons, List.foldlM_cons]
      refine (each item List.mem_cons_self left right start).bind ?_
      intro one two reached
      exact ih reached fun other member => each other (List.mem_cons_of_mem item member)

end Partial

open Partial (bind_eq_ok Both)

/-! ### Buffers -/

/-- The data hold the same in all of the buffers. -/
def Buffers.AgreeOn (first second : Buffers) (buffers : List Value) : Prop :=
  ∀ buffer ∈ buffers, ∀ key, buffer.key = .ok key → first.get? key = second.get? key

theorem Buffers.AgreeOn.observe_eq {first second : Buffers} {buffer : Value}
    (agree : first.AgreeOn second [buffer]) (index : Value) :
    first.observe buffer index = second.observe buffer index := by
  unfold Buffers.observe Buffers.read
  cases named : buffer.key with
  | error fault => rfl
  | ok key => simp only [Partial.ok_bind, agree buffer List.mem_cons_self key named]

mutual

/-- The buffers that an instruction reads, those read by the program inside it included. -/
def Instruction.buffersRead : Instruction → List Value
  | .injectData _ buffer _ => [buffer]
  | .invokeInner _ _ body _ _ _ => Instruction.allBuffersRead body
  | .written form body _ =>
    match form.operation with
    | .injectData => (form.value "buffer").toOption.toList
    | .invokeInner => Instruction.allBuffersRead body
    | _ => []
  | _ => []

def Instruction.allBuffersRead : List Instruction → List Value
  | [] => []
  | instruction :: rest => instruction.buffersRead ++ Instruction.allBuffersRead rest

end

theorem Instruction.mem_allBuffersRead {instruction : Instruction} {body : List Instruction}
    (member : instruction ∈ body) {buffer : Value} (read : buffer ∈ instruction.buffersRead) :
    buffer ∈ Instruction.allBuffersRead body := by
  induction body with
  | nil => cases member
  | cons head rest ih =>
      rw [Instruction.allBuffersRead]
      rcases List.mem_cons.mp member with rfl | later
      · exact List.mem_append_left _ read
      · exact List.mem_append_right _ (ih later)

/-! ### The dependency graph -/

namespace Schedule

/-- An arc of the dependency graph leads from the one entry to the other. -/
def LeadsTo (schedule : Schedule) (earlier later : Nat) : Prop :=
  ∃ references source, schedule.keyedReferences = .ok references ∧
    source.same (.whole earlier) = true ∧ (source, later) ∈ schedule.dependencyArcs references

theorem mem_references {schedule : Schedule} {place : Nat} {entry : Entry} {reference : Reference}
    (placed : schedule[place]? = some entry) (member : some reference ∈ entry.inbounds) :
    (reference, place) ∈ schedule.references := by
  rw [references, List.mem_flatMap]
  refine ⟨(entry, place), List.mk_mem_zipIdx_iff_getElem?.mpr placed, List.mem_map.mpr ?_⟩
  exact ⟨reference, List.mem_filterMap.mpr ⟨some reference, member, rfl⟩, rfl⟩

end Schedule

theorem Reference.key_of_isBefore {reference : Reference} {index : Int} {answer : Bool}
    (compared : reference.isBefore index = .ok answer) : ∃ key, reference.toValue.key = .ok key := by
  cases reference with
  | entry earlier => exact ⟨.whole earlier, rfl⟩
  | given value =>
      cases value with
      | absent | text _ | flag _ | whole _ | real _ => exact ⟨_, rfl⟩
      | list _ | record _ | array _ | message _ => cases compared

/-- Integers lead to the same entry as the place that they stand for. -/
theorem Reference.same_of_place {reference : Reference} {place : Nat} {key : Key}
    (placed : reference.place = .ok place) (keyed : reference.toValue.key = .ok key) :
    (Key.whole place).same key = true := by
  have known := Reference.place_eq_ok.mp placed
  generalize reference.toValue = value at known keyed
  rw [Key.same_iff]
  cases value with
  | whole number =>
      cases keyed
      rw [Option.some.inj known]
  | flag truth =>
      cases keyed
      change Key.whole place = Key.whole (if truth = true then 1 else 0)
      rw [Option.some.inj known]
  | absent | text _ | real _ | list _ | record _ | array _ | message _ => cases known

theorem Schedule.keyedReferences_ok {schedule : Schedule} (backwards : Schedule.RefersBack 0 schedule) :
    ∃ keyed, schedule.keyedReferences = .ok keyed := by
  cases outcome : schedule.keyedReferences with
  | ok keyed => exact ⟨keyed, rfl⟩
  | error fault =>
      obtain ⟨⟨reference, place⟩, listed, failed⟩ := Partial.mapM_eq_error outcome
      obtain ⟨⟨entry, index⟩, there, listed⟩ := List.mem_flatMap.mp listed
      obtain ⟨other, found, same⟩ := List.mem_map.mp listed
      cases same
      obtain ⟨inbound, member, present⟩ := List.mem_filterMap.mp found
      have before := backwards index entry reference (List.mk_mem_zipIdx_iff_getElem?.mp there)
        (present ▸ member)
      obtain ⟨key, keyed⟩ := Reference.key_of_isBefore before
      rw [keyed] at failed
      cases failed

theorem Schedule.mem_dependencyVertices {schedule : Schedule} {references : List (Key × Nat)} {key : Key}
    (entry : key ∈ (List.range schedule.length).map fun (index : Nat) => Key.whole index) :
    key ∈ schedule.dependencyVertices references := by
  unfold Schedule.dependencyVertices
  generalize ((List.range schedule.length).map fun (index : Nat) => Key.whole index) = vertices at entry
  induction references generalizing vertices with
  | nil => exact entry
  | cons arc rest ih =>
      rw [List.foldl_cons]
      apply ih
      split
      · exact entry
      · exact List.mem_append_left _ entry

theorem Schedule.leadsTo_of_reference {schedule : Schedule} (backwards : Schedule.RefersBack 0 schedule)
    {place earlier : Nat} {entry : Entry} {reference : Reference} (placed : schedule[place]? = some entry)
    (member : some reference ∈ entry.inbounds) (located : reference.place = .ok earlier)
    (inside : earlier < schedule.length) : schedule.LeadsTo earlier place := by
  obtain ⟨keyed, found⟩ := Schedule.keyedReferences_ok backwards
  refine ⟨keyed, .whole earlier, found, Key.same_iff.mpr rfl, ?_⟩
  have listed : ∃ key, (Key.whole earlier).same key = true ∧ (key, place) ∈ keyed := by
    obtain ⟨arc, there, answered⟩ :=
      Partial.exists_of_mem_left (Partial.mapM_eq_ok.mp found) (Schedule.mem_references placed member)
    obtain ⟨key, named, answered⟩ := bind_eq_ok.mp answered
    cases answered
    exact ⟨key, Reference.same_of_place located named, there⟩
  have vertex : Key.whole earlier ∈ schedule.dependencyVertices keyed :=
    Schedule.mem_dependencyVertices (List.mem_map.mpr ⟨earlier, List.mem_range.mpr inside, rfl⟩)
  obtain ⟨key, same, there⟩ := listed
  refine List.mem_flatMap.mpr ⟨.whole earlier, vertex, List.mem_eraseDups.mpr (List.mem_map.mpr ?_)⟩
  exact ⟨(key, place), List.mem_filter.mpr ⟨there, same⟩, rfl⟩

/-! ### Two runs -/

namespace Machine

variable {machine : Machine} {catalog : Catalog} {leafTypes : LeafTypes} {prior : Marginals}
  {schedule : Schedule} {entry : Entry} {first second : Buffers}
  {earlier other : Reference → Except Fault Value}

theorem overlaid_both
    (alike : ∀ reference, some reference ∈ entry.inbounds → Both Eq (earlier reference) (other reference)) :
    Both (fun left right => ∀ key, first.get? key = second.get? key → left.get? key = right.get? key)
      (machine.overlaid earlier first entry) (machine.overlaid other second entry) := by
  apply Both.foldlM
  · exact fun key same => same
  · rintro ⟨terminal, found⟩ member left right agree
    cases found with
    | none =>
        intro one two atFirst atSecond
        cases atFirst
        cases atSecond
        exact agree
    | some reference =>
        -- Both overlays put the same message under the same name.
        refine (alike reference (List.of_mem_zip member).2).bind ?_
        rintro message _ rfl one two atFirst atSecond key same
        cases atFirst
        cases atSecond
        rw [Table.get?_put, Table.get?_put, agree key same]

/-- Between two runs that agree on the buffers that the instruction of the entry reads, and on what arrives
at the entry, the entry makes no difference. -/
def Transmits (machine : Machine) (prior : Marginals) (entry : Entry) : Prop :=
  ∀ (index : Nat) (instruction : Instruction) (first second : Buffers)
    (earlier other : Reference → Except Fault Value),
    Emission.entryInstruction machine.network index entry = .ok instruction →
    first.AgreeOn second instruction.buffersRead →
    (∀ reference, some reference ∈ entry.inbounds → Both Eq (earlier reference) (other reference)) →
    Both Eq (machine.evaluateEntry prior earlier (machine.innerRun prior entry) first entry)
      (machine.evaluateEntry prior other (machine.innerRun prior entry) second entry)

theorem transmits_leaf (outward : (machine.network.node entry.socket.node).isLeaf = true)
    (status : entry.status = .leaf) : machine.Transmits prior entry := by
  intro index instruction first second earlier other emitted agree _
  rw [Emission.entryInstruction_leaf status] at emitted
  apply Both.of_eq
  unfold Emission.leafInstruction at emitted
  cases role : (machine.network.node entry.socket.node).role with
  | terminal =>
      simp only [Node.isTerminal, role, if_true] at emitted
      cases emitted
      simp only [evaluateEntry, role, ← observe_eq, agree.observe_eq]
  | constant held =>
      simp only [Node.isTerminal, role, Bool.false_eq_true, if_false] at emitted
      cases bound : machine.network.placeholder? entry.socket.node with
      | none => simp only [evaluateEntry, role, ← placeholder?_eq, bound]
      | some binding =>
          rw [bound] at emitted
          cases emitted
          simp only [evaluateEntry, role, ← placeholder?_eq, bound, ← observe_eq, agree.observe_eq]
  | factor | gain _ | composite _ _ _ =>
      simp only [Node.isLeaf, role] at outward
      cases outward

theorem transmits_rule (inward : (machine.network.node entry.socket.node).isLeaf = false)
    (plain : (machine.network.node entry.socket.node).innerSchedule? entry.socket.slot = none) :
    machine.Transmits prior entry := by
  intro index instruction first second earlier other _ _ alike
  rw [evaluateEntry_rule inward plain, evaluateEntry_rule inward plain]
  refine (Both.of_eq rfl).bind ?_
  rintro implementation _ rfl
  have arrivals : Both Eq (entry.inbounds.mapM (arrival earlier)) (entry.inbounds.mapM (arrival other)) := by
    apply Both.mapM
    intro found member
    cases found with
    | none => exact .of_eq rfl
    | some reference => exact alike reference member
  refine arrivals.bind ?_
  rintro arriving _ rfl
  exact .of_eq rfl

/-- The two-run lemma: the messages are the same at all places of a set that contains with an entry also
those that it refers to, if the data agree on the buffers that are read there. -/
theorem Fulfils.agree {relevant : Nat → Prop} {body : List Instruction} {values others : List Value}
    (certified : Resolver.ScheduleResolved ⟨machine.network, catalog⟩ leafTypes schedule)
    (emitted : Emission.scheduleInstructions machine.network 0 schedule = .ok body)
    (transmits : ∀ entry ∈ schedule, machine.Transmits prior entry)
    (closed : ∀ (place earlier : Nat) entry reference, relevant place → schedule[place]? = some entry →
      some reference ∈ entry.inbounds → reference.place = .ok earlier → earlier < place →
      relevant earlier)
    (agree : ∀ (place : Nat) instruction, relevant place → body[place]? = some instruction →
      first.AgreeOn second instruction.buffersRead)
    (fulfils : machine.Fulfils prior first schedule values)
    (fulfilsToo : machine.Fulfils prior second schedule others) (place : Nat) (concerned : relevant place) :
    values[place]? = others[place]? := by
  induction place using Nat.strongRecOn with
  | ind place ih =>
      have lengths : values.length = others.length := fulfils.1.trans fulfilsToo.1.symm
      by_cases inside : place < values.length
      · have present : place < schedule.length := Nat.lt_of_lt_of_eq inside fulfils.1
        have insideToo : place < others.length := Nat.lt_of_lt_of_eq inside lengths
        have placed := List.getElem?_eq_getElem present
        have emittedHere : place < body.length := by
          rw [Emission.scheduleInstructions_length emitted]
          exact present
        have instructed := List.getElem?_eq_getElem emittedHere
        have here := Emission.scheduleInstructions_getElem emitted placed instructed
        have evaluated := fulfils.2 place _ _ placed (List.getElem?_eq_getElem inside)
        have evaluatedToo := fulfilsToo.2 place _ _ placed (List.getElem?_eq_getElem insideToo)
        rw [List.getElem?_eq_getElem inside, List.getElem?_eq_getElem insideToo]
        refine congrArg some (transmits _ (List.getElem_mem present) _ _ first second _ _ here
          (agree place _ concerned instructed) ?_ _ _ evaluated evaluatedToo)
        -- What arrives is stored at an earlier place of the set.
        intro reference member left right gotten gottenToo
        have before := certified.refersBack place _ reference placed member
        rw [Nat.zero_add] at before
        cases known : reference.toValue.toIndex? with
        | none =>
            rw [MessageStore.get, MessageStore.place, Value.position, known] at gotten
            cases gotten
        | some index =>
            have integral : reference.IsIndex := ⟨index, known⟩
            obtain ⟨source, located, bounded⟩ := integral.place_eq before
            have same := ih source bounded (closed place source _ reference concerned placed member
              located bounded)
            have atSource := Reference.place_eq_ok.mp located
            have held := ((MessageStore.get_eq_ok atSource).mp gotten).1
            have heldToo := ((MessageStore.get_eq_ok atSource).mp gottenToo).1
            rw [held, heldToo] at same
            exact Option.some.inj same
      · rw [List.getElem?_eq_none (Nat.le_of_not_lt inside),
          List.getElem?_eq_none (lengths ▸ Nat.le_of_not_lt inside)]

theorem transmits_composite {inner : Schedule} {types : LeafTypes} {result : Nat}
    (inward : (machine.network.node entry.socket.node).isLeaf = false)
    (scheduled : ((machine.network.node entry.socket.node).innerSchedule?
      entry.socket.slot).isSome = true)
    (status : entry.status = .composite) (held : entry.inner = some inner)
    (certified : Resolver.ScheduleResolved ⟨machine.network, catalog⟩ types inner)
    (located : Resolver.resultIndex? machine.network (machine.network.node entry.socket.node)
      entry.socket.slot inner = some result)
    (within : ∀ other ∈ inner, machine.Transmits prior other) : machine.Transmits prior entry := by
  intro index instruction first second earlier other emitted agree alike
  obtain ⟨body, place, inside, _, _, rfl⟩ := Emission.entryInstruction_composite_inv status held emitted
  rw [evaluateEntry_inner inward scheduled, evaluateEntry_inner inward scheduled]
  refine (overlaid_both alike).bind ?_
  intro left right kept
  have runs : Both Eq (machine.innerRun prior entry left) (machine.innerRun prior entry right) := by
    unfold innerRun
    simp only [held, Emission.innerBody_some, inside, Option.getD_some, located, Partial.ok_bind]
    have stored : Both Eq
        (runFrom machine left (List.replicate inner.length .absent) prior body).store
        (runFrom machine right (List.replicate inner.length .absent) prior body).store := by
      intro values others finished finishedToo
      rw [runFrom_resolved certified inside] at finished finishedToo
      apply List.ext_getElem?
      intro spot
      refine finished.agree certified inside within (fun _ _ _ _ (_ : True) _ _ _ _ => trivial) ?_
        finishedToo spot trivial
      intro spot instruction _ instructed buffer read key named
      refine kept key (agree buffer ?_ key named)
      exact Instruction.mem_allBuffersRead (List.mem_of_getElem? instructed) read
    refine stored.bind ?_
    rintro values _ rfl
    exact .of_eq rfl
  refine runs.bind ?_
  rintro messages _ rfl
  exact .of_eq rfl

theorem transmits_of_resolved {done : Schedule}
    (certified : Resolver.EntryResolved ⟨machine.network, catalog⟩ leafTypes done entry) :
    machine.Transmits prior entry := by
  induction certified with
  | leaf outward arrives status supplied => exact transmits_leaf outward status
  | rule inward plain chosen => exact transmits_rule inward plain
  | composite inward scheduled arrives status held resolved last computed outbound ih =>
      refine transmits_composite inward scheduled status held resolved last ?_
      intro other member
      obtain ⟨place, placed⟩ := List.mem_iff_getElem?.mp member
      exact ih place other placed

theorem runFrom_closing_store {network : Network} {targets : List VariableKey}
    {closing : List Instruction} {data : Buffers} {store final : MessageStore} {marginals : Marginals}
    (combine : List.Forall₂ (Emission.Combines network schedule) targets closing)
    (finished : (runFrom machine data store marginals closing).store = .ok final) : final = store := by
  induction combine generalizing marginals with
  | nil =>
      rw [runFrom] at finished
      exact (Except.ok.inj finished).symm
  | cons here _ ih =>
      obtain ⟨_, _, left, right, _, _, _, rfl⟩ := here
      rw [runFrom, step] at finished
      split at finished
      · rename_i after updated stepped
        split at stepped
        · cases stepped
        · cases stepped
          exact ih finished
      · cases finished

theorem fulfils_of_execute {network : Network} {targets : List VariableKey}
    {body closing : List Instruction} {data : Buffers} {final : MessageStore}
    (certified : Resolver.ScheduleResolved ⟨machine.network, catalog⟩ leafTypes schedule)
    (emitted : Emission.scheduleInstructions machine.network 0 schedule = .ok body)
    (combine : List.Forall₂ (Emission.Combines network schedule) targets closing)
    (finished : (machine.execute { instructions := body ++ closing, messages := .whole schedule.length }
      data prior).store = .ok final) : machine.Fulfils prior data schedule final := by
  cases outcome : machine.execute { instructions := body ++ closing, messages := .whole schedule.length }
      data prior with
  | mk marginals stored =>
      rw [outcome] at finished
      simp only at finished
      rw [finished] at outcome
      obtain ⟨values, fulfils, last⟩ := (execute_program_iff certified emitted).mp outcome
      -- The closing instructions compute marginals and leave the store as it is.
      rw [runFrom_closing_store combine (congrArg Outcome.store last)]
      exact fulfils

/-- Noninterference: what a run stores for an entry is determined by the data in the buffers that are
read by the entries from which a path leads to it in the dependency graph. -/
theorem slot_determined_by_dependencies {depth : Nat} {resolved : Schedule}
    (accepted : Resolver.resolveAtDepth ⟨machine.network, catalog⟩ depth leafTypes schedule
      = .ok resolved) {targets : List VariableKey} {program : Program}
    (emitted : Emission.program machine.network resolved targets = .ok program) {index : Nat}
    (there : index < resolved.length)
    (agree : ∀ (place : Nat) instruction, Relation.ReflTransGen resolved.LeadsTo place index →
      program.instructions[place]? = some instruction → first.AgreeOn second instruction.buffersRead)
    {store other : MessageStore} (finished : (machine.execute program first prior).store = .ok store)
    (finishedToo : (machine.execute program second prior).store = .ok other) :
    ∃ value, store[index]? = some value ∧ other[index]? = some value := by
  have certified := Resolver.resolveAtDepth_resolved accepted
  have transmits : ∀ entry ∈ resolved, machine.Transmits prior entry := by
    intro entry member
    obtain ⟨place, placed⟩ := List.mem_iff_getElem?.mp member
    exact transmits_of_resolved (certified place entry placed)
  obtain ⟨body, closing, within, combine, rfl⟩ := Emission.program_parts emitted
  have fulfils := fulfils_of_execute certified within combine finished
  have fulfilsToo := fulfils_of_execute certified within combine finishedToo
  -- The entries with a path to the index contain with an entry those that it refers to.
  have closed : ∀ (place earlier : Nat) entry reference,
      Relation.ReflTransGen resolved.LeadsTo place index → resolved[place]? = some entry →
      some reference ∈ entry.inbounds → reference.place = .ok earlier → earlier < place →
      Relation.ReflTransGen resolved.LeadsTo earlier index := by
    intro place earlier entry reference leads placed member located before
    have bounded := (List.getElem?_eq_some_iff.mp placed).1
    exact .head (Schedule.leadsTo_of_reference certified.refersBack placed member located
      (Nat.lt_trans before bounded)) leads
  have agreeing : ∀ (place : Nat) instruction, Relation.ReflTransGen resolved.LeadsTo place index →
      body[place]? = some instruction → first.AgreeOn second instruction.buffersRead := by
    intro place instruction leads instructed
    refine agree place instruction leads ?_
    rw [List.getElem?_append_left (List.getElem?_eq_some_iff.mp instructed).1]
    exact instructed
  have inside : index < store.length := Nat.lt_of_lt_of_eq there fulfils.1.symm
  have held := List.getElem?_eq_getElem inside
  refine ⟨store[index], held, ?_⟩
  rw [← held]
  exact (fulfils.agree certified within transmits closed agreeing fulfilsToo index
    Relation.ReflTransGen.refl).symm

/-- The buffer of the terminal may change: no path leads from its entry to the composite entry. -/
theorem slot_determined_by_dependencies_relaying : ∃ resolved program store other,
    Resolver.resolveAtDepth ⟨relayed, relayCatalog⟩ 2 [("t", some (.typed ⟨"Gaussian", []⟩))]
      relaySchedule = .ok resolved ∧
    Emission.program relayed resolved [] = .ok program ∧
    (relaying.execute program [("t", .whole 1)] []).store = .ok store ∧
    (relaying.execute program [("t", .whole 3)] []).store = .ok other ∧
    ∃ value, store[1]? = some value ∧ other[1]? = some value := by
  have built : ∃ resolved, Resolver.resolveAtDepth ⟨relaying.network, relayCatalog⟩ 2
      [("t", some (.typed ⟨"Gaussian", []⟩))] relaySchedule = .ok resolved ∧
      resolved.dependencyArcs [(.whole 0, 1)] = [(.whole 0, 1)] ∧
      resolved.keyedReferences = .ok [(.whole 0, 1)] ∧ 1 < resolved.length ∧
      ∃ program, Emission.program relaying.network resolved [] = .ok program ∧
        program.instructions.map Instruction.buffersRead = [[], [.text "b"], [.text "t"]] ∧
        (∃ store, (relaying.execute program [("t", .whole 1)] []).store = .ok store) ∧
        ∃ store, (relaying.execute program [("t", .whole 3)] []).store = .ok store :=
    ⟨_, rfl, by decide, rfl, by decide, _, rfl, rfl, ⟨_, rfl⟩, ⟨_, rfl⟩⟩
  obtain ⟨resolved, accepting, arcs, keyed, there, program, emitting, reads, ⟨store, finished⟩,
    ⟨other, finishedToo⟩⟩ := built
  refine ⟨resolved, program, store, other, accepting, emitting, finished, finishedToo,
    slot_determined_by_dependencies accepting emitting there ?_ finished finishedToo⟩
  intro place instruction leads placed buffer read key named
  have start : ∀ earlier later, resolved.LeadsTo earlier later → earlier = 0 := by
    rintro earlier later ⟨references, source, found, same, arc⟩
    rw [keyed] at found
    cases found
    rw [arcs] at arc
    cases List.mem_singleton.mp arc
    have equal : (Key.whole 0) = .whole earlier := Key.same_iff.mp same
    exact Int.ofNat.inj (Key.whole.inj equal).symm
  have read : buffer ∈ ([[], [.text "b"], [.text "t"]] : List (List Value))[place]?.getD [] := by
    rw [← reads, List.getElem?_map, placed]
    exact read
  obtain rfl | rfl : place = 1 ∨ place = 0 := by
    rcases leads.cases_head with rfl | ⟨later, arc, _⟩
    · exact .inl rfl
    · exact .inr (start place later arc)
  · cases List.mem_singleton.mp read
    cases named
    rfl
  · cases read

end Machine

end SumProduct
