/-
Resolution and runs, entry by entry.

A schedule is resolved in order, and a program is run in order.  What comes out can be said without an
order: a resolved schedule is one in which every entry follows from the entries that it refers to, and the
messages of a run are those in which every message follows from the messages that its entry refers to.
-/

import SumProduct.Proofs.Layout
import SumProduct.Proofs.Progress

set_option autoImplicit false

namespace SumProduct

open Partial (bind_eq_ok mapError_eq_ok)

/-! ### Resolution -/

namespace Resolver

variable {resolver : Resolver} {resolveInner : LeafTypes → Schedule → Except Fault Schedule}
  {leafTypes : LeafTypes} {schedule resolved : Schedule}

/-- Every entry of the resolved schedule is the result for the entry at its place, given the entries
before it. -/
def Settles (resolver : Resolver) (resolveInner : LeafTypes → Schedule → Except Fault Schedule)
    (leafTypes : LeafTypes) (schedule resolved : Schedule) : Prop :=
  resolved.length = schedule.length ∧
    ∀ (place : Nat) entry result, schedule[place]? = some entry → resolved[place]? = some result →
      (resolver.arrivingTypes entry place (Schedule.entry? (resolved.take place))
        >>= resolver.resolveArriving resolveInner leafTypes entry) = .ok result

/-- The statement for the entries that remain when some are done. -/
theorem resolvePrefixWith_iff {done rest : Schedule} :
    resolver.resolvePrefixWith resolveInner leafTypes done rest = (resolved, none) ↔
      ∃ more : Schedule, resolved = done ++ more ∧ more.length = rest.length ∧
        ∀ (place : Nat) entry result, rest[place]? = some entry → more[place]? = some result →
          (resolver.arrivingTypes entry (done.length + place : Nat)
              (Schedule.entry? ((done ++ more).take (done.length + place)))
            >>= resolver.resolveArriving resolveInner leafTypes entry) = .ok result := by
  induction rest generalizing done with
  | nil =>
      rw [resolvePrefixWith]
      constructor
      · intro accepted
        have same : done = resolved := congrArg Prod.fst accepted
        refine ⟨[], same ▸ (List.append_nil done).symm, rfl, ?_⟩
        intro place entry result impossible
        cases impossible
      · rintro ⟨more, rfl, empty, _⟩
        rw [List.eq_nil_of_length_eq_zero empty, List.append_nil]
  | cons entry rest ih =>
      have opened : ∀ result, resolver.resolveEntryWith resolveInner leafTypes entry done.length
            (.whole done.length) done.entry? = .ok result ↔
          (resolver.arrivingTypes entry done.length done.entry?
            >>= resolver.resolveArriving resolveInner leafTypes entry) = .ok result := by
        intro result
        rw [resolveEntryWith_eq, mapError_eq_ok]
      rw [resolvePrefixWith]
      constructor
      · intro accepted
        split at accepted
        · rename_i result here
          obtain ⟨more, same, counted, each⟩ := ih.mp accepted
          refine ⟨result :: more, ?_, ?_, ?_⟩
          · rw [same, List.append_assoc, List.singleton_append]
          · rw [List.length_cons, List.length_cons, counted]
          · intro place other answer atRest atMore
            cases place with
            | zero =>
                cases atRest
                cases atMore
                rw [Nat.add_zero, List.take_left']
                · exact (opened result).mp here
                · rfl
            | succ place =>
                have later := each place other answer atRest atMore
                rw [List.append_assoc, List.singleton_append, List.length_append,
                  List.length_singleton, Nat.add_assoc, Nat.add_comm 1 place] at later
                exact later
        · cases accepted
      · rintro ⟨more, same, counted, each⟩
        cases more with
        | nil => cases counted
        | cons result more =>
            have here := each 0 entry result rfl rfl
            rw [Nat.add_zero, List.take_left' rfl] at here
            have accepted := (opened result).mpr here
            split
            · rename_i other accepting
              have equal : other = result := Except.ok.inj (accepting.symm.trans accepted)
              subst equal
              refine ih.mpr ⟨more, ?_, Nat.succ.inj counted, ?_⟩
              · rw [same, List.append_assoc, List.singleton_append]
              · intro place next answer atRest atMore
                have later := each (place + 1) next answer atRest atMore
                rw [List.append_assoc, List.singleton_append, List.length_append,
                  List.length_singleton, Nat.add_assoc, Nat.add_comm 1 place]
                exact later
            · rename_i fault failed
              cases failed.symm.trans accepted

/-- Resolution finds the schedule that settles every entry. -/
theorem resolveAtDepth_iff {depth : Nat} :
    resolver.resolveAtDepth (depth + 1) leafTypes schedule = .ok resolved ↔
      resolver.Settles (resolver.resolveAtDepth depth) leafTypes schedule resolved := by
  have opened : resolver.resolveAtDepth (depth + 1) leafTypes schedule = .ok resolved ↔
      resolver.resolvePrefixWith (resolver.resolveAtDepth depth) leafTypes [] schedule
        = (resolved, none) := by
    rw [resolveAtDepth]
    constructor
    · intro accepted
      split at accepted
      · rename_i outcome prefixed
        cases accepted
        exact prefixed
      · cases accepted
    · intro prefixed
      rw [prefixed]
  rw [opened, resolvePrefixWith_iff]
  constructor
  · rintro ⟨more, same, counted, each⟩
    rw [List.nil_append] at same
    subst same
    refine ⟨counted, fun place entry result atPlace atResult => ?_⟩
    have here := each place entry result atPlace atResult
    rw [List.nil_append, List.length_nil, Nat.zero_add] at here
    exact here
  · rintro ⟨counted, each⟩
    refine ⟨resolved, rfl, counted, fun place entry result atPlace atResult => ?_⟩
    rw [List.nil_append, List.length_nil, Nat.zero_add]
    exact each place entry result atPlace atResult

end Resolver

/-! ### Runs -/

/-- The entries, the first of which has the given index, refer to entries before them. -/
def Schedule.RefersBack (first : Nat) (schedule : Schedule) : Prop :=
  ∀ (place : Nat) (entry : Entry) (reference : Reference), schedule[place]? = some entry →
    some reference ∈ entry.inbounds → reference.isBefore (first + place : Nat) = .ok true

theorem Resolver.ScheduleResolved.refersBack {resolver : Resolver} {leafTypes : LeafTypes}
    {schedule : Schedule} (certified : resolver.ScheduleResolved leafTypes schedule) :
    Schedule.RefersBack 0 schedule := by
  intro place entry reference placed member
  have before := (certified place entry placed).isBefore member
  have inside := (List.getElem?_eq_some_iff.mp placed).1
  rw [List.length_take, Nat.min_eq_left (Nat.le_of_lt inside)] at before
  rw [Nat.zero_add]
  exact before

theorem MessageStore.place_outside {store : MessageStore} {slot : Slot} {place : Nat}
    (known : slot.toIndex? = some (place : Int)) (outside : ¬ place < store.length) :
    store.place slot = .error (.lapsed .outOfRange) := by
  have forward : ¬ (place : Int) < 0 := by omega
  have beyond : ¬ (0 ≤ (place : Int) ∧ (place : Int) < store.length) := by omega
  simp only [MessageStore.place, Value.position, known, Value.place?, if_neg forward, if_neg beyond]

/-- Stores of one size that hold the same before a place answer references to that part alike. -/
theorem MessageStore.get_congr {first second : MessageStore} {bound : Nat} {reference : Reference}
    (sized : first.length = second.length) (alike : ∀ place < bound, first[place]? = second[place]?)
    (before : reference.isBefore bound = .ok true) :
    first.get reference.toValue = second.get reference.toValue := by
  have located : first.place reference.toValue = second.place reference.toValue := by
    rw [MessageStore.place, MessageStore.place, sized]
  rw [MessageStore.get, MessageStore.get, located]
  cases known : reference.toValue.toIndex? with
  | none =>
      have unfit : second.place reference.toValue = .error (.lapsed .wrongType) := by
        rw [MessageStore.place, Value.position, known]
      rw [unfit]
      rfl
  | some index =>
      have integral : reference.IsIndex := ⟨index, known⟩
      obtain ⟨place, placed, bounded⟩ := integral.place_eq before
      have same := Reference.place_eq_ok.mp placed
      by_cases inside : place < second.length
      · have here : second.place reference.toValue = .ok place :=
          Value.position_eq same ⟨Int.natCast_nonneg place, Int.ofNat_lt.mpr inside⟩ _
        rw [here, Partial.ok_bind, Partial.ok_bind, alike place bounded]
      · rw [MessageStore.place_outside same inside]
        rfl

theorem MessageStore.get_eq_ok {store : MessageStore} {slot : Slot} {place : Nat} {value : Value}
    (known : slot.toIndex? = some (place : Int)) :
    store.get slot = .ok value ↔ store[place]? = some value ∧ value ≠ .absent := by
  by_cases inside : place < store.length
  · have here : store.place slot = .ok place :=
      Value.position_eq known ⟨Int.natCast_nonneg place, Int.ofNat_lt.mpr inside⟩ _
    rw [MessageStore.get, here, Partial.ok_bind, List.getElem?_eq_getElem inside]
    cases store[place] with
    | absent =>
        constructor
        · intro impossible
          cases impossible
        · rintro ⟨same, present⟩
          exact absurd (Option.some.inj same).symm present
    | text _ | flag _ | whole _ | real _ | list _ | record _ | array _ | message _ =>
        constructor
        · intro same
          cases same
          refine ⟨rfl, ?_⟩
          intro impossible
          cases impossible
        · rintro ⟨same, _⟩
          cases same
          rfl
  · rw [MessageStore.get, MessageStore.place_outside known inside,
      List.getElem?_eq_none (Nat.le_of_not_lt inside)]
    constructor
    · intro impossible
      cases impossible
    · rintro ⟨impossible, _⟩
      cases impossible

namespace Machine

variable {machine : Machine} {prior : Marginals} {data : Buffers} {entry : Entry}

/-- The messages that the program inside a composite entry computes; the one that is taken out has to be
there. -/
def innerRun (machine : Machine) (prior : Marginals) (entry : Entry) (buffers : Buffers) :
    Except Fault (List Value) := do
  let body ← Emission.innerBody machine.network entry.inner
  let values ← (runFrom machine buffers (List.replicate (entry.inner.getD []).length .absent) prior
    body).store
  match Resolver.resultIndex? machine.network (machine.network.node entry.socket.node)
      entry.socket.slot (entry.inner.getD []) with
  | some place =>
    let _ ← MessageStore.get values (.whole place)
    return values
  | none => return values

/-- The instruction of an entry stores what the entry evaluates to, and does nothing else. -/
def Performs (machine : Machine) (prior : Marginals) (entry : Entry) : Prop :=
  ∀ index instruction data store,
    Emission.entryInstruction machine.network index entry = .ok instruction →
    step machine data store prior instruction
      = ⟨prior, machine.evaluateEntry prior (fun reference => store.get reference.toValue)
          (machine.innerRun prior entry) data entry >>= store.set (.whole index)⟩

/-- Running the instructions of entries leaves the marginals alone. -/
theorem runFrom_marginals {rest : Schedule} {first : Nat} {body : List Instruction}
    (performs : ∀ entry ∈ rest, machine.Performs prior entry)
    (emitted : Emission.scheduleInstructions machine.network first rest = .ok body)
    (data : Buffers) (store : MessageStore) :
    (runFrom machine data store prior body).marginals = prior := by
  induction rest generalizing first body store with
  | nil =>
      cases emitted
      rw [runFrom]
  | cons entry rest ih =>
      rw [Emission.scheduleInstructions] at emitted
      obtain ⟨instruction, here, emitted⟩ := bind_eq_ok.mp emitted
      obtain ⟨others, later, emitted⟩ := bind_eq_ok.mp emitted
      rw [← Except.ok.inj emitted, runFrom,
        performs entry List.mem_cons_self first instruction data store here]
      generalize (machine.evaluateEntry _ _ _ _ _ >>= store.set _) = stored
      cases stored with
      | error fault => rfl
      | ok updated =>
          exact ih (fun other member => performs other (List.mem_cons_of_mem _ member)) later updated

/-- An instruction that runs an inner program whose instructions perform their entries. -/
theorem performs_inner {inner : Schedule} {result : Nat}
    (inward : (machine.network.node entry.socket.node).isLeaf = false)
    (scheduled : ((machine.network.node entry.socket.node).innerSchedule?
      entry.socket.slot).isSome = true)
    (status : entry.status = .composite) (held : entry.inner = some inner)
    (located : Resolver.resultIndex? machine.network (machine.network.node entry.socket.node)
      entry.socket.slot inner = some result)
    (within : ∀ other ∈ inner, machine.Performs prior other) : machine.Performs prior entry := by
  intro index instruction data store emitted
  obtain ⟨body, place, inside, found, before, rfl⟩ :=
    Emission.entryInstruction_composite_inv status held emitted
  rw [located] at found
  cases found
  have room : inner.length ≤ body.length :=
    Nat.le_of_eq (Emission.scheduleInstructions_length inside).symm
  have quiet := runFrom_marginals within inside
  rw [step, evaluateEntry_inner inward scheduled, evaluateInner, enter, Emission.terminalFeeds,
    innerData_references machine.network before, MessageStore.forBody_eq room,
    resultPlace?_eq_some held located]
  unfold innerRun overlaid
  rw [held, Emission.innerBody_some, inside]
  cases (((machine.network.node entry.socket.node).terminals.eraseIdx entry.socket.slot).zip
      entry.inbounds).foldlM (feed machine.network fun reference => store.get reference.toValue)
      data with
  | error fault => rfl
  | ok buffers =>
      simp only [Partial.ok_bind, Partial.pure_eq_ok, quiet, Option.getD_some, located]
      cases (runFrom machine buffers (List.replicate inner.length .absent) prior body).store with
      | error fault => rfl
      | ok values =>
          simp only [Partial.ok_bind]
          cases gotten : MessageStore.get values (.whole result) with
          | error fault => rfl
          | ok value =>
              simp only [Partial.ok_bind, Option.bind_some, ((MessageStore.get_eq_ok rfl).mp gotten).1]

theorem performs_of_resolved {catalog : Catalog} {leafTypes : LeafTypes} {done : Schedule}
    (certified : Resolver.EntryResolved ⟨machine.network, catalog⟩ leafTypes done entry) :
    machine.Performs prior entry := by
  induction certified with
  | leaf outward arrives status supplied =>
      intro index instruction data store emitted
      rw [Emission.entryInstruction_leaf status] at emitted
      exact step_leaf outward emitted
  | rule inward plain chosen =>
      intro index instruction data store emitted
      rw [Emission.entryInstruction_rule chosen.status] at emitted
      exact step_rule inward plain emitted
  | composite inward scheduled arrives status held resolved last computed outbound ih =>
      refine performs_inner inward scheduled status held last ?_
      intro other member
      obtain ⟨place, placed⟩ := List.mem_iff_getElem?.mp member
      exact ih place other placed

theorem performs_of_certified {catalog : Catalog} {leafTypes : LeafTypes} {schedule : Schedule}
    (certified : Resolver.ScheduleResolved ⟨machine.network, catalog⟩ leafTypes schedule) :
    ∀ entry ∈ schedule, machine.Performs prior entry := by
  intro entry member
  obtain ⟨place, placed⟩ := List.mem_iff_getElem?.mp member
  exact performs_of_resolved (certified place entry placed)

/-- Every message is what its entry evaluates to, given the other messages. -/
def Fulfils (machine : Machine) (prior : Marginals) (data : Buffers) (schedule : Schedule)
    (values : List Value) : Prop :=
  values.length = schedule.length ∧
    ∀ (place : Nat) entry value, schedule[place]? = some entry → values[place]? = some value →
      machine.evaluateEntry prior (fun reference => MessageStore.get values reference.toValue)
        (machine.innerRun prior entry) data entry = .ok value

/-- The statement for the instructions that remain when some slots are filled. -/
theorem runFrom_ok_iff (data : Buffers) {rest : Schedule} {values : List Value}
    {body : List Instruction} (performs : ∀ entry ∈ rest, machine.Performs prior entry)
    (earlier : Schedule.RefersBack values.length rest)
    (emitted : Emission.scheduleInstructions machine.network values.length rest = .ok body)
    (final : MessageStore) :
    (runFrom machine data (values ++ List.replicate rest.length .absent) prior body).store = .ok final ↔
      ∃ more, final = values ++ more ∧ more.length = rest.length ∧
        ∀ (place : Nat) entry value, rest[place]? = some entry → more[place]? = some value →
          machine.evaluateEntry prior (fun reference => MessageStore.get final reference.toValue)
            (machine.innerRun prior entry) data entry = .ok value := by
  induction rest generalizing values body with
  | nil =>
      cases emitted
      rw [runFrom, List.length_nil, List.replicate_zero, List.append_nil]
      constructor
      · intro finished
        have same : values = final := Except.ok.inj finished
        refine ⟨[], same ▸ (List.append_nil values).symm, rfl, ?_⟩
        intro place entry value impossible
        cases impossible
      · rintro ⟨more, rfl, empty, _⟩
        rw [List.eq_nil_of_length_eq_zero empty, List.append_nil]
  | cons entry rest ih =>
      rw [Emission.scheduleInstructions] at emitted
      obtain ⟨instruction, here, emitted⟩ := bind_eq_ok.mp emitted
      obtain ⟨others, later, emitted⟩ := bind_eq_ok.mp emitted
      have stepped := performs entry List.mem_cons_self values.length instruction data
        (values ++ List.replicate (rest.length + 1) .absent) here
      have onwards : ∀ value, Emission.scheduleInstructions machine.network
          (values ++ [value]).length rest = .ok others := by
        intro value
        rw [List.length_append, List.length_singleton]
        exact later
      have beyond : ∀ value, Schedule.RefersBack (values ++ [value]).length rest := by
        intro value place other reference placed member
        have before := earlier (place + 1) other reference placed member
        rw [List.length_append, List.length_singleton, Nat.add_assoc, Nat.add_comm 1 place]
        exact before
      -- An entry reads only slots that are filled already and stay as they are.
      have evaluated : ∀ more : List Value, more.length = rest.length + 1 →
          machine.evaluateEntry prior (fun reference => MessageStore.get
              (values ++ List.replicate (rest.length + 1) .absent) reference.toValue)
              (machine.innerRun prior entry) data entry
            = machine.evaluateEntry prior (fun reference => MessageStore.get (values ++ more)
              reference.toValue) (machine.innerRun prior entry) data entry := by
        intro more counted
        apply evaluateEntry_congr
        intro reference member
        have before := earlier 0 entry reference rfl member
        refine MessageStore.get_congr ?_ ?_ before
        · rw [List.length_append, List.length_append, List.length_replicate, counted]
        · intro place inside
          rw [List.getElem?_append_left inside, List.getElem?_append_left inside]
      have following := fun value =>
        ih (fun other member => performs other (List.mem_cons_of_mem _ member)) (beyond value)
          (onwards value)
      rw [← Except.ok.inj emitted, List.length_cons, runFrom, stepped]
      constructor
      · intro finished
        cases computed : machine.evaluateEntry prior (fun reference => MessageStore.get
            (values ++ List.replicate (rest.length + 1) .absent) reference.toValue)
            (machine.innerRun prior entry) data entry with
        | error fault =>
            rw [computed] at finished
            cases finished
        | ok value =>
            rw [computed, Partial.ok_bind, MessageStore.set_next] at finished
            obtain ⟨more, same, counted, each⟩ := (following value).mp finished
            have counts : (value :: more).length = rest.length + 1 := by
              rw [List.length_cons, counted]
            refine ⟨value :: more, ?_, counts, ?_⟩
            · rw [same, List.append_assoc, List.singleton_append]
            · intro place other answer atRest atMore
              cases place with
              | zero =>
                  cases atRest
                  cases atMore
                  rw [evaluated _ counts] at computed
                  rw [same, List.append_assoc, List.singleton_append]
                  exact computed
              | succ place => exact each place other answer atRest atMore
      · rintro ⟨more, same, counted, each⟩
        cases more with
        | nil => cases counted
        | cons value more =>
            have first := each 0 entry value rfl rfl
            rw [same, ← evaluated _ counted] at first
            rw [first, Partial.ok_bind, MessageStore.set_next]
            refine (following value).mpr ⟨more, ?_, Nat.succ.inj counted, ?_⟩
            · rw [same, List.append_assoc, List.singleton_append]
            · intro place other answer atRest atMore
              exact each (place + 1) other answer atRest atMore

/-- The instructions of a resolved schedule, run on empty slots, compute the messages that fulfil all
entries, and leave the marginals alone. -/
theorem runFrom_resolved {catalog : Catalog} {leafTypes : LeafTypes} {schedule : Schedule}
    {body : List Instruction}
    (certified : Resolver.ScheduleResolved ⟨machine.network, catalog⟩ leafTypes schedule)
    (emitted : Emission.scheduleInstructions machine.network 0 schedule = .ok body) (values : List Value) :
    (runFrom machine data (List.replicate schedule.length .absent) prior body).store = .ok values ↔
      machine.Fulfils prior data schedule values := by
  have earlier : Schedule.RefersBack ([] : List Value).length schedule := certified.refersBack
  have performs : ∀ entry ∈ schedule, machine.Performs prior entry := performs_of_certified certified
  have whole := runFrom_ok_iff data performs earlier emitted values
  rw [List.nil_append] at whole
  rw [whole]
  constructor
  · rintro ⟨more, rfl, counted, each⟩
    exact ⟨counted, each⟩
  · rintro ⟨counted, each⟩
    exact ⟨values, rfl, counted, each⟩

end Machine

end SumProduct
