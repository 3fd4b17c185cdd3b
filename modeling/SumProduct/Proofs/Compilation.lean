/-
Compilation is correct: a compiled program computes the messages of its schedule.

The slots before the instruction that runs next hold the messages of the entries before it, and the
slots from there on are empty.  Every instruction keeps this, an instruction that runs an inner program
by the same statement about the inner schedule.
-/

import SumProduct.Proofs.Emission
import SumProduct.Proofs.Evaluation

set_option autoImplicit false

namespace SumProduct

open Partial (bind_eq_ok map_eq_ok mapM_eq_ok)

/-! ### Slots -/

theorem Value.position_eq {length : Nat} {slot : Value} {index : Int}
    (known : slot.toIndex? = some index) (bounds : 0 ≤ index ∧ index < length) (unfit : Lapse) :
    Value.position length slot unfit = .ok index.toNat := by
  have forward : ¬ (index < 0) := by omega
  simp only [Value.position, known, Value.place?, if_neg forward, if_pos bounds]

namespace MessageStore

section Slots

variable {values rest : List Value}

/-- A slot that has been filled is read at its place. -/
theorem get_filled (present : .absent ∉ values) {slot : Slot} {index : Int} {value : Value}
    (known : slot.toIndex? = some index) (nonnegative : 0 ≤ index)
    (held : values[index.toNat]? = some value) :
    MessageStore.get (values ++ rest) slot = .ok value := by
  have within : index.toNat < values.length := (List.getElem?_eq_some_iff.mp held).1
  have located : MessageStore.place (values ++ rest) slot = .ok index.toNat := by
    apply Value.position_eq known
    rw [List.length_append]
    omega
  have filled : value ≠ .absent := fun absent => present (absent ▸ List.mem_of_getElem? held)
  rw [MessageStore.get, located, Partial.ok_bind, List.getElem?_append_left within, held]
  cases value with
  | absent => exact absurd rfl filled
  | text _ | flag _ | whole _ | real _ | list _ | record _ | array _ | message _ => rfl

theorem get_whole (present : .absent ∉ values) {place : Nat} {value : Value}
    (held : values[place]? = some value) :
    MessageStore.get (values ++ rest) (.whole place) = .ok value :=
  get_filled present rfl (Int.natCast_nonneg place) held

theorem set_next (count : Nat) (value : Value) :
    MessageStore.set (values ++ List.replicate (count + 1) .absent) (.whole values.length) value
      = .ok ((values ++ [value]) ++ List.replicate count .absent) := by
  have known : (Value.whole values.length).toIndex? = some (values.length : Int) := rfl
  have located : MessageStore.place (values ++ List.replicate (count + 1) .absent)
      (.whole values.length) = .ok values.length := by
    apply Value.position_eq known
    rw [List.length_append, List.length_replicate]
    omega
  rw [MessageStore.set, located, Partial.ok_bind, List.set_append_right _ _ (Nat.le_refl _),
    Nat.sub_self, List.replicate_succ, List.set_cons_zero, List.append_assoc]
  rfl

/-- A reference to an earlier entry reads the slot of that entry. -/
theorem get_reference (present : .absent ∉ values) {reference : Reference}
    (before : reference.isBefore values.length = .ok true) :
    MessageStore.get (values ++ rest) reference.toValue
      = reference.place >>= fun place => match values[place]? with
          | some value => .ok value
          | none => .error (.lapsed .outOfRange) := by
  have reads : ∀ {slot : Value} {index : Int}, slot.toIndex? = some index →
      0 ≤ index ∧ index < values.length →
      MessageStore.get (values ++ rest) slot = match values[index.toNat]? with
        | some value => .ok value
        | none => .error (.lapsed .outOfRange) := by
    intro slot index known bounds
    have within : index.toNat < values.length := by omega
    have found := List.getElem?_eq_getElem within
    rw [get_filled present known bounds.1 found, found]
  have places : ∀ {index : Int}, reference.toValue.toIndex? = some index →
      0 ≤ index → reference.place = .ok index.toNat := by
    intro index known nonnegative
    rw [Reference.place, known]
    cases index with
    | ofNat place => rfl
    | negSucc place => exact absurd nonnegative (by simp)
  cases reference with
  | entry index =>
      have bounds := of_decide_eq_true (Except.ok.inj before)
      rw [reads rfl bounds, places rfl bounds.1, Partial.ok_bind]
  | given value =>
      cases known : value.toIndex? with
      | some index =>
          have bounds : 0 ≤ index ∧ index < values.length := by
            unfold Reference.isBefore at before
            split at before
            · rename_i other same
              cases same
            · rename_i number same
              cases same
              cases known
            · rename_i other _ same
              cases same
              rw [known] at before
              exact of_decide_eq_true (Except.ok.inj before)
          rw [Reference.toValue, reads known bounds, places known bounds.1, Partial.ok_bind]
      | none =>
          have unplaced : (Reference.given value).place = .error (.lapsed .wrongType) := by
            rw [Reference.place, Reference.toValue, known]
          have unfit : MessageStore.place (values ++ rest) value = .error (.lapsed .wrongType) := by
            unfold MessageStore.place Value.position
            rw [known]
          rw [Reference.toValue, MessageStore.get, unfit, unplaced]
          rfl

end Slots

end MessageStore

theorem MessageStore.forBody_eq {count : Nat} {body : List Instruction} (room : count ≤ body.length) :
    MessageStore.forBody (.whole count) body = .ok (List.replicate count .absent) := by
  have bounds : (0 : Int) ≤ count ∧ (count : Int) ≤ body.length := by omega
  rw [MessageStore.forBody, if_pos bounds]
  rfl

namespace Machine

section References

variable {machine : Machine} {store : MessageStore} {data : Buffers} {entry : Entry} {index : Nat}

theorem fetch_references (store : MessageStore) {inbounds : List (Option Reference)}
    (before : ∀ reference, some reference ∈ inbounds → reference.isBefore index = .ok true) :
    fetch store (inbounds.map Reference.optionValue)
      = inbounds.mapM (arrival fun reference => store.get reference.toValue) := by
  rw [fetch, List.mapM_map]
  apply Partial.mapM_congr
  intro found member
  cases found with
  | none => rfl
  | some reference =>
      have there := Reference.isAbsent_toValue (before reference member)
      simp only [Function.comp_apply, Reference.optionValue, there, Bool.false_eq_true, if_false,
        arrival]

theorem innerData_references (network : Network) {terminals : List NodeKey}
    {inbounds : List (Option Reference)}
    (before : ∀ reference, some reference ∈ inbounds → reference.isBefore index = .ok true) :
    innerData store data
        (((terminals.zip (inbounds.map Reference.optionValue)).filter fun pair =>
          !pair.2.isAbsent).map fun pair => ((network.node pair.1).id, pair.2))
      = (terminals.zip inbounds).foldlM
          (feed network fun reference => store.get reference.toValue) data := by
  induction terminals generalizing inbounds data with
  | nil => rfl
  | cons terminal terminals ih =>
      cases inbounds with
      | nil => rfl
      | cons found inbounds =>
          have later : ∀ reference, some reference ∈ inbounds →
              reference.isBefore index = .ok true :=
            fun reference member => before reference (List.mem_cons_of_mem found member)
          cases found with
          | none => exact ih later
          | some reference =>
              have there := Reference.isAbsent_toValue (before reference List.mem_cons_self)
              have kept : (!(reference.toValue.isAbsent)) = true := by rw [there]; rfl
              rw [List.map_cons, List.zip_cons_cons, List.zip_cons_cons, Reference.optionValue,
                List.filter_cons_of_pos (by exact kept), List.map_cons, innerData, List.foldlM_cons,
                List.foldlM_cons, feed]
              cases store.get reference.toValue with
              | error fault => rfl
              | ok value => exact ih later

theorem feed_congr {network : Network} {first second : Reference → Except Fault Value}
    {terminals : List NodeKey} {inbounds : List (Option Reference)}
    (same : ∀ reference, some reference ∈ inbounds → first reference = second reference) :
    (terminals.zip inbounds).foldlM (feed network first) data
      = (terminals.zip inbounds).foldlM (feed network second) data := by
  induction terminals generalizing inbounds data with
  | nil => rfl
  | cons terminal terminals ih =>
      cases inbounds with
      | nil => rfl
      | cons found inbounds =>
          have later : ∀ reference, some reference ∈ inbounds →
              first reference = second reference :=
            fun reference member => same reference (List.mem_cons_of_mem found member)
          rw [List.zip_cons_cons, List.foldlM_cons, List.foldlM_cons]
          cases found with
          | none => exact ih later
          | some reference =>
              rw [feed, feed, same reference List.mem_cons_self]
              cases second reference with
              | error fault => rfl
              | ok value => exact ih later

theorem evaluateEntry_congr {prior : Marginals} {first second : Reference → Except Fault Value}
    {inner : Buffers → Except Fault (List Value)}
    (same : ∀ reference, some reference ∈ entry.inbounds → first reference = second reference) :
    machine.evaluateEntry prior first inner data entry
      = machine.evaluateEntry prior second inner data entry := by
  have overlay : machine.overlaid first data entry = machine.overlaid second data entry :=
    feed_congr same
  have fetched : entry.inbounds.mapM (arrival first) = entry.inbounds.mapM (arrival second) := by
    apply Partial.mapM_congr
    intro found member
    cases found with
    | none => rfl
    | some reference => exact same reference member
  unfold evaluateEntry evaluateInner evaluateRule
  rw [overlay, fetched]

end References

/-! ### One instruction -/

section Step

variable {machine : Machine} {catalog : Catalog} {marginals : Marginals} {data : Buffers}
  {leafTypes : LeafTypes} {done : Schedule} {entry : Entry} {index : Nat} {instruction : Instruction}
  {store : MessageStore} {inner : Buffers → Except Fault (List Value)}

theorem step_leaf (outward : (machine.network.node entry.socket.node).isLeaf = true)
    (emitted : Emission.leafInstruction machine.network index entry = .ok instruction) :
    step machine data store marginals instruction
      = ⟨marginals, machine.evaluateEntry marginals (fun reference => store.get reference.toValue)
          inner data entry >>= store.set (.whole index)⟩ := by
  have observed : ∀ buffer place, instruction = .injectData (.whole index) buffer place →
      step machine data store marginals instruction
        = ⟨marginals, delivered data buffer place >>= store.set (.whole index)⟩ := by
    intro buffer place same
    rw [same, step, ← observe_eq]
    cases data.observe buffer place with
    | error fault => rfl
    | ok message => rfl
  unfold Emission.leafInstruction at emitted
  cases role : (machine.network.node entry.socket.node).role with
  | terminal =>
      simp only [Node.isTerminal, role, if_true] at emitted
      simp only [evaluateEntry, role]
      exact observed _ _ (Except.ok.inj emitted).symm
  | constant held =>
      simp only [Node.isTerminal, role, Bool.false_eq_true, if_false] at emitted
      simp only [evaluateEntry, role, ← placeholder?_eq]
      cases bound : machine.network.placeholder? entry.socket.node with
      | some binding =>
          rw [bound] at emitted
          exact observed _ _ (Except.ok.inj emitted).symm
      | none =>
          rw [bound] at emitted
          obtain ⟨value, taken, rest⟩ := bind_eq_ok.mp emitted
          rw [Node.held, role] at taken
          cases taken
          obtain ⟨message, converted, last⟩ := bind_eq_ok.mp rest
          rw [← Except.ok.inj last, step, converted]
          rfl
  | factor | gain _ | composite _ _ _ =>
      simp only [Node.isLeaf, role] at outward
      cases outward

theorem step_rule (inward : (machine.network.node entry.socket.node).isLeaf = false)
    (plain : (machine.network.node entry.socket.node).innerSchedule? entry.socket.slot = none)
    (emitted : Emission.ruleInstruction machine.network index entry = .ok instruction) :
    step machine data store marginals instruction
      = ⟨marginals, machine.evaluateEntry marginals (fun reference => store.get reference.toValue)
          inner data entry >>= store.set (.whole index)⟩ := by
  obtain ⟨before, rfl⟩ := Emission.ruleInstruction_inv emitted
  have evaluated : machine.evaluateEntry marginals (fun reference => store.get reference.toValue)
        inner data entry
      = machine.applyRule store marginals (entry.rule.getD .absent) entry.socket.node
          (entry.inbounds.map Reference.optionValue) entry.approximation := by
    rw [evaluateEntry_rule inward plain, evaluateRule, applyRule, prepare, implementation_eq,
      fetch_references store before]
    cases machine.ruleNamed (entry.rule.getD .absent) with
    | error fault => rfl
    | ok implementation =>
        cases entry.inbounds.mapM (arrival fun reference => store.get reference.toValue) with
        | error fault => rfl
        | ok arriving => rfl
  rw [step, evaluated]

theorem messages_length {values : List Value} {schedule : Schedule}
    (computed : machine.messages marginals data schedule = .ok values) :
    values.length = schedule.length := by
  have related := (mapM_eq_ok.mp computed).length_eq
  rw [List.length_range] at related
  exact related.symm

theorem messages_present (answers : machine.AlwaysAnswers) {values : List Value} {schedule : Schedule}
    (computed : machine.messages marginals data schedule = .ok values) : .absent ∉ values := by
  intro absent
  obtain ⟨place, _, evaluated⟩ := Partial.exists_of_mem_right (mapM_eq_ok.mp computed) absent
  exact message_present answers evaluated rfl

theorem message_of_messages {values : List Value} {schedule : Schedule}
    (computed : machine.messages marginals data schedule = .ok values) {place : Nat} {value : Value}
    (held : values[place]? = some value) :
    machine.message marginals data schedule place = .ok value := by
  have related := mapM_eq_ok.mp computed
  have inside := (List.getElem?_eq_some_iff.mp held).1
  have ranged : place < (List.range schedule.length).length := by
    rw [related.length_eq]
    exact inside
  have evaluated := related.get ranged inside
  rw [List.get_eq_getElem, List.get_eq_getElem, List.getElem_range] at evaluated
  rw [evaluated, (List.getElem?_eq_some_iff.mp held).2]

theorem conclude_store {values store : List Value} {schedule : Schedule}
    {targets : List VariableKey}
    (finished : (machine.conclude schedule values marginals targets).store = .ok store) :
    values = store := by
  induction targets generalizing marginals with
  | nil => exact Except.ok.inj finished
  | cons target targets ih =>
      rw [conclude] at finished
      split at finished
      · exact ih finished
      · cases finished

/-- An instruction that runs an inner program, provided that the program computes the messages of the
inner schedule. -/
theorem step_composite (answers : machine.AlwaysAnswers)
    (inward : (machine.network.node entry.socket.node).isLeaf = false)
    (scheduled : ((machine.network.node entry.socket.node).innerSchedule?
      entry.socket.slot).isSome = true)
    {within : Schedule} (held : entry.inner = some within) {result : Nat} {last : Entry}
    (located : Resolver.resultIndex? machine.network (machine.network.node entry.socket.node)
      entry.socket.slot within = some result) (computed : within[result]? = some last)
    {body : List Instruction} (room : within.length ≤ body.length)
    (runs : ∀ buffers, runFrom machine buffers (List.replicate within.length .absent) marginals body
      = ⟨marginals, machine.messages marginals buffers within⟩)
    (emitted : Emission.innerInstruction machine.network index entry within body = .ok instruction) :
    step machine data store marginals instruction
      = ⟨marginals, machine.evaluateEntry marginals (fun reference => store.get reference.toValue)
          (machine.innerMessages marginals entry) data entry >>= store.set (.whole index)⟩ := by
  obtain ⟨before, found, same, rfl⟩ := Emission.innerInstruction_inv emitted
  rw [located] at same
  cases same
  rw [step, evaluateEntry_inner inward scheduled, evaluateInner, enter, Emission.terminalFeeds,
    innerData_references machine.network before, MessageStore.forBody_eq room,
    resultPlace?_eq_some held located]
  unfold innerMessages overlaid
  rw [held]
  cases (((machine.network.node entry.socket.node).terminals.eraseIdx entry.socket.slot).zip
      entry.inbounds).foldlM (feed machine.network fun reference => store.get reference.toValue)
      data with
  | error fault => rfl
  | ok buffers =>
      simp only [Partial.ok_bind, Partial.pure_eq_ok, runs]
      cases evaluated : machine.messages marginals buffers within with
      | error fault => rfl
      | ok values =>
          have inside : result < values.length := by
            rw [messages_length evaluated]
            exact (List.getElem?_eq_some_iff.mp computed).1
          have found := List.getElem?_eq_getElem inside
          have gotten : MessageStore.get (values ++ []) (.whole result) = .ok values[result] :=
            MessageStore.get_whole (messages_present answers evaluated) found
          rw [List.append_nil] at gotten
          simp only [Partial.ok_bind, Option.bind_some, found]
          rw [gotten]
          rfl

end Step

/-! ### Whole programs -/

/-- The instruction of an entry stores the message of the entry. -/
def StoresMessage (machine : Machine) (marginals : Marginals) (entry : Entry) : Prop :=
  ∀ index instruction data store,
    Emission.entryInstruction machine.network index entry = .ok instruction →
    step machine data store marginals instruction
      = ⟨marginals, machine.evaluateEntry marginals (fun reference => store.get reference.toValue)
          (machine.innerMessages marginals entry) data entry >>= store.set (.whole index)⟩

section Run

variable {machine : Machine} {catalog : Catalog} {marginals : Marginals} {data : Buffers}
  {leafTypes : LeafTypes} {schedule : Schedule} {body : List Instruction}

/-- The values are the messages of the first entries. -/
structure Computed (machine : Machine) (marginals : Marginals) (data : Buffers) (schedule : Schedule)
    (values : List Value) : Prop where
  present : .absent ∉ values
  each : ∀ place value, values[place]? = some value →
    machine.message marginals data schedule place = .ok value

theorem Computed.append (answers : machine.AlwaysAnswers) {values : List Value} {value : Value}
    (computed : machine.Computed marginals data schedule values)
    (next : machine.message marginals data schedule values.length = .ok value) :
    machine.Computed marginals data schedule (values ++ [value]) := by
  constructor
  · intro absent
    rcases List.mem_append.mp absent with old | new
    · exact computed.present old
    · exact message_present answers next (List.mem_singleton.mp new).symm
  · intro place other held
    rcases Nat.lt_or_ge place values.length with old | new
    · rw [List.getElem?_append_left old] at held
      exact computed.each place other held
    · rw [List.getElem?_append_right new] at held
      have only := (List.getElem?_eq_some_iff.mp held).1
      rw [List.length_singleton] at only
      have same : place = values.length := by omega
      subst same
      rw [Nat.sub_self] at held
      cases held
      exact next

/-- Filled slots answer references as the messages of their entries do. -/
theorem Computed.get_eq_arrivingMessage {values rest : List Value}
    (computed : machine.Computed marginals data schedule values) {reference : Reference}
    (before : reference.isBefore values.length = .ok true) :
    MessageStore.get (values ++ rest) reference.toValue
      = machine.arrivingMessage marginals data schedule values.length reference := by
  rw [MessageStore.get_reference computed.present before, arrivingMessage]
  cases reference.place with
  | error fault => rfl
  | ok place =>
      rw [Partial.ok_bind, Partial.ok_bind]
      cases held : values[place]? with
      | none =>
          have outside : ¬ place < values.length := by
            have missing := List.getElem?_eq_none_iff.mp held
            omega
          rw [if_neg outside]
          rfl
      | some value =>
          rw [if_pos (List.getElem?_eq_some_iff.mp held).1, computed.each place value held]

/-- The step lemma: the next instruction stores the message of the next entry. -/
theorem Computed.step_eq {values : List Value} (rest : List Value)
    (computed : machine.Computed marginals data schedule values)
    (certified : Resolver.ScheduleResolved ⟨machine.network, catalog⟩ leafTypes schedule)
    {entry : Entry} (placed : schedule[values.length]? = some entry)
    (stores : machine.StoresMessage marginals entry) {instruction : Instruction}
    (emitted : Emission.entryInstruction machine.network values.length entry = .ok instruction) :
    step machine data (values ++ rest) marginals instruction
      = ⟨marginals, machine.message marginals data schedule values.length
          >>= MessageStore.set (values ++ rest) (.whole values.length)⟩ := by
  have inside := (List.getElem?_eq_some_iff.mp placed).1
  have taken : (schedule.take values.length).length = values.length := by
    rw [List.length_take]
    omega
  have evaluated : machine.evaluateEntry marginals
        (fun reference => MessageStore.get (values ++ rest) reference.toValue)
        (machine.innerMessages marginals entry) data entry
      = machine.message marginals data schedule values.length := by
    rw [message_eq placed]
    apply evaluateEntry_congr
    intro reference found
    have earlier := (certified values.length entry placed).isBefore found
    rw [taken] at earlier
    exact computed.get_eq_arrivingMessage earlier
  rw [stores values.length instruction data (values ++ rest) emitted, evaluated]

/-- The run lemma: the remaining instructions store the messages of the remaining entries. -/
theorem Computed.runFrom_eq (answers : machine.AlwaysAnswers)
    (certified : Resolver.ScheduleResolved ⟨machine.network, catalog⟩ leafTypes schedule)
    (stores : ∀ entry ∈ schedule, machine.StoresMessage marginals entry)
    {rest : Schedule} {values : List Value} (remaining : schedule.drop values.length = rest)
    (computed : machine.Computed marginals data schedule values)
    (emitted : Emission.scheduleInstructions machine.network values.length rest = .ok body) :
    runFrom machine data (values ++ List.replicate rest.length .absent) marginals body
      = ⟨marginals, ((List.range' values.length rest.length).mapM
          (machine.message marginals data schedule)).map (values ++ ·)⟩ := by
  induction rest generalizing values body with
  | nil =>
      cases emitted
      rw [List.length_nil, List.replicate_zero, List.append_nil, runFrom]
      simp
  | cons entry rest ih =>
      rw [Emission.scheduleInstructions] at emitted
      obtain ⟨instruction, here, emitted⟩ := bind_eq_ok.mp emitted
      obtain ⟨others, later, emitted⟩ := bind_eq_ok.mp emitted
      have placed : schedule[values.length]? = some entry := by
        have first : (schedule.drop values.length)[0]? = schedule[values.length + 0]? :=
          List.getElem?_drop
        rw [remaining, Nat.add_zero] at first
        exact first.symm
      have stepped := computed.step_eq (List.replicate (rest.length + 1) .absent) certified
        placed (stores entry (List.mem_of_getElem? placed)) here
      rw [← Except.ok.inj emitted, List.length_cons, runFrom, stepped, List.range'_succ,
        List.mapM_cons]
      cases result : machine.message marginals data schedule values.length with
      | error fault => rfl
      | ok value =>
          have longer : (values ++ [value]).length = values.length + 1 := by simp
          have dropped : schedule.drop (values ++ [value]).length = rest := by
            rw [longer, ← List.drop_drop, remaining]
            rfl
          have onwards := ih dropped (computed.append answers result) (by rw [longer]; exact later)
          rw [longer] at onwards
          rw [Partial.ok_bind, MessageStore.set_next, Partial.ok_bind]
          simp only [onwards]
          cases (List.range' (values.length + 1) rest.length).mapM
              (machine.message marginals data schedule) with
          | error fault => rfl
          | ok more => simp

/-- The instructions of a schedule compute its messages. -/
theorem runFrom_schedule (answers : machine.AlwaysAnswers)
    (certified : Resolver.ScheduleResolved ⟨machine.network, catalog⟩ leafTypes schedule)
    (stores : ∀ entry ∈ schedule, machine.StoresMessage marginals entry)
    (emitted : Emission.scheduleInstructions machine.network 0 schedule = .ok body) :
    runFrom machine data (List.replicate schedule.length .absent) marginals body
      = ⟨marginals, machine.messages marginals data schedule⟩ := by
  have nothing : machine.Computed marginals data schedule [] :=
    ⟨List.not_mem_nil, fun _ _ held => nomatch held⟩
  have everything : schedule.drop ([] : List Value).length = schedule := List.drop_zero
  have whole := nothing.runFrom_eq answers certified stores everything emitted
  rw [List.nil_append] at whole
  rw [whole, messages, List.range_eq_range']
  cases (List.range' 0 schedule.length).mapM (machine.message marginals data schedule) with
  | error fault => simp
  | ok values => simp

/-- Every certified entry is stored by its instruction, whatever its nesting. -/
theorem storesMessage_of_resolved (answers : machine.AlwaysAnswers) {done : Schedule} {entry : Entry}
    (certified : Resolver.EntryResolved ⟨machine.network, catalog⟩ leafTypes done entry) :
    machine.StoresMessage marginals entry := by
  induction certified with
  | leaf outward arrives status supplied =>
      intro index instruction data store emitted
      rw [Emission.entryInstruction_leaf status] at emitted
      exact step_leaf outward emitted
  | rule inward plain chosen =>
      intro index instruction data store emitted
      rw [Emission.entryInstruction_rule chosen.status] at emitted
      exact step_rule inward plain emitted
  | composite inward scheduled arrives status held resolved last computed outbound ih =>
      intro index instruction data store emitted
      rw [Emission.entryInstruction_composite status, held] at emitted
      obtain ⟨body, within, emitted⟩ := bind_eq_ok.mp emitted
      rw [Emission.innerBody_some] at within
      refine step_composite answers inward scheduled held last computed
        (Nat.le_of_eq (Emission.scheduleInstructions_length within).symm) ?_ emitted
      intro buffers
      refine runFrom_schedule answers resolved ?_ within
      intro other member
      obtain ⟨place, placed⟩ := List.mem_iff_getElem?.mp member
      exact ih place other placed

theorem runFrom_append (machine : Machine) (data : Buffers) (store : MessageStore)
    (marginals : Marginals) (first second : List Instruction) :
    runFrom machine data store marginals (first ++ second)
      = match runFrom machine data store marginals first with
        | ⟨after, .ok updated⟩ => runFrom machine data updated after second
        | ⟨after, .error fault⟩ => ⟨after, .error fault⟩ := by
  induction first generalizing store marginals with
  | nil => rw [List.nil_append, runFrom]
  | cons instruction first ih =>
      rw [List.cons_append, runFrom, runFrom]
      rcases step machine data store marginals instruction with ⟨after, fault | updated⟩
      · rfl
      · exact ih updated after

theorem get_eq_sent {values : List Value} (present : .absent ∉ values)
    (complete : values.length = schedule.length) {socket : Socket} {place : Nat}
    (located : schedule.indexOf socket = some place) :
    MessageStore.get values (.whole place) = sent schedule values socket := by
  have inside : place < values.length := by
    rw [complete]
    exact Schedule.indexOf_lt located
  have found := List.getElem?_eq_getElem inside
  have gotten : MessageStore.get (values ++ []) (.whole place) = .ok values[place] :=
    MessageStore.get_whole present found
  rw [List.append_nil] at gotten
  rw [gotten, sent_eq located found]

/-- The instructions for the targets multiply the messages on the first edge of each. -/
theorem runFrom_targets {values : List Value} (present : .absent ∉ values)
    (complete : values.length = schedule.length) {slots : SocketIndex} (indexes : slots.Indexes schedule)
    {targets : List VariableKey} {closing : List Instruction}
    (emitted : targets.mapM (Emission.marginalInstruction machine.network slots) = .ok closing) :
    runFrom machine data values marginals closing
      = machine.conclude schedule values marginals targets := by
  induction targets generalizing marginals closing with
  | nil =>
      have nothing : [] = closing := Except.ok.inj emitted
      rw [← nothing, runFrom, conclude]
  | cons target targets ih =>
      rw [List.mapM_cons] at emitted
      obtain ⟨instruction, here, emitted⟩ := bind_eq_ok.mp emitted
      obtain ⟨others, later, emitted⟩ := bind_eq_ok.mp emitted
      obtain ⟨key, keys, first, second, carried, foundFirst, foundSecond, rfl⟩ :=
        Emission.marginalInstruction_inv here
      rw [indexes] at foundFirst foundSecond
      have single : machine.marginal schedule values target
          = machine.combined schedule values (machine.network.edge key) := by
        simp only [marginal, carried]
      have multiplied : (do
            let left ← MessageStore.get values (.whole first)
            let right ← MessageStore.get values (.whole second)
            machine.product left right)
          = machine.combined schedule values (machine.network.edge key) := by
        rw [get_eq_sent present complete foundFirst, get_eq_sent present complete foundSecond]
        rfl
      rw [← Except.ok.inj emitted, runFrom, conclude, step, single, multiplied]
      cases machine.combined schedule values (machine.network.edge key) with
      | error fault => rfl
      | ok product => exact ih later

/-- A compiled program run on a fresh store is the evaluation of its schedule: slots hold the messages
of the entries, and marginals are products of messages. -/
theorem execute_eq_evaluation (answers : machine.AlwaysAnswers) {depth : Nat} {resolved : Schedule}
    (accepted : Resolver.resolveAtDepth ⟨machine.network, catalog⟩ depth leafTypes schedule
      = .ok resolved) {targets : List VariableKey} {program : Program}
    (emitted : Emission.program machine.network resolved targets = .ok program) (data : Buffers)
    (prior : Marginals) :
    machine.execute program data prior = machine.evaluation resolved targets data prior ∧
      ∀ store, (machine.execute program data prior).store = .ok store →
        store.length = resolved.length ∧
        ∀ place value, store[place]? = some value →
          value ≠ .absent ∧ machine.message prior data resolved place = .ok value := by
  have certified := Resolver.resolveAtDepth_resolved accepted
  have stores : ∀ entry ∈ resolved, machine.StoresMessage prior entry := by
    intro entry member
    obtain ⟨place, placed⟩ := List.mem_iff_getElem?.mp member
    exact storesMessage_of_resolved answers (certified place entry placed)
  obtain ⟨body, closing, within, after, rfl⟩ := Emission.program_eq_ok.mp emitted
  have room : resolved.length ≤ (body ++ closing).length := by
    rw [List.length_append, Emission.scheduleInstructions_length within]
    omega
  have executed : machine.execute ⟨body ++ closing, .whole resolved.length⟩ data prior
      = machine.evaluation resolved targets data prior := by
    rw [execute, MessageStore.forBody_eq room]
    simp only
    rw [runFrom_append, runFrom_schedule answers certified stores within, evaluation]
    cases computed : machine.messages prior data resolved with
    | error fault => rfl
    | ok values =>
        exact runFrom_targets (messages_present answers computed) (messages_length computed)
          resolved.slots_indexes after
  refine ⟨executed, ?_⟩
  intro store finished
  rw [executed, evaluation] at finished
  cases computed : machine.messages prior data resolved with
  | error fault =>
      rw [computed] at finished
      cases finished
  | ok values =>
      rw [computed] at finished
      have same := conclude_store finished
      subst same
      refine ⟨messages_length computed, fun place value held => ⟨?_, ?_⟩⟩
      · exact fun absent => messages_present answers computed (absent ▸ List.mem_of_getElem? held)
      · exact message_of_messages computed held

end Run

/-- A composite node between a constant and a terminal; inside, a relay joins its two terminals. -/
def relayed : Network where
  nodes := #[
    { id := "p", graph := 0, kind := .text "Pair",
      role := .composite (some 1) [2, 3]
        [(0, [{ socket := ⟨3, 0⟩ }, { socket := ⟨4, 0⟩, inbounds := [some (.entry 0)] }])],
      interfaces := [{ name := "a", edge := some 0 }, { name := "b", edge := some 1 }] },
    { id := "c", graph := 0, kind := .text "Constant", role := .constant (.whole 2),
      interfaces := [{ name := "out", edge := some 1 }] },
    { id := "a", graph := 1, kind := .text "Terminal", role := .terminal,
      interfaces := [{ name := "out", edge := some 2 }] },
    { id := "b", graph := 1, kind := .text "Terminal", role := .terminal,
      interfaces := [{ name := "out", edge := some 3 }] },
    { id := "r", graph := 1, kind := .text "Relay", role := .factor,
      interfaces := [{ name := "x", edge := some 2 }, { name := "y", edge := some 3 }] },
    { id := "t", graph := 0, kind := .text "Terminal", role := .terminal,
      interfaces := [{ name := "out", edge := some 0 }] }]
  edges := #[
    { id := "e0", first := ⟨0, 0⟩, second := ⟨5, 0⟩, carried := .variable 0 },
    { id := "e1", first := ⟨0, 1⟩, second := ⟨1, 0⟩, carried := .variable 1 },
    { id := "e2", first := ⟨2, 0⟩, second := ⟨4, 0⟩, carried := .variable 2 },
    { id := "e3", first := ⟨3, 0⟩, second := ⟨4, 1⟩, carried := .variable 3 }]
  vars := #[
    { id := "v0", edges := [0] }, { id := "v1", edges := [1] },
    { id := "v2", edges := [2] }, { id := "v3", edges := [3] }]

def relaying : Machine where
  network := relayed
  implementations := [("relay", fun _ arriving _ => match arriving with
    | [.message message] => .ok (.message message)
    | _ => .error (.lapsed .wrongType))]

theorem relaying_answers : relaying.AlwaysAnswers := by
  intro name implementation member site arriving marginals
  cases List.mem_singleton.mp member
  intro answered
  simp only at answered
  split at answered
  · cases answered
  · cases answered

def relayCatalog : Catalog := Catalog.built [
  { id := "relay", kind := "Relay", slot := .whole 0, inbound := [.typed ⟨"PointMass", []⟩],
    outbound := .typed ⟨"PointMass", []⟩ }]

def relaySchedule : Schedule :=
  [{ socket := ⟨1, 0⟩ }, { socket := ⟨0, 0⟩, inbounds := [some (.entry 0)] }, { socket := ⟨5, 0⟩ }]

/-- The run ends: the relay is carried out inside the composite node, and the marginal on its slot toward the
terminal is the product of what the relay passes on and what the terminal receives. -/
theorem execute_eq_evaluation_relaying : ∃ resolved program store,
    Resolver.resolveAtDepth ⟨relayed, relayCatalog⟩ 2 [("t", some (.typed ⟨"Gaussian", []⟩))]
      relaySchedule = .ok resolved ∧
    Emission.program relayed resolved [0] = .ok program ∧
    relaying.execute program [("t", .message (.gaussian 0 1))] []
      = relaying.evaluation resolved [0] [("t", .message (.gaussian 0 1))] [] ∧
    (relaying.execute program [("t", .message (.gaussian 0 1))] []).store = .ok store ∧
    store.length = resolved.length ∧
    ∀ place value, store[place]? = some value →
      value ≠ .absent ∧
        relaying.message [] [("t", .message (.gaussian 0 1))] resolved place = .ok value := by
  have accepted : ∃ resolved, Resolver.resolveAtDepth ⟨relaying.network, relayCatalog⟩ 2
      [("t", some (.typed ⟨"Gaussian", []⟩))] relaySchedule = .ok resolved ∧
      ∃ program, Emission.program relaying.network resolved [0] = .ok program ∧
        ∃ store, (relaying.execute program [("t", .message (.gaussian 0 1))] []).store = .ok store :=
    ⟨_, rfl, _, rfl, _, rfl⟩
  obtain ⟨resolved, accepting, program, emitting, store, finished⟩ := accepted
  obtain ⟨executed, stored⟩ := execute_eq_evaluation relaying_answers accepting emitting
    [("t", .message (.gaussian 0 1))] []
  obtain ⟨counted, each⟩ := stored store finished
  exact ⟨resolved, program, store, accepting, emitting, executed, finished, counted, each⟩

end Machine

end SumProduct
