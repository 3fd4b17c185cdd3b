/-
Exact programs do not go wrong on shapes.

Where every entry of a compiled schedule has an exact rule, a rule application stores a message or fails
because of the numbers that it met.  Matching and the requirements of the rules have ruled out every
call with the wrong number of messages or with dimensions that do not belong together.
-/

import SumProduct.Proofs.Preservation

set_option autoImplicit false

namespace SumProduct

open Partial (bind_eq_ok)

/-- The reference is an integer. -/
def Reference.IsIndex (reference : Reference) : Prop :=
  ∃ index, reference.toValue.toIndex? = some index

theorem Reference.IsIndex.place_eq {reference : Reference} (integral : reference.IsIndex)
    {bound : Nat} (before : reference.isBefore bound = .ok true) :
    ∃ place, reference.place = .ok place ∧ place < bound := by
  obtain ⟨index, known⟩ := integral
  have compared : 0 ≤ index ∧ index < bound := by
    cases reference with
    | entry earlier =>
        cases known
        exact of_decide_eq_true (Except.ok.inj before)
    | given value =>
        unfold Reference.isBefore at before
        split at before
        · rename_i impossible
          cases impossible
        · rename_i number same
          cases same
          cases known
        · rename_i other _ same
          cases same
          have found : value.toIndex? = some index := known
          rw [found] at before
          exact of_decide_eq_true (Except.ok.inj before)
  refine ⟨index.toNat, ?_, by omega⟩
  rw [Reference.place, known]
  cases index with
  | ofNat place => rfl
  | negSucc place => exact absurd compared.1 (by simp)

/-- References to earlier entries can be read. -/
theorem Filled.readable {schedule : Schedule} {store : MessageStore} {place : Nat}
    {values : List Value} (filled : Filled schedule store place values) {reference : Reference}
    (integral : reference.IsIndex) (before : reference.isBefore (schedule.take place).length = .ok true) :
    ∃ value, MessageStore.get store reference.toValue = .ok value := by
  have taken : (schedule.take place).length = values.length := by
    rw [List.length_take, filled.length]
  rw [taken] at before
  obtain ⟨slot, located, bound⟩ := integral.place_eq before
  refine ⟨values[slot], ?_⟩
  rw [filled.store, MessageStore.get_reference filled.present before, located, Partial.ok_bind,
    List.getElem?_eq_getElem bound]

/-- No approximation computes the entry, and its references are integers. -/
structure Entry.IsExact (entry : Entry) : Prop where
  status : entry.status ≠ .approximate
  indices : ∀ reference, some reference ∈ entry.inbounds → reference.IsIndex

namespace Machine

variable {machine : Machine} {library : Library} {leafTypes : LeafTypes} {schedule : Schedule}
  {data : Buffers} {store : MessageStore} {marginals : Marginals} {place : Nat} {entry : Entry}

/-- An instruction that applies a rule belongs to an entry for which a rule was chosen. -/
theorem Ready.applies {target rule : Value} {node : NodeKey} {slots : List Slot}
    {approximation : Option Method} {rest : List Instruction}
    (ready : machine.Ready library.catalog leafTypes schedule data store marginals place
      (.applyRule target rule node slots approximation :: rest))
    (placed : schedule[place]? = some entry) :
    (machine.network.node entry.socket.node).isLeaf = false ∧
      (machine.network.node entry.socket.node).innerSchedule? entry.socket.slot = none ∧
      ∃ arriving candidate type category,
        Resolver.RuleChosen ⟨machine.network, library.catalog⟩ (schedule.take place) entry arriving
          candidate type category := by
  have here := ready.here placed
  cases ready.certified place entry placed with
  | leaf outward arrives status supplied =>
      rw [Emission.entryInstruction_leaf status] at here
      rcases Emission.leafInstruction_inv here with ⟨_, _, impossible⟩ | ⟨_, impossible⟩
      · cases impossible
      · cases impossible
  | composite inward scheduled arrives status held =>
      obtain ⟨_, _, _, _, _, impossible⟩ :=
        Emission.entryInstruction_composite_inv status held here
      cases impossible
  | rule inward plain chosen => exact ⟨inward, plain, _, _, _, _, chosen⟩

/-- The next rule application succeeds or fails for numeric reasons. -/
theorem Ready.apply_safe (fitted : library.Fitted)
    (implemented : machine.implementations = library.implementations) {target rule : Value}
    {node : NodeKey} {slots : List Slot} {approximation : Option Method} {rest : List Instruction}
    (ready : machine.Ready library.catalog leafTypes schedule data store marginals place
      (.applyRule target rule node slots approximation :: rest))
    (placed : schedule[place]? = some entry) (exact : entry.IsExact) :
    Safely (fun updated => ∃ message, MessageStore.get updated (.whole place) = .ok (.message message))
      (step machine data store marginals (.applyRule target rule node slots approximation)).store := by
  obtain ⟨inward, plain, arriving, candidate, type, category, chosen⟩ := ready.applies placed
  obtain ⟨values, filled⟩ := ready.filled
  rw [ready.step_rule placed inward plain chosen.status]
  obtain ⟨typed, numeric⟩ :=
    chosen.evaluateRule_typed fitted implemented (ready.carries chosen.arrives) marginals
  have certain : category = .exact := by
    cases category with
    | exact => rfl
    | approximate => exact absurd chosen.status exact.status
  have readable : ∀ reference, some reference ∈ entry.inbounds →
      ∃ value, MessageStore.get store reference.toValue = .ok value := by
    intro reference member
    have before := (ready.certified place entry placed).isBefore member
    exact filled.readable (exact.indices reference member) before
  cases evaluated : machine.evaluateRule marginals (fun reference => store.get reference.toValue)
      entry with
  | error fault => exact numeric certain readable fault evaluated
  | ok value =>
      have delivered := typed value evaluated
      have written := filled.set_eq placed value
      rw [Partial.ok_bind, written]
      have gotten := filled.get_next placed delivered.present written
      obtain ⟨message, _, rfl, _⟩ := delivered
      exact ⟨message, gotten⟩

/-- Progress: in a run of a compiled program without approximations every rule application stores a
message, or fails with a zero divisor, a singular matrix, a matrix that is not finite or disagreeing
points, provided that constants and the terminals of the program itself deliver messages of their
types. -/
theorem rule_applications_proceed
    (implemented : machine.implementations = Bundled.library.implementations) {depth : Nat}
    {resolved : Schedule}
    (accepted : Resolver.resolveAtDepth ⟨machine.network, Bundled.library.catalog⟩ depth leafTypes
      schedule = .ok resolved)
    (exact : ∀ path entry, resolved.entryAlong path = some entry → entry.IsExact)
    {targets : List VariableKey} {program : Program}
    (emitted : Emission.program machine.network resolved targets = .ok program) {prior : Marginals}
    (leaves : ∀ path moment entry value, machine.Reached program data prior path moment →
      resolved.entryAlong path = some entry → machine.IsGiven path entry →
      machine.StoresAt moment value → value.HasType entry.outbound) :
    ∀ path moment target rule node slots approximation,
      machine.Reached program data prior path moment →
      moment.instruction = .applyRule target rule node slots approximation →
      (∃ message, machine.StoresAt moment (.message message)) ∨
        ∃ fault, (machine.outcomeAt moment).store = .error fault ∧ fault.IsNumeric := by
  intro path moment target rule node slots approximation reached applied
  rcases reached.ready Bundled.library_fitted implemented accepted emitted leaves with
    ⟨name, first, second, closing⟩ | ⟨types, within, place, entry, rest, _, along, there, level⟩
  · rw [applied] at closing
    cases closing
  · have same := (level.certified place entry there).target_eq (level.here there)
    rw [applied] at level same
    have safe := level.apply_safe Bundled.library_fitted implemented there
      (exact path entry along)
    unfold StoresAt outcomeAt
    rw [applied, same]
    cases computed : (step machine moment.data moment.store moment.marginals
        (.applyRule target rule node slots approximation)).store with
    | ok updated =>
        rw [computed] at safe
        obtain ⟨message, gotten⟩ := safe
        exact Or.inl ⟨message, updated, rfl, gotten⟩
    | error fault =>
        rw [computed] at safe
        exact Or.inr ⟨fault, rfl, safe⟩

theorem boxed_exact (path : List Nat) (entry : Entry)
    (along : boxedResolved.entryAlong path = some entry) : entry.IsExact := by
  have nowhere : ∀ path found, Schedule.entryAlong [] path = some found → found.IsExact := by
    intro path found impossible
    rw [Schedule.entryAlong_nil] at impossible
    cases impossible
  have reads : ∀ reference : Reference, some reference ∈ [some (Reference.entry 0)] →
      reference.IsIndex := by
    intro reference member
    cases List.mem_singleton.mp member
    exact ⟨0, rfl⟩
  refine Schedule.entryAlong_all ?_ along
  intro entry member
  simp only [boxedResolved, List.mem_cons, List.not_mem_nil, or_false] at member
  rcases member with rfl | rfl
  · exact ⟨⟨by decide, fun _ impossible => (List.not_mem_nil impossible).elim⟩, nowhere⟩
  · refine ⟨⟨by decide, reads⟩, fun path found => Schedule.entryAlong_all ?_⟩
    intro entry member
    simp only [Entry.within, if_true, Option.getD_some, List.mem_cons, List.not_mem_nil,
      or_false] at member
    rcases member with rfl | rfl
    · exact ⟨⟨by decide, fun _ impossible => (List.not_mem_nil impossible).elim⟩, nowhere⟩
    · exact ⟨⟨by decide, reads⟩, nowhere⟩

def boxedApplication : Moment where
  data := [("b", boxedNumber)]
  store := [boxedNumber, .absent]
  marginals := []
  instruction := .applyRule (.whole 1) (.text "fixed_gain_in_sp_pm") 4 [.whole 0] none

theorem boxed_applies : boxing.Reached boxedProgram [] [] [1, 1] boxedApplication :=
  ⟨[.absent, .absent], rfl, .next rfl (.inside rfl (.next rfl .now))⟩

theorem rule_applications_proceed_boxed :
    boxing.Reached boxedProgram [] [] [1, 1] boxedApplication ∧
      ((∃ message, boxing.StoresAt boxedApplication (.message message)) ∨
        ∃ fault, (boxing.outcomeAt boxedApplication).store = .error fault ∧ fault.IsNumeric) := by
  refine ⟨boxed_applies, ?_⟩
  exact rule_applications_proceed boxing_implemented boxed_accepted boxed_exact boxed_emitted
    boxed_leaves [1, 1] boxedApplication (.whole 1) (.text "fixed_gain_in_sp_pm") 4 [.whole 0] none
    boxed_applies rfl

end Machine

end SumProduct
