/-
Typed slots, and what is read from them.

The slots before a place hold messages of the types of their entries.  What arrives at an entry through
its references then has the types that resolution found for it: a sound rule turns it into a message of
the type of the entry, and the terminals of a composite node are fed with messages of the types that
resolution supplied for them.
-/

import SumProduct.Proofs.Runs
import SumProduct.Proofs.Soundness

set_option autoImplicit false

namespace SumProduct

open Partial (bind_eq_ok map_eq_ok mapM_eq_ok)

/-! ### Typed slots -/

/-- The slots before the given place hold messages of the types of their entries, the others are
empty. -/
structure Filled (schedule : Schedule) (store : MessageStore) (place : Nat) (values : List Value) :
    Prop where
  length : values.length = min place schedule.length
  store : store = values ++ List.replicate (schedule.length - place) .absent
  typed : ∀ (index : Nat) (value : Value), values[index]? = some value →
    ∃ entry, schedule[index]? = some entry ∧ value.HasType entry.outbound

section Filled

variable {schedule : Schedule} {store updated : MessageStore} {place : Nat} {values : List Value}
  {entry : Entry} {value : Value}

theorem Filled.present (filled : Filled schedule store place values) : .absent ∉ values := by
  intro absent
  obtain ⟨index, held⟩ := List.mem_iff_getElem?.mp absent
  obtain ⟨entry, _, typed⟩ := filled.typed index .absent held
  exact typed.present rfl

theorem Filled.fresh (schedule : Schedule) :
    Filled schedule (List.replicate schedule.length .absent) 0 [] := by
  refine ⟨?_, rfl, ?_⟩
  · rw [List.length_nil, Nat.zero_min]
  · intro index value impossible
    cases impossible

theorem Filled.length_eq (filled : Filled schedule store place values)
    (placed : schedule[place]? = some entry) : values.length = place := by
  have inside := (List.getElem?_eq_some_iff.mp placed).1
  rw [filled.length]
  omega

theorem Filled.set_eq (filled : Filled schedule store place values)
    (placed : schedule[place]? = some entry) (value : Value) :
    MessageStore.set store (.whole place) value
      = .ok ((values ++ [value]) ++ List.replicate (schedule.length - (place + 1)) .absent) := by
  have inside := (List.getElem?_eq_some_iff.mp placed).1
  have count : schedule.length - place = schedule.length - (place + 1) + 1 := by omega
  rw [filled.store, count, ← filled.length_eq placed]
  exact MessageStore.set_next _ value

/-- Storing a message of the type of the next entry. -/
theorem Filled.next (filled : Filled schedule store place values)
    (placed : schedule[place]? = some entry) (typed : value.HasType entry.outbound)
    (written : MessageStore.set store (.whole place) value = .ok updated) :
    Filled schedule updated (place + 1) (values ++ [value]) := by
  have inside := (List.getElem?_eq_some_iff.mp placed).1
  have length := filled.length_eq placed
  rw [filled.set_eq placed] at written
  refine ⟨?_, (Except.ok.inj written).symm, ?_⟩
  · rw [List.length_append, List.length_singleton, length]
    omega
  · intro index other held
    rcases Nat.lt_or_ge index values.length with old | new
    · rw [List.getElem?_append_left old] at held
      exact filled.typed index other held
    · rw [List.getElem?_append_right new] at held
      have only := (List.getElem?_eq_some_iff.mp held).1
      rw [List.length_singleton] at only
      have here : index = place := by omega
      subst here
      rw [length, Nat.sub_self] at held
      cases held
      exact ⟨entry, placed, typed⟩

theorem Filled.get_next (filled : Filled schedule store place values)
    (placed : schedule[place]? = some entry) (present : value ≠ .absent)
    (written : MessageStore.set store (.whole place) value = .ok updated) :
    MessageStore.get updated (.whole place) = .ok value := by
  have length := filled.length_eq placed
  rw [filled.set_eq placed] at written
  rw [← Except.ok.inj written]
  refine MessageStore.get_whole ?_ ?_
  · intro absent
    rcases List.mem_append.mp absent with old | new
    · exact filled.present old
    · exact present (List.mem_singleton.mp new).symm
  · rw [← length, List.getElem?_append_right (Nat.le_refl _), Nat.sub_self]
    rfl

end Filled

/-! ### Reading references -/

/-- What can be read through a reference is a message of the type that arrives there. -/
def Carries (earlier : Reference → Except Fault Value) : Option Reference → Option Pattern → Prop
  | none, type => type = none
  | some reference, type => ∀ value, earlier reference = .ok value → value.HasType type

theorem Reference.index_of_place {reference : Reference} {place : Nat}
    (placed : reference.place = .ok place) : reference.index? = some (place : Int) := by
  have known := Reference.place_eq_ok.mp placed
  cases reference with
  | entry index => exact known
  | given value =>
      cases value with
      | real number => cases known
      | absent | text _ | flag _ | whole _ | list _ | record _ | array _ | message _ => exact known

theorem Filled.carries {schedule : Schedule} {store : MessageStore} {place : Nat}
    {values : List Value} (filled : Filled schedule store place values) {found : Option Reference} {type : Option Pattern}
    (arrives : Resolver.Arrives (schedule.take place) found type) :
    Carries (fun reference => MessageStore.get store reference.toValue) found type := by
  cases found with
  | none => exact arrives
  | some reference =>
      obtain ⟨before, index, earlier, known, there, rfl⟩ := arrives
      intro value (gotten : MessageStore.get store reference.toValue = .ok value)
      have taken : (schedule.take place).length = values.length := by
        rw [List.length_take, filled.length]
      rw [taken] at before
      rw [filled.store, MessageStore.get_reference filled.present before] at gotten
      obtain ⟨slot, located, gotten⟩ := bind_eq_ok.mp gotten
      have same : index = (slot : Int) := by
        rw [Reference.index_of_place located] at known
        exact (Option.some.inj known).symm
      subst same
      split at gotten
      · rename_i held
        cases gotten
        obtain ⟨other, listed, typed⟩ := filled.typed slot value held
        rw [Schedule.entry?, if_pos (Int.natCast_nonneg slot), Int.toNat_natCast] at there
        have before : slot < place := by
          have bound := (List.getElem?_eq_some_iff.mp there).1
          rw [List.length_take] at bound
          omega
        have equal : schedule[slot]? = some earlier := by
          rw [← List.getElem?_take_of_lt before]
          exact there
        rw [listed] at equal
        cases equal
        exact typed
      · cases gotten

/-! ### Rules -/

section Rules

variable {earlier : Reference → Except Fault Value} {inbounds : List (Option Reference)}
  {arriving : List (Option Pattern)}

theorem fills_of_carries (carries : List.Forall₂ (Carries earlier) inbounds arriving)
    {values : List Value} (fetched : inbounds.mapM (Machine.arrival earlier) = .ok values) :
    List.Forall₂ Value.Fills values arriving := by
  have each := mapM_eq_ok.mp fetched
  clear fetched
  induction carries generalizing values with
  | nil =>
      cases each
      exact .nil
  | @cons found type inbounds arriving here _ ih =>
      cases each with
      | @cons _ value _ _ got others =>
          refine .cons ?_ (ih others)
          cases found with
          | none => exact Or.inr ⟨(Except.ok.inj got).symm, here⟩
          | some reference => exact Or.inl (here value got)

variable {library : Library} {machine : Machine} {done : Schedule} {entry : Entry}
  {candidate : Candidate} {type : MessageType} {category : Category}

/-- The rule of an entry yields a message of the type of the entry; an exact rule fails only for
numeric reasons, once everything that arrives can be read. -/
theorem Resolver.RuleChosen.evaluateRule_typed (fitted : library.Fitted)
    (implemented : machine.implementations = library.implementations)
    (chosen : Resolver.RuleChosen ⟨machine.network, library.catalog⟩ done entry arriving candidate type
      category) (carries : List.Forall₂ (Carries earlier) entry.inbounds arriving)
    (prior : Marginals) :
    (∀ value, machine.evaluateRule prior earlier entry = .ok value →
      value.HasType entry.outbound) ∧
    (category = .exact →
      (∀ reference, some reference ∈ entry.inbounds → ∃ value, earlier reference = .ok value) →
      ∀ fault, machine.evaluateRule prior earlier entry = .error fault → fault.IsNumeric) := by
  obtain ⟨member, sameCategory⟩ := chosen.rule_mem fitted.coherent
  obtain ⟨implementation, found, sound⟩ := fitted.sound candidate.rule member
  have typed := fitted.coherent.typed candidate.rule member
  have looked : machine.ruleNamed (entry.rule.getD .absent) = .ok implementation := by
    rw [← Machine.implementation_eq, chosen.rule, Option.getD_some, Machine.implementation,
      Key.key_toValue, Partial.ok_bind, implemented, found]
    rfl
  -- Once the values have been fetched, the rule is applied to messages of the arriving types.
  have applied : ∀ values, entry.inbounds.mapM (Machine.arrival earlier) = .ok values →
      let outcome := implementation ⟨machine.network, some entry.socket.node⟩ values
        (if entry.approximation.isSome then some prior else none)
      (∀ value, outcome = .ok value → value.HasType entry.outbound) ∧
        (category = .exact → ∀ fault, outcome = .error fault → fault.IsNumeric) := by
    intro values fetched
    have fills := fills_of_carries carries fetched
    have concrete : ∀ type ∈ arriving, IsConcrete type := by
      intro type listed
      obtain ⟨value, _, filled⟩ := Partial.exists_of_mem_right fills listed
      exact filled.isConcrete
    have produces := (chosen.fits.outbound_eq_ok_iff typed concrete).mp chosen.yields
    obtain ⟨assignment, under⟩ := produces.chosenUnder
    have handed : (if entry.approximation.isSome then some prior else none).isSome
        = candidate.rule.approximation.isSome := by
      rw [chosen.approximation]
      cases candidate.rule.approximation with
      | none => rfl
      | some method => rfl
    obtain ⟨delivers, proceeds⟩ := sound machine.network entry.socket.node assignment arriving type
      values _ under fills handed
    rw [chosen.outbound]
    refine ⟨delivers, fun exact => proceeds ?_⟩
    cases method : candidate.rule.approximation with
    | none => rfl
    | some method =>
        have approximate := typed.method.mpr (by rw [method]; rfl)
        rw [sameCategory, exact] at approximate
        cases approximate
  constructor
  · intro value evaluated
    rw [Machine.evaluateRule, looked, Partial.ok_bind] at evaluated
    obtain ⟨values, fetched, evaluated⟩ := bind_eq_ok.mp evaluated
    exact (applied values fetched).1 value evaluated
  · intro exact readable fault failed
    rw [Machine.evaluateRule, looked, Partial.ok_bind] at failed
    rcases Partial.bind_eq_error.mp failed with missing | ⟨values, fetched, failed⟩
    · obtain ⟨found, listed, missing⟩ := Partial.mapM_eq_error missing
      cases found with
      | none => cases missing
      | some reference =>
          obtain ⟨value, read⟩ := readable reference listed
          have impossible : earlier reference = .error fault := missing
          rw [read] at impossible
          cases impossible
    · exact (applied values fetched).2 exact fault failed

end Rules

/-! ### Terminals -/

/-- Every type that is supplied for a leaf is the type of the message under its name. -/
def Fed (types : LeafTypes) (buffers : Buffers) : Prop :=
  ∀ name type, types.get? name = some type →
    ∃ value, buffers.get? name = some value ∧ Value.HasType value type

theorem Fed.put {types : LeafTypes} {buffers : Buffers} (fed : Fed types buffers) (name : Key)
    {value : Value} {type : Option Pattern} (typed : value.HasType type) :
    Fed (Table.put name type types) (Table.put name value buffers) := by
  intro other found known
  rw [Table.get?_put] at known ⊢
  by_cases same : name.same other = true
  · rw [if_pos same] at known ⊢
    cases known
    exact ⟨value, rfl, typed⟩
  · rw [if_neg same] at known ⊢
    exact fed other found known

/-- Terminals are typed and fed in the same order. -/
theorem Fed.overlay {resolver : Resolver} {earlier : Reference → Except Fault Value}
    {inbounds : List (Option Reference)} {arriving : List (Option Pattern)}
    (carries : List.Forall₂ (Carries earlier) inbounds arriving) {terminals : List NodeKey}
    {types : LeafTypes} {buffers inner : Buffers} (fed : Fed types buffers)
    (overlaid : (terminals.zip inbounds).foldlM (Machine.feed resolver.network earlier) buffers
      = .ok inner) :
    Fed ((terminals.zip arriving).foldl resolver.supplyType types) inner := by
  induction carries generalizing terminals types buffers with
  | nil =>
      rw [List.zip_nil_right] at overlaid ⊢
      cases overlaid
      exact fed
  | @cons found type inbounds arriving here _ ih =>
      cases terminals with
      | nil =>
          cases overlaid
          exact fed
      | cons terminal terminals =>
          rw [List.zip_cons_cons, List.foldlM_cons] at overlaid
          rw [List.zip_cons_cons, List.foldl_cons]
          obtain ⟨next, stepped, overlaid⟩ := bind_eq_ok.mp overlaid
          cases found with
          | none =>
              have nothing : type = none := here
              cases stepped
              rw [nothing, Resolver.supplyType]
              exact ih fed overlaid
          | some reference =>
              obtain ⟨value, read, stepped⟩ := bind_eq_ok.mp stepped
              have typed : value.HasType type := here value read
              cases stepped
              obtain ⟨message, held, _, _, rfl⟩ := id typed
              exact ih (fed.put _ typed) overlaid

end SumProduct
