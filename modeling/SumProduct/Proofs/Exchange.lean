/-
Independent entries commute.

Two neighbouring entries of a schedule that do not refer to each other, and that compute messages on
different sockets, may be exchanged if the references of later entries are renumbered.  Resolution finds
the same rules and types, emission succeeds for the same targets, and runs give the same marginals.
-/

import SumProduct.Proofs.Reordering

set_option autoImplicit false

namespace SumProduct

/-- Where the entry at a place is after the entries at `index` and `index + 1` have been exchanged. -/
def exchangePlace (index : Nat) : Equiv.Perm Nat := Equiv.swap index (index + 1)

/-- A reference to one of the two points to its new place. -/
def Reference.renumber (index : Nat) (reference : Reference) : Reference :=
  match reference.place with
  | .ok place =>
    if exchangePlace index place = place then reference else .entry (exchangePlace index place : Nat)
  | .error _ => reference

def Entry.renumber (index : Nat) (entry : Entry) : Entry :=
  entry.withInbounds (entry.inbounds.map (Option.map (Reference.renumber index)))

/-- The entries at `index` and `index + 1` exchanged, and the references to them in all later entries
renumbered. -/
def Schedule.exchange (index : Nat) (schedule : Schedule) : Schedule :=
  match schedule.drop index with
  | first :: second :: rest => schedule.take index ++ second :: first :: rest.map (Entry.renumber index)
  | _ => schedule

/-- The entries at `index` and `index + 1` are independent: neither refers to one of the two, and they
compute messages on different sockets.  All references are integers. -/
structure Schedule.Independent (index : Nat) (schedule : Schedule) : Prop where
  inside : index + 1 < schedule.length
  integral : ∀ (place : Nat) entry reference, schedule[place]? = some entry →
    some reference ∈ entry.inbounds → reference.IsIndex
  unreferred : ∀ (place : Nat) entry reference, place = index ∨ place = index + 1 →
    schedule[place]? = some entry → some reference ∈ entry.inbounds →
      reference.place ≠ .ok index ∧ reference.place ≠ .ok (index + 1)
  apart : ∀ first second, schedule[index]? = some first → schedule[index + 1]? = some second →
    first.socket ≠ second.socket

/-! ### Places and references -/

section Places

variable {index place : Nat}

theorem exchangePlace_first (index : Nat) : exchangePlace index index = index + 1 :=
  Equiv.swap_apply_left index (index + 1)

theorem exchangePlace_second (index : Nat) : exchangePlace index (index + 1) = index :=
  Equiv.swap_apply_right index (index + 1)

theorem exchangePlace_elsewhere (first : place ≠ index) (second : place ≠ index + 1) :
    exchangePlace index place = place := Equiv.swap_apply_of_ne_of_ne first second

theorem exchangePlace_cases (index place : Nat) :
    place = index ∧ exchangePlace index place = index + 1 ∨
      place = index + 1 ∧ exchangePlace index place = index ∨
      (place ≠ index ∧ place ≠ index + 1) ∧ exchangePlace index place = place := by
  by_cases first : place = index
  · subst first
    exact Or.inl ⟨rfl, exchangePlace_first place⟩
  · by_cases second : place = index + 1
    · subst second
      exact Or.inr (Or.inl ⟨rfl, exchangePlace_second index⟩)
    · exact Or.inr (Or.inr ⟨⟨first, second⟩, exchangePlace_elsewhere first second⟩)

theorem Reference.place_renumber (index : Nat) (reference : Reference) :
    (reference.renumber index).place = reference.place.map (exchangePlace index) := by
  unfold Reference.renumber
  cases placed : reference.place with
  | error fault =>
      simp only [placed]
      rfl
  | ok place =>
      by_cases unmoved : exchangePlace index place = place
      · simp only [if_pos unmoved]
        rw [placed, Partial.map_ok, unmoved]
      · simp only [if_neg unmoved]
        rfl

theorem Reference.IsIndex.renumber {reference : Reference} (integral : reference.IsIndex) (index : Nat) :
    (reference.renumber index).IsIndex := by
  unfold Reference.renumber
  split
  · split
    · exact integral
    · exact ⟨_, rfl⟩
  · exact integral

theorem Reference.follows_renumber {reference : Reference} (integral : reference.IsIndex)
    (after : index + 1 < place) :
    reference.Follows (exchangePlace index) place (reference.renumber index) := by
  refine ⟨integral, integral.renumber index, fun earlier => ?_⟩
  have unmoved : exchangePlace index place = place := exchangePlace_elsewhere (by omega) (by omega)
  have order : exchangePlace index earlier < place ↔ earlier < place := by
    rcases exchangePlace_cases index earlier with ⟨_, moved⟩ | ⟨_, moved⟩ | ⟨_, moved⟩
    · omega
    · omega
    · rw [moved]
  rw [Reference.place_renumber, unmoved, order, Partial.map_eq_ok]
  constructor
  · rintro ⟨placed, before⟩
    exact ⟨⟨earlier, placed, rfl⟩, before⟩
  · rintro ⟨⟨other, placed, same⟩, before⟩
    rw [(exchangePlace index).injective same] at placed
    exact ⟨placed, before⟩

theorem Reference.follows_same {reference : Reference} (integral : reference.IsIndex)
    (upto : place ≤ index + 1)
    (unreferred : place = index ∨ place = index + 1 →
      reference.place ≠ .ok index ∧ reference.place ≠ .ok (index + 1)) :
    reference.Follows (exchangePlace index) place reference := by
  refine ⟨integral, integral, fun earlier => ?_⟩
  have places := exchangePlace_cases index place
  -- A reference to one of the two would have to come from the other, which has none.
  rcases exchangePlace_cases index earlier with ⟨rfl, moved⟩ | ⟨rfl, moved⟩ | ⟨⟨first, second⟩, moved⟩
  · rw [moved]
    constructor
    · rintro ⟨placed, before⟩
      exact absurd placed (unreferred (by omega)).1
    · rintro ⟨_, before⟩
      omega
  · rw [moved]
    constructor
    · rintro ⟨_, before⟩
      omega
    · rintro ⟨placed, before⟩
      exact absurd placed (unreferred (by omega)).1
  · have order : earlier < exchangePlace index place ↔ earlier < place := by omega
    rw [moved, order]

end Places

/-! ### Entries and schedules -/

/-- An entry after an exchange: only those after the two are renumbered. -/
def Entry.moved (index place : Nat) (entry : Entry) : Entry :=
  if index + 1 < place then entry.renumber index else entry

section Schedules

variable {index place : Nat} {schedule : Schedule}

theorem Schedule.exchange_append (front : Schedule) (first second : Entry) (rest : Schedule) :
    Schedule.exchange front.length (front ++ first :: second :: rest)
      = front ++ second :: first :: rest.map (Entry.renumber front.length) := by
  rw [Schedule.exchange, List.drop_left, List.take_left]

theorem Schedule.exists_neighbours (inside : index + 1 < schedule.length) :
    ∃ front first second rest, schedule = front ++ first :: second :: rest ∧ front.length = index := by
  have here : index < schedule.length := by omega
  refine ⟨schedule.take index, schedule[index], schedule[index + 1], schedule.drop (index + 2), ?_, ?_⟩
  · have parts := List.take_append_drop index schedule
    rw [List.drop_eq_getElem_cons here, List.drop_eq_getElem_cons inside] at parts
    exact parts.symm
  · rw [List.length_take]
    omega

theorem Schedule.getElem?_exchange (inside : index + 1 < schedule.length) (place : Nat) :
    (schedule.exchange index)[exchangePlace index place]?
      = schedule[place]?.map (Entry.moved index place) := by
  obtain ⟨front, first, second, rest, rfl, rfl⟩ := Schedule.exists_neighbours inside
  rw [Schedule.exchange_append]
  have unchanged : ¬ front.length + 1 < place →
      Entry.moved front.length place = (id : Entry → Entry) := by
    intro upto
    funext entry
    exact if_neg upto
  rcases exchangePlace_cases front.length place with ⟨rfl, moved⟩ | ⟨rfl, moved⟩ | ⟨different, moved⟩
  · rw [moved, unchanged (by omega), List.getElem?_append_right (by omega),
      List.getElem?_append_right (by omega)]
    simp
  · rw [moved, unchanged (by omega), List.getElem?_append_right (by omega),
      List.getElem?_append_right (by omega)]
    simp
  · rw [moved]
    by_cases before : place < front.length
    · rw [unchanged (by omega), List.getElem?_append_left before, List.getElem?_append_left before,
        Option.map_id]
      rfl
    · obtain ⟨distance, rfl⟩ : ∃ distance, place = front.length + (distance + 2) :=
        ⟨place - front.length - 2, by omega⟩
      have renumbered : Entry.moved front.length (front.length + (distance + 2))
          = Entry.renumber front.length := by
        funext entry
        exact if_pos (by omega)
      rw [renumbered, List.getElem?_append_right (by omega), List.getElem?_append_right (by omega),
        Nat.add_sub_cancel_left]
      simp

theorem Schedule.length_exchange (inside : index + 1 < schedule.length) :
    (schedule.exchange index).length = schedule.length := by
  obtain ⟨front, first, second, rest, rfl, rfl⟩ := Schedule.exists_neighbours inside
  rw [Schedule.exchange_append]
  simp

theorem Schedule.Independent.entry_follows (independent : Schedule.Independent index schedule)
    {entry : Entry} (present : schedule[place]? = some entry) :
    entry.Follows (exchangePlace index) place (entry.moved index place) := by
  have integral := fun reference => independent.integral place entry reference present
  unfold Entry.moved
  by_cases after : index + 1 < place
  · rw [if_pos after]
    refine ⟨rfl, ?_⟩
    rw [Entry.renumber, Entry.withInbounds, List.forall₂_map_right_iff, List.forall₂_same]
    intro found member
    cases found with
    | none => exact .none
    | some reference => exact .some (Reference.follows_renumber (integral reference member) after)
  · rw [if_neg after]
    refine ⟨entry.withInbounds_own.symm, ?_⟩
    rw [List.forall₂_same]
    intro found member
    cases found with
    | none => exact .none
    | some reference =>
        have unreferred := fun atTwo => independent.unreferred place entry reference atTwo present member
        exact .some
          (Reference.follows_same (integral reference member) (Nat.le_of_not_lt after) unreferred)

/-- To exchange independent entries is to reorder the schedule. -/
theorem Schedule.Independent.reorders (independent : Schedule.Independent index schedule) :
    Schedule.Reorders (exchangePlace index) schedule (schedule.exchange index) := by
  refine ⟨Schedule.length_exchange independent.inside, ?_, ?_⟩
  · intro place
    rw [Schedule.getElem?_exchange independent.inside]
    cases present : schedule[place]? with
    | none => exact .none
    | some entry => exact .some (independent.entry_follows present)
  · intro first second entry next atFirst atSecond same before
    have firstCases := exchangePlace_cases index first
    have secondCases := exchangePlace_cases index second
    -- Only between the two themselves would the order change.
    by_cases both : first = index ∧ second = index + 1
    · obtain ⟨rfl, rfl⟩ := both
      exact absurd same (independent.apart entry next atFirst atSecond)
    · omega

end Schedules

/-! ### Resolution, emission and runs -/

section Commuting

variable {resolver : Resolver} {depth : Nat} {leafTypes : LeafTypes} {schedule resolved results : Schedule}
  {index : Nat}

theorem Entry.moved_withInbounds {entry result : Entry} (place : Nat)
    (same : result.inbounds = entry.inbounds) :
    result.moved index place = result.withInbounds (entry.moved index place).inbounds := by
  unfold Entry.moved
  split
  · rw [Entry.renumber, Entry.renumber, same]
    rfl
  · rw [← same]
    exact result.withInbounds_own.symm

theorem Resolver.results_exchanged (independent : Schedule.Independent index schedule)
    (accepted : resolver.resolveAtDepth depth leafTypes schedule = .ok resolved)
    (acceptedMoved : resolver.resolveAtDepth depth leafTypes (schedule.exchange index) = .ok results)
    (reorders : Schedule.Reorders (exchangePlace index) resolved results) :
    results = resolved.exchange index := by
  obtain ⟨counted, mirrors⟩ := Resolver.resolveAtDepth_mirrors accepted
  obtain ⟨_, mirrorsMoved⟩ := Resolver.resolveAtDepth_mirrors acceptedMoved
  have inside : index + 1 < resolved.length := counted ▸ independent.inside
  apply List.ext_getElem?
  intro target
  obtain ⟨place, rfl⟩ := (exchangePlace index).surjective target
  rw [Schedule.getElem?_exchange inside]
  cases present : resolved[place]? with
  | none =>
      have placed := reorders.placed place
      rw [present] at placed
      generalize results[exchangePlace index place]? = there at placed
      cases placed
      rfl
  | some result =>
      obtain ⟨moved, there, follows⟩ := reorders.moved present
      obtain ⟨entry, here, _, inbounds⟩ := mirrors place result present
      obtain ⟨source, atSource, _, inboundsMoved⟩ := mirrorsMoved _ moved there
      rw [Schedule.getElem?_exchange independent.inside, here] at atSource
      rw [there, follows.same, inboundsMoved, ← Option.some.inj atSource, Option.map_some,
        Entry.moved_withInbounds place inbounds]

end Commuting

/-- Independent entries commute: exchanging them leaves everything that resolution decides as it is, up to
the renumbering, and neither what can be emitted nor what a run computes changes. -/
theorem Machine.independent_entries_commute (machine : Machine) (catalog : Catalog) (depth : Nat)
    (leafTypes : LeafTypes) {schedule : Schedule} {index : Nat}
    (independent : Schedule.Independent index schedule) :
    (∀ results, Resolver.resolveAtDepth ⟨machine.network, catalog⟩ depth leafTypes
        (schedule.exchange index) = .ok results ↔
      ∃ resolved, Resolver.resolveAtDepth ⟨machine.network, catalog⟩ depth leafTypes schedule
        = .ok resolved ∧ results = resolved.exchange index) ∧
    ∀ resolved, Resolver.resolveAtDepth ⟨machine.network, catalog⟩ depth leafTypes schedule
        = .ok resolved → ∀ targets,
      ((∃ other, Emission.program machine.network (resolved.exchange index) targets = .ok other) ↔
        ∃ program, Emission.program machine.network resolved targets = .ok program) ∧
      ∀ program other, Emission.program machine.network resolved targets = .ok program →
        Emission.program machine.network (resolved.exchange index) targets = .ok other →
        ∀ data prior marginals, machine.run other data prior = .ok marginals ↔
          machine.run program data prior = .ok marginals := by
  have reorders := independent.reorders
  have forward : ∀ resolved, Resolver.resolveAtDepth ⟨machine.network, catalog⟩ depth leafTypes schedule
        = .ok resolved →
      Resolver.resolveAtDepth ⟨machine.network, catalog⟩ depth leafTypes (schedule.exchange index)
        = .ok (resolved.exchange index) ∧
      Schedule.Reorders (exchangePlace index) resolved (resolved.exchange index) := by
    intro resolved accepted
    obtain ⟨results, acceptedMoved, reordered⟩ := Resolver.resolveAtDepth_reordered reorders accepted
    rw [← Resolver.results_exchanged independent accepted acceptedMoved reordered]
    exact ⟨acceptedMoved, reordered⟩
  constructor
  · intro results
    constructor
    · intro acceptedMoved
      obtain ⟨resolved, accepted, _⟩ := Resolver.resolveAtDepth_reordered reorders.symm acceptedMoved
      have same := acceptedMoved.symm.trans (forward resolved accepted).1
      exact ⟨resolved, accepted, Except.ok.inj same⟩
    · rintro ⟨resolved, accepted, rfl⟩
      exact (forward resolved accepted).1
  · intro resolved accepted targets
    obtain ⟨acceptedMoved, reordered⟩ := forward resolved accepted
    have certified := Resolver.resolveAtDepth_resolved accepted
    have certifiedMoved := Resolver.resolveAtDepth_resolved acceptedMoved
    refine ⟨⟨?_, ?_⟩, ?_⟩
    · rintro ⟨other, emitted⟩
      exact Emission.program_reordered reordered.symm certifiedMoved certified.refersBack emitted
    · rintro ⟨program, emitted⟩
      exact Emission.program_reordered reordered certified certifiedMoved.refersBack emitted
    · intro program other emitted emittedMoved data prior marginals
      constructor
      · exact Machine.run_reordered reordered.symm certifiedMoved certified emittedMoved emitted
      · exact Machine.run_reordered reordered certified certifiedMoved emitted emittedMoved

namespace Machine

/-- The terminal and the constant at the two ends of the composite node, then the message through it. -/
def relayEnds : Schedule :=
  [{ socket := ⟨5, 0⟩ }, { socket := ⟨1, 0⟩ }, { socket := ⟨0, 0⟩, inbounds := [some (.entry 1)] }]

theorem relayEnds_independent : Schedule.Independent 0 relayEnds := by
  have referring : ∀ (place : Nat) entry reference, relayEnds[place]? = some entry →
      some reference ∈ entry.inbounds → place = 2 ∧ reference = .entry 1 := by
    intro place entry reference present member
    match place with
    | 0 | 1 =>
        cases present
        cases member
    | 2 =>
        cases present
        exact ⟨rfl, Option.some.inj (List.mem_singleton.mp member)⟩
    | place + 3 => cases present
  refine ⟨by decide, ?_, ?_, ?_⟩
  · intro place entry reference present member
    obtain ⟨_, rfl⟩ := referring place entry reference present member
    exact ⟨1, rfl⟩
  · intro place entry reference atTwo present member
    obtain ⟨rfl, _⟩ := referring place entry reference present member
    omega
  · rintro first second ⟨⟩ ⟨⟩
    decide

theorem independent_entries_commute_relaying : ∃ resolved program other marginals,
    Resolver.resolveAtDepth ⟨relayed, relayCatalog⟩ 2 [("t", some (.typed ⟨"PointMass", []⟩))]
      relayEnds = .ok resolved ∧
    Resolver.resolveAtDepth ⟨relayed, relayCatalog⟩ 2 [("t", some (.typed ⟨"PointMass", []⟩))]
      [{ socket := ⟨1, 0⟩ }, { socket := ⟨5, 0⟩ }, { socket := ⟨0, 0⟩, inbounds := [some (.entry 0)] }]
      = .ok (resolved.exchange 0) ∧
    Emission.program relayed resolved [0] = .ok program ∧
    Emission.program relayed (resolved.exchange 0) [0] = .ok other ∧
    relaying.run program [("t", .whole 2)] [] = .ok marginals ∧
    relaying.run other [("t", .whole 2)] [] = .ok marginals := by
  have accepted : ∃ resolved, Resolver.resolveAtDepth ⟨relaying.network, relayCatalog⟩ 2
      [("t", some (.typed ⟨"PointMass", []⟩))] relayEnds = .ok resolved ∧
      ∃ program, Emission.program relaying.network resolved [0] = .ok program ∧
      ∃ marginals, relaying.run program [("t", .whole 2)] [] = .ok marginals :=
    ⟨_, rfl, _, rfl, _, rfl⟩
  obtain ⟨resolved, accepting, program, emitting, marginals, running⟩ := accepted
  obtain ⟨resolves, commute⟩ := independent_entries_commute relaying relayCatalog 2
    [("t", some (.typed ⟨"PointMass", []⟩))] relayEnds_independent
  obtain ⟨emits, runs⟩ := commute resolved accepting [0]
  obtain ⟨other, emittingMoved⟩ := emits.mpr ⟨program, emitting⟩
  refine ⟨resolved, program, other, marginals, accepting, ?_, emitting, emittingMoved, running, ?_⟩
  · exact (resolves _).mpr ⟨resolved, accepting, rfl⟩
  · exact (runs program other emitting emittingMoved _ _ _).mpr running

end Machine

end SumProduct
