/-
What a run does to the marginals.

The marginals of the targets are computed last, after all messages.  So every rule, at whatever depth it is
applied, sees the marginals that the run began with, and a run that completes has changed nothing in them
but the entries of its targets.
-/

import SumProduct.Proofs.Marginals

set_option autoImplicit false

namespace SumProduct

open Partial (bind_eq_ok)

/-! ### The marginals of the targets -/

namespace Machine

variable {machine : Machine} {schedule : Schedule} {values final : List Value}
  {targets : List VariableKey} {key : Key} {prior marginals : Marginals}

/-- A key that names no target keeps its entry. -/
theorem conclude_kept
    (concluded : machine.conclude schedule values prior targets = ⟨marginals, .ok final⟩)
    (apart : ∀ target ∈ targets, (machine.network.var target).id.same key = false) :
    marginals.get? key = prior.get? key := by
  induction targets generalizing prior with
  | nil =>
      rw [conclude] at concluded
      cases concluded
      rfl
  | cons target rest ih =>
      rw [conclude] at concluded
      split at concluded
      · have different : ¬ (machine.network.var target).id.same key = true := by
          rw [apart target List.mem_cons_self]
          exact Bool.false_ne_true
        rw [ih concluded fun other later => apart other (List.mem_cons_of_mem target later),
          Table.get?_put, if_neg different]
      · cases concluded

/-- A key that names a target, or had an entry before, has one afterwards. -/
theorem conclude_present
    (concluded : machine.conclude schedule values prior targets = ⟨marginals, .ok final⟩)
    (known : (∃ target ∈ targets, (machine.network.var target).id.same key = true) ∨
      ∃ value, prior.get? key = some value) :
    ∃ value, marginals.get? key = some value := by
  induction targets generalizing prior with
  | nil =>
      rw [conclude] at concluded
      cases concluded
      rcases known with ⟨_, impossible, _⟩ | before
      · cases impossible
      · exact before
  | cons target rest ih =>
      rw [conclude] at concluded
      split at concluded
      · apply ih concluded
        rw [Table.get?_put]
        by_cases here : (machine.network.var target).id.same key = true
        · exact Or.inr ⟨_, if_pos here⟩
        · rw [if_neg here]
          rcases known with ⟨other, member, named⟩ | before
          · rcases List.mem_cons.mp member with rfl | later
            · exact absurd named here
            · exact Or.inl ⟨other, later, named⟩
          · exact Or.inr before
      · cases concluded

end Machine

/-! ### Rules and the marginals that they are given -/

/-- An instruction that carries out a rule was emitted for an entry to which a rule of the catalog was
assigned; it hands the marginals over exactly if that rule approximates. -/
theorem Resolver.EntryResolved.applied {resolver : Resolver} (coherent : resolver.catalog.Coherent)
    {leafTypes : LeafTypes} {done : Schedule} {entry : Entry}
    (certified : resolver.EntryResolved leafTypes done entry) {index : Nat} {slot : Slot} {rule : Value}
    {node : NodeKey} {inbounds : List Slot} {approximation : Option Method}
    (emitted : Emission.entryInstruction resolver.network index entry
      = .ok (.applyRule slot rule node inbounds approximation)) :
    ∃ found ∈ resolver.catalog.rules, rule = found.id.toValue ∧
      (found.category = .approximate ↔ approximation.isSome = true) := by
  cases certified with
  | leaf outward arrives status supplied =>
      rw [Emission.entryInstruction_leaf status] at emitted
      rcases Emission.leafInstruction_inv emitted with ⟨_, _, impossible⟩ | ⟨_, impossible⟩
      · cases impossible
      · cases impossible
  | composite inward scheduled arrives status held =>
      obtain ⟨_, _, _, _, _, impossible⟩ := Emission.entryInstruction_composite_inv status held emitted
      cases impossible
  | rule inward plain chosen =>
      obtain ⟨listed, _⟩ := chosen.rule_mem coherent
      rw [Emission.entryInstruction_rule chosen.status] at emitted
      cases (Emission.ruleInstruction_inv emitted).2
      refine ⟨_, listed, ?_, ?_⟩
      · rw [chosen.rule, Option.getD_some]
      · rw [chosen.approximation]
        exact (coherent.typed _ listed).method

namespace Machine

/-- The outcome of carrying out a rule, once its implementation and what arrives are at hand. -/
theorem step_applyRule {machine : Machine} {data : Buffers} {store : MessageStore} {marginals : Marginals}
    {slot : Slot} {rule : Value} {node : NodeKey} {inbounds : List Slot} {approximation : Option Method}
    {implementation : Implementation} {arriving : List Value}
    (prepared : machine.prepare store rule inbounds = .ok (implementation, arriving)) :
    step machine data store marginals (.applyRule slot rule node inbounds approximation)
      = ⟨marginals, implementation ⟨machine.network, some node⟩ arriving
          (if approximation.isSome then some marginals else none) >>= store.set slot⟩ := by
  rw [step, applyRule, prepared, Partial.ok_bind]
  rfl

/-- A run that completes leaves every marginal alone that belongs to no target, and has a marginal for every
target.  In every run, also one that fails, each application of a rule is one of a rule of the catalog, and
its implementation is given the marginals that the run began with if the rule approximates, and none
otherwise. -/
theorem run_changes_targets_only {machine : Machine} {calls : List Registration} {depth : Nat}
    {leafTypes : LeafTypes} {schedule resolved : Schedule}
    (accepted : Resolver.resolveAtDepth ⟨machine.network, Catalog.built calls⟩ depth leafTypes schedule
      = .ok resolved) {targets : List VariableKey} {program : Program}
    (emitted : Emission.program machine.network resolved targets = .ok program) (data : Buffers)
    (prior : Marginals) :
    (∀ marginals, machine.run program data prior = .ok marginals →
      (∀ key, (∀ target ∈ targets, (machine.network.var target).id.same key = false) →
        marginals.get? key = prior.get? key) ∧
      ∀ target ∈ targets, ∃ value, marginals.get? (machine.network.var target).id = some value) ∧
    ∀ path moment, machine.Reached program data prior path moment →
      ∀ slot rule node inbounds approximation,
        moment.instruction = .applyRule slot rule node inbounds approximation →
        ∃ found ∈ (Catalog.built calls).rules, rule = found.id.toValue ∧
          ∀ implementation arriving,
            machine.prepare moment.store rule inbounds = .ok (implementation, arriving) →
            machine.outcomeAt moment
              = ⟨prior, implementation ⟨machine.network, some node⟩ arriving
                  (if found.category = .approximate then some prior else none)
                    >>= moment.store.set slot⟩ := by
  have certified := Resolver.resolveAtDepth_resolved accepted
  constructor
  · intro marginals finished
    obtain ⟨values, _, concluded⟩ := run_concludes certified emitted finished
    refine ⟨fun key apart => conclude_kept concluded apart, fun target member => ?_⟩
    exact conclude_present concluded (Or.inl ⟨target, member, Key.same_iff.mpr rfl⟩)
  · intro path moment reached slot rule node inbounds approximation applies
    obtain ⟨instructions, _⟩ := Emission.program_inv emitted
    obtain ⟨store, _, reached⟩ := reached
    rcases reached.at_entry certified instructions with
      ⟨entry, types, done, last, _, resolvedEntry, here, kept⟩ | ⟨_, _, _, _, combines⟩
    · rw [applies] at here
      obtain ⟨found, listed, named, approximates⟩ :=
        resolvedEntry.applied (Catalog.built_coherent calls) here
      refine ⟨found, listed, named, fun implementation arriving prepared => ?_⟩
      rw [outcomeAt, applies, step_applyRule prepared, kept]
      simp only [approximates]
    · cases applies.symm.trans combines

/-! A relay inside a composite node that passes on a marginal: the one of the variable whose marginal the
run computes. -/

def estimateRule : Registration where
  id := "relay"
  kind := "Relay"
  slot := .whole 0
  inbound := [.typed .pointMass]
  outbound := .typed .pointMass
  category := .approximate
  approximation := some (.named "EP")

def estimating : Machine where
  network := relayed
  implementations := [("relay", Implementation.reading (.text "v0"))]

def estimateResolved : Schedule :=
  [{ socket := ⟨1, 0⟩, outbound := some (.typed .pointMass), status := .leaf },
   { socket := ⟨0, 0⟩, inbounds := [some (.entry 0)], outbound := some (.typed .pointMass),
     rule := some (.text "Pair.a"), status := .composite,
     inner := some [
       { socket := ⟨3, 0⟩, outbound := some (.typed .pointMass), status := .leaf },
       { socket := ⟨4, 0⟩, inbounds := [some (.entry 0)], outbound := some (.typed .pointMass),
         approximation := some (.named "EP"), rule := some (.text "relay"), status := .approximate }] },
   { socket := ⟨5, 0⟩, outbound := some (.typed .gaussian), status := .leaf }]

def estimateProgram : Program where
  instructions := [
    .injectConstant (.whole 0) (.message (.pointMass (.scalar (Float.ofInt 2)))),
    .invokeInner (.whole 1) "p"
      [.injectData (.whole 0) (.text "b") .absent,
       .applyRule (.whole 1) (.text "relay") 4 [.whole 0] (some (.named "EP"))]
      (.whole 2) [("b", .whole 0)] (.whole 1),
    .injectData (.whole 2) (.text "t") .absent,
    .combineMarginal "v0" (.whole 1) (.whole 2)]
  messages := .whole 3

def estimateData : Buffers := [("t", .message (.gaussian 0 1))]

def estimatePrior : Marginals := [("v0", .whole 5), ("w", .whole 7)]

def estimateMarginals : Marginals :=
  [("v0", .message (.pointMass (.scalar (Float.ofInt 5)))), ("w", .whole 7)]

/-- The moment before the relay is applied. -/
def estimateMoment : Moment where
  data := [("t", .message (.gaussian 0 1)), ("b", .message (.pointMass (.scalar (Float.ofInt 2))))]
  store := [.message (.pointMass (.scalar (Float.ofInt 2))), .absent]
  marginals := estimatePrior
  instruction := .applyRule (.whole 1) (.text "relay") 4 [.whole 0] (some (.named "EP"))

theorem estimate_accepted : Resolver.resolveAtDepth ⟨estimating.network, Catalog.built [estimateRule]⟩ 2
    [("t", some (.typed .gaussian))] relaySchedule = .ok estimateResolved := rfl

theorem estimate_emitted :
    Emission.program estimating.network estimateResolved [0] = .ok estimateProgram := rfl

theorem estimate_reached :
    estimating.Reached estimateProgram estimateData estimatePrior [1, 1] estimateMoment :=
  ⟨[.absent, .absent, .absent], rfl, .next rfl (.inside rfl (.next rfl .now))⟩

theorem estimate_run :
    estimating.run estimateProgram estimateData estimatePrior = .ok estimateMarginals := rfl

/-- The run replaces the marginal that the relay passes on, and the relay has passed on the one before. -/
theorem run_changes_targets_only_estimating :
    estimateMarginals.get? "w" = estimatePrior.get? "w" ∧
    (∃ value, estimateMarginals.get? "v0" = some value) ∧
    ∃ found ∈ (Catalog.built [estimateRule]).rules, found.id = "relay" ∧ found.category = .approximate ∧
      estimating.outcomeAt estimateMoment
        = ⟨estimatePrior, Implementation.reading (.text "v0") ⟨relayed, some 4⟩
            [.message (.pointMass (.scalar (Float.ofInt 2)))] (some estimatePrior)
              >>= MessageStore.set estimateMoment.store (.whole 1)⟩ := by
  obtain ⟨frame, applied⟩ :=
    run_changes_targets_only estimate_accepted estimate_emitted estimateData estimatePrior
  obtain ⟨kept, present⟩ := frame estimateMarginals estimate_run
  obtain ⟨found, listed, named, given⟩ :=
    applied [1, 1] estimateMoment estimate_reached _ _ _ _ _ rfl
  have only : found = estimateRule.rule .pointMass := List.mem_singleton.mp listed
  subst only
  have apart : ∀ target ∈ [0], (relayed.var target).id.same "w" = false := by
    intro target member
    rw [List.mem_singleton.mp member]
    rfl
  exact ⟨kept "w" apart, present 0 (List.mem_singleton_self 0), _, listed, rfl, rfl, given _ _ rfl⟩

end Machine

end SumProduct
