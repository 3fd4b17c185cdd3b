/-
Matching as solving.

A list of patterns and a list of arriving types pose a system: find integers for the parameter names
under which every pattern accepts what arrives at its place.  Matching decides whether the system has
a solution, and the bindings it returns are the one solution on the names that the patterns mention.
What a system asks for does not depend on the order of its places, so neither does the answer.
-/

import Mathlib.Data.List.Forall2
import SumProduct.Proofs.Matching

set_option autoImplicit false

namespace SumProduct

/-! ### The system, place by place -/

/-- Accepting is a condition on each place, whatever their order. -/
theorem acceptsAll_iff_zip {assignment : Assignment} {patterns : List Pattern}
    {arriving : List (Option Pattern)} :
    AcceptsAll assignment patterns arriving ↔
      patterns.length = arriving.length ∧
        ∀ place ∈ patterns.zip arriving, place.1.Accepts assignment place.2 := by
  rw [AcceptsAll, List.forall₂_iff_zip]
  exact and_congr_right fun _ =>
    ⟨fun accepted place member => accepted member, fun accepted _ _ member => accepted _ member⟩

section Reordered

variable {patterns others : List Pattern} {arriving shuffled : List (Option Pattern)}
  (patternLengths : others.length = patterns.length)
  (arrivingLengths : shuffled.length = arriving.length)
  (permuted : (others.zip shuffled).Perm (patterns.zip arriving))

include patternLengths arrivingLengths permuted

/-- Places in another order are accepted under the same assignments. -/
theorem acceptsAll_perm {assignment : Assignment} :
    AcceptsAll assignment others shuffled ↔ AcceptsAll assignment patterns arriving := by
  rw [acceptsAll_iff_zip, acceptsAll_iff_zip, patternLengths, arrivingLengths]
  refine and_congr_right fun _ => ⟨fun accepted place member => ?_, fun accepted place member => ?_⟩
  · exact accepted place (permuted.mem_iff.mpr member)
  · exact accepted place (permuted.mem_iff.mp member)

/-- Places in another order mention the same names, as long as no place lacks its partner. -/
theorem mentionedIn_perm (lengths : patterns.length = arriving.length) {name : String} :
    MentionedIn others name ↔ MentionedIn patterns name := by
  have reordered : others.Perm patterns := by
    have firsts := permuted.map Prod.fst
    rwa [List.map_fst_zip (by omega), List.map_fst_zip (by omega)] at firsts
  constructor
  · rintro ⟨pattern, member, mentions⟩
    exact ⟨pattern, reordered.mem_iff.mp member, mentions⟩
  · rintro ⟨pattern, member, mentions⟩
    exact ⟨pattern, reordered.mem_iff.mpr member, mentions⟩

end Reordered

/-! ### Solutions -/

namespace Bindings

/-- Bindings as a map from names. -/
def asMap (bindings : Bindings) : String → Option Param := fun name => bindings.lookup name

/-- The bindings solve the system on the names that its patterns mention, and nothing else does: the
assignments under which everything is accepted are those that give the bound names these values. -/
structure Solves (bindings : Bindings) (patterns : List Pattern)
    (arriving : List (Option Pattern)) : Prop where
  proper : bindings.Proper
  domain : ∀ name, (bindings.lookup name).isSome ↔ MentionedIn patterns name
  accepts_iff : ∀ assignment, AcceptsAll assignment patterns arriving ↔ bindings.AgreesWith assignment

section

variable {bindings others : Bindings} {patterns : List Pattern} {arriving : List (Option Pattern)}

/-- The bindings, with zero for the names that no pattern mentions, are a solution. -/
theorem Solves.accepted (solves : bindings.Solves patterns arriving) :
    AcceptsAll bindings.assignment patterns arriving :=
  (solves.accepts_iff _).mpr solves.proper.agreesWith_assignment

/-- A system has one solution on the names it mentions. -/
theorem Solves.asMap_eq (solves : bindings.Solves patterns arriving)
    (alike : others.Solves patterns arriving) : others.asMap = bindings.asMap := by
  have agrees : others.AgreesWith bindings.assignment :=
    (alike.accepts_iff _).mp solves.accepted
  funext name
  have sameDomain := (alike.domain name).trans (solves.domain name).symm
  cases found : bindings.lookup name with
  | none =>
      rw [found, Option.isSome_none, Bool.false_eq_true, iff_false, Option.not_isSome_iff_eq_none]
        at sameDomain
      rw [asMap, asMap, found, sameDomain]
  | some value =>
      obtain ⟨other, foundOther⟩ := Option.isSome_iff_exists.mp (sameDomain.mpr (by rw [found]; rfl))
      have valueEq := solves.proper.agreesWith_assignment name value found
      have otherEq := agrees name other foundOther
      rw [asMap, asMap, found, foundOther, valueEq, otherEq]

end

end Bindings

/-! ### What matching returns -/

section

variable {patterns : List Pattern} {arriving : List (Option Pattern)}

theorem unify_solves {bindings : Bindings} (concrete : ∀ type ∈ arriving, IsConcrete type)
    (matched : unify (patterns.map some) arriving = .ok (some bindings)) :
    bindings.Solves patterns arriving := by
  obtain ⟨extension, accepts⟩ := unify_sound concrete matched
  refine ⟨extension.proper, fun name => ?_, fun assignment => ⟨fun accepted => ?_, accepts assignment⟩⟩
  · rw [extension.bound]
    simp
  · obtain ⟨found, matchedToo, agrees⟩ := unify_complete accepted
    cases matched.symm.trans matchedToo
    exact agrees

theorem unify_isSome_iff {result : Option Bindings} (concrete : ∀ type ∈ arriving, IsConcrete type)
    (returned : unify (patterns.map some) arriving = .ok result) :
    result.isSome ↔ ∃ assignment, AcceptsAll assignment patterns arriving := by
  constructor
  · intro present
    obtain ⟨bindings, rfl⟩ := Option.isSome_iff_exists.mp present
    exact ⟨_, (unify_solves concrete returned).accepted⟩
  · rintro ⟨assignment, accepted⟩
    obtain ⟨bindings, matched, _⟩ := unify_complete accepted
    cases returned.symm.trans matched
    rfl

/-- Places in another order give the same map, or both times nothing. -/
theorem unify_perm {others : List Pattern} {shuffled : List (Option Pattern)}
    {result : Option Bindings} (concrete : ∀ type ∈ arriving, IsConcrete type)
    (patternLengths : others.length = patterns.length)
    (arrivingLengths : shuffled.length = arriving.length)
    (permuted : (others.zip shuffled).Perm (patterns.zip arriving))
    (returned : unify (patterns.map some) arriving = .ok result) :
    ∃ answer, unify (others.map some) shuffled = .ok answer ∧
      answer.map Bindings.asMap = result.map Bindings.asMap := by
  have accepts : ∀ {assignment}, AcceptsAll assignment others shuffled ↔
      AcceptsAll assignment patterns arriving :=
    acceptsAll_perm patternLengths arrivingLengths permuted
  by_cases lengths : patterns.length = arriving.length
  · have concreteToo : ∀ type ∈ shuffled, IsConcrete type := by
      have seconds := permuted.map Prod.snd
      rw [List.map_snd_zip (by omega), List.map_snd_zip (by omega)] at seconds
      exact fun type member => concrete type (seconds.mem_iff.mp member)
    obtain ⟨answer, answered⟩ := unify_total others concreteToo
    refine ⟨answer, answered, ?_⟩
    have present : answer.isSome ↔ result.isSome := by
      rw [unify_isSome_iff concreteToo answered, unify_isSome_iff concrete returned]
      exact exists_congr fun _ => accepts
    cases result with
    | none =>
        cases answer with
        | none => rfl
        | some bindings => cases present.mp rfl
    | some bindings =>
        obtain ⟨other, rfl⟩ := Option.isSome_iff_exists.mp (present.mpr rfl)
        have solves := unify_solves concrete returned
        have solvesOthers := unify_solves concreteToo answered
        have alike : other.Solves patterns arriving :=
          ⟨solvesOthers.proper,
            fun name => (solvesOthers.domain name).trans
              (mentionedIn_perm patternLengths arrivingLengths permuted lengths),
            fun assignment => accepts.symm.trans (solvesOthers.accepts_iff assignment)⟩
        exact congrArg some (solves.asMap_eq alike)
  · -- Neither order has a type for every pattern, so neither walk starts.
    have result_none : result = none := by
      rw [unify, if_neg (by rwa [List.length_map])] at returned
      exact (Except.ok.inj returned).symm
    have different : (others.map some).length ≠ shuffled.length := by
      rw [List.length_map]
      omega
    refine ⟨none, ?_, by rw [result_none]⟩
    rw [unify, if_neg different]

/-- Matching returns bindings exactly for a system that has as many types as patterns and a solution;
the bindings are then its only solution on the names its patterns mention; and the answer, as a map,
is the same for the same places in any order. -/
theorem unify_most_specific (patterns : List Pattern) (arriving : List (Option Pattern))
    (concrete : ∀ type ∈ arriving, IsConcrete type) :
    ∃ result, unify (patterns.map some) arriving = .ok result ∧
      (result.isSome ↔ patterns.length = arriving.length ∧
        ∃ assignment, AcceptsAll assignment patterns arriving) ∧
      (∀ bindings, result = some bindings → bindings.Solves patterns arriving) ∧
      ∀ (others : List Pattern) (shuffled : List (Option Pattern)),
        others.length = patterns.length → shuffled.length = arriving.length →
        (others.zip shuffled).Perm (patterns.zip arriving) →
        ∃ answer, unify (others.map some) shuffled = .ok answer ∧
          answer.map Bindings.asMap = result.map Bindings.asMap := by
  obtain ⟨result, returned⟩ := unify_total patterns concrete
  refine ⟨result, returned, ?_, fun bindings found => unify_solves concrete (found ▸ returned),
    fun others shuffled patternLengths arrivingLengths permuted =>
      unify_perm concrete patternLengths arrivingLengths permuted returned⟩
  rw [unify_isSome_iff concrete returned]
  constructor
  · rintro ⟨assignment, accepted⟩
    exact ⟨List.Forall₂.length_eq accepted, assignment, accepted⟩
  · rintro ⟨_, solution⟩
    exact solution

end

/-- A vector and a square matrix of one dimension, nothing, and anything. -/
def squarePatterns : List Pattern :=
  [.typed (.mvGaussian (.free "N")), .typed (.matrixPointMass (.free "N") (.free "N")), .absent, .any]

/-- Types that fit, three being the dimension. -/
def squareTypes : List (Option Pattern) :=
  [some (.typed (.mvGaussian (.number 3))),
    some (.typed (.matrixPointMass (.number 3) (.number 3))), none, none]

theorem unify_most_specific_square :
    ∃ result, unify (squarePatterns.map some) squareTypes = .ok result ∧ result.isSome ∧
      (∀ bindings, result = some bindings → bindings.Solves squarePatterns squareTypes) ∧
      ∃ answer, unify (squarePatterns.reverse.map some) squareTypes.reverse = .ok answer ∧
        answer.map Bindings.asMap = result.map Bindings.asMap := by
  have concrete : ∀ type ∈ squareTypes, IsConcrete type := by
    intro type member pattern present
    subst present
    simp only [squareTypes, List.mem_cons, List.not_mem_nil, Option.some.injEq, or_false, reduceCtorEq]
      at member
    rcases member with rfl | rfl
    · exact ⟨_, rfl, rfl⟩
    · exact ⟨_, rfl, rfl⟩
  have accepted : AcceptsAll (fun _ => 3) squarePatterns squareTypes :=
    .cons rfl (.cons rfl (.cons rfl (.cons trivial .nil)))
  obtain ⟨result, returned, present, solves, reordered⟩ :=
    unify_most_specific squarePatterns squareTypes concrete
  exact ⟨result, returned, present.mpr ⟨rfl, _, accepted⟩, solves,
    reordered squarePatterns.reverse squareTypes.reverse rfl rfl (List.reverse_perm (squarePatterns.zip squareTypes))⟩

end SumProduct
