/-
Generated identifiers carry the least number that is free.

A search begins above the number last used for the stem instead of at one.  It loses nothing, since
every number up to the one last used is taken: a number that a search passes is taken when it is
passed, the number it ends at is taken by the call itself, and no call ever gives an identifier back.
Claimed identifiers may look like generated ones, and stems that differ in case share their numbers;
neither of them takes anything away from this.

Calls are made here on one registry that is changed in place, statement by statement, so that a call
that fails keeps what it has written before it failed.
-/

import Mathlib.Order.Bounds.Basic
import SumProduct.Proofs.Identifiers
import SumProduct.Proofs.Registration

set_option autoImplicit false

namespace SumProduct.IdRegistry

open Partial (map_eq_ok)

/-! ### The search -/

section Search

variable {taken : List Key} {stem : String}

theorem lt_firstFree (steps last : Nat) : last < firstFree taken stem steps last := by
  induction steps generalizing last with
  | zero => exact Nat.lt_succ_self last
  | succ steps ih =>
      rw [firstFree]
      split
      · have further := ih (last + 1)
        omega
      · exact Nat.lt_succ_self last

/-- The numbers that a search passes are taken. -/
theorem firstFree_passed {steps last number : Nat} (above : last < number)
    (below : number < firstFree taken stem steps last) : .text (numbered stem number) ∈ taken := by
  induction steps generalizing last with
  | zero =>
      rw [firstFree] at below
      omega
  | succ steps ih =>
      rw [firstFree] at below
      split at below
      · rename_i met
        by_cases here : number = last + 1
        · subst here
          exact List.contains_iff_mem.mp met
        · exact ih (by omega) below
      · omega

/-- The bound on the length of a search does not show: with as many steps as identifiers are taken
the search ends at the least free number. -/
theorem firstFree_isLeast (stem : String) {steps : Nat} (last : Nat) (enough : taken.length ≤ steps) :
    IsLeast {number | last < number ∧ .text (numbered stem number) ∉ taken}
      (firstFree taken stem steps last) := by
  constructor
  · exact ⟨lt_firstFree steps last, firstFree_not_mem taken (fun _ _ member => member) enough⟩
  · intro number free
    by_contra smaller
    exact free.2 (firstFree_passed free.1 (Nat.lt_of_not_le smaller))

end Search

/-! ### The numbers behind a registry -/

/-- Every number up to the one last used for a stem is taken. -/
def Counted (registry : IdRegistry) : Prop :=
  ∀ base number, 0 < number → number ≤ (registry.counters.lookup base).getD 0 →
    Key.text (numbered base number) ∈ registry.taken

theorem Counted.empty : Counted {} := by
  intro base number positive least
  change number ≤ 0 at least
  omega

theorem Counted.claim {registry updated : IdRegistry} {id : Key} (counted : registry.Counted)
    (granted : registry.claim id = .ok updated) : updated.Counted := by
  rw [IdRegistry.claim] at granted
  split at granted
  · cases granted
  · cases granted
    intro base number positive least
    exact List.mem_append_left _ (counted base number positive least)

theorem Counted.generate {registry : IdRegistry} (counted : registry.Counted) (stem : String) :
    (registry.generate stem).2.Counted := by
  intro base number positive least
  change number ≤ ((Association.set (Text.lower stem) _ registry.counters).lookup base).getD 0 at least
  rw [Association.lookup_set] at least
  by_cases same : base = Text.lower stem
  · subst same
    rw [if_pos rfl, Option.getD_some] at least
    -- a number up to the new last one was counted before, has been passed, or is the new one
    rcases Nat.lt_or_eq_of_le least with passed | last
    · apply List.mem_append_left
      by_cases old : number ≤ (registry.counters.lookup (Text.lower stem)).getD 0
      · exact counted _ number positive old
      · exact firstFree_passed (Nat.lt_of_not_le old) passed
    · rw [last]
      exact List.mem_append_right _ (List.mem_singleton.mpr rfl)
  · rw [if_neg same] at least
    exact List.mem_append_left _ (counted base number positive least)

theorem Counted.assign {registry updated : IdRegistry} {id : Option Key} {stem : Value} {name : Key}
    (counted : registry.Counted) (assigned : registry.assign id stem = .ok (name, updated)) :
    updated.Counted := by
  cases id with
  | some chosen =>
      obtain ⟨claimed, granted, same⟩ := map_eq_ok.mp assigned
      cases same
      exact counted.claim granted
  | none =>
      cases stem with
      | text stem =>
          cases assigned
          exact counted.generate stem
      | absent | flag _ | whole _ | real _ | list _ | record _ | array _ | message _ => cases assigned

/-- A search that begins above the number last used ends where one does that begins at one. -/
theorem Counted.firstFree_eq {registry : IdRegistry} (counted : registry.Counted) (base : String)
    {steps : Nat} (enough : registry.taken.length ≤ steps) :
    firstFree registry.taken base steps ((registry.counters.lookup base).getD 0)
      = firstFree registry.taken base steps 0 := by
  have late := firstFree_isLeast base ((registry.counters.lookup base).getD 0) enough
  have early := firstFree_isLeast base 0 enough
  apply Nat.le_antisymm
  -- what a search from the beginning finds is free, so it cannot be one of the counted numbers
  · apply late.2
    refine ⟨?_, early.1.2⟩
    by_contra old
    exact early.1.2 (counted base _ early.1.1 (Nat.le_of_not_lt old))
  · exact early.2 ⟨Nat.zero_lt_of_lt late.1.1, late.1.2⟩

/-! ### Calls on a registry in place -/

/-- Computations on one registry that keep what they have written when they fail. -/
abbrev InPlace := EStateM Fault IdRegistry

namespace InPlace

/-- Tests first and writes afterwards. -/
def claim (id : Key) : InPlace Key := do
  if (← get).contains id then throw (.refused (.duplicateId id.literal))
  modify fun registry => { registry with taken := registry.taken ++ [id] }
  return id

/-- Writes the number last used, and then the identifier. -/
def generate (stem : String) : InPlace Key := do
  let base := Text.lower stem
  let registry ← get
  let last := (registry.counters.lookup base).getD 0
  let number := firstFree registry.taken base registry.taken.length last
  modify fun registry => { registry with counters := Association.set base number registry.counters }
  modify fun registry =>
    { registry with taken := registry.taken ++ [.text (numbered base number)] }
  return .text (numbered base number)

end InPlace

inductive Call where
  | claim (id : Key)
  | generate (stem : String)
  | assign (id : Option Key) (stem : Value)

namespace Call

def perform : Call → InPlace Key
  | claim id => InPlace.claim id
  | generate stem => InPlace.generate stem
  | assign (some id) _ => InPlace.claim id
  | assign none (.text stem) => InPlace.generate stem
  | assign none _ => throw (.lapsed .missingAttribute)

/-- The identifier and the next registry as the operations on registries give them. -/
def outcome (registry : IdRegistry) : Call → Except Fault (Key × IdRegistry)
  | claim id => (registry.claim id).map fun updated => (id, updated)
  | generate stem => .ok (.text (registry.generate stem).1, (registry.generate stem).2)
  | assign id stem => registry.assign id stem

end Call

/-- Goes on with the next registry, or with the same one if there is none. -/
def settled (registry : IdRegistry) : Except Fault (Key × IdRegistry) → EStateM.Result Fault IdRegistry Key
  | .ok (id, updated) => .ok id updated
  | .error fault => .error fault registry

theorem InPlace.claim_eq (registry : IdRegistry) (id : Key) :
    InPlace.claim id registry
      = settled registry ((registry.claim id).map fun updated => (id, updated)) := by
  have opened : InPlace.claim id registry
      = (if registry.contains id = true then _ else _ : InPlace Key) registry := rfl
  rw [opened, IdRegistry.claim]
  by_cases met : registry.contains id = true
  · rw [if_pos met, if_pos met]
    rfl
  · rw [if_neg met, if_neg met]
    rfl

/-- A call in place does what the operations on registries say. -/
theorem Call.perform_eq (registry : IdRegistry) (call : Call) :
    call.perform registry = settled registry (call.outcome registry) := by
  cases call with
  | claim id => exact InPlace.claim_eq registry id
  | generate stem => rfl
  | assign id stem =>
      cases id with
      | some id => exact InPlace.claim_eq registry id
      | none => cases stem <;> rfl

/-- A call that fails has written nothing. -/
theorem Call.eq_of_failed {registry after : IdRegistry} {call : Call} {fault : Fault}
    (failed : call.perform registry = .error fault after) : after = registry := by
  rw [call.perform_eq] at failed
  cases outcome : call.outcome registry with
  | error other =>
      rw [outcome] at failed
      cases failed
      rfl
  | ok result =>
      rw [outcome] at failed
      cases failed

theorem Call.claim_granted_iff {registry : IdRegistry} {id : Key} :
    (∃ updated, (Call.claim id).perform registry = .ok id updated) ↔
      ∀ earlier ∈ registry.taken, id.same earlier = false := by
  rw [Call.perform_eq, Call.outcome, IdRegistry.claim]
  by_cases met : registry.contains id = true
  · rw [if_pos met]
    obtain ⟨earlier, member, same⟩ := List.any_eq_true.mp met
    constructor
    · rintro ⟨updated, granted⟩
      cases granted
    · intro free
      rw [free earlier member] at same
      cases same
  · rw [if_neg met]
    have free : ∀ earlier ∈ registry.taken, id.same earlier = false := by
      simpa [contains] using met
    exact ⟨fun _ => free, fun _ => ⟨_, rfl⟩⟩

theorem Call.outcome_eq_assign (call : Call) :
    ∃ id stem, ∀ registry : IdRegistry, call.outcome registry = registry.assign id stem := by
  cases call with
  | claim id => exact ⟨some id, .absent, fun _ => rfl⟩
  | generate stem => exact ⟨none, .text stem, fun _ => rfl⟩
  | assign id stem => exact ⟨id, stem, fun _ => rfl⟩

/-! ### Sequences of calls -/

/-- A registry together with the identifiers that it has returned, in order. -/
structure Session where
  registry : IdRegistry := {}
  returned : List Key := []

namespace Session

def after (session : Session) (call : Call) : Session :=
  match call.perform session.registry with
  | .ok id registry => ⟨registry, session.returned ++ [id]⟩
  | .error _ registry => ⟨registry, session.returned⟩

def serving (calls : List Call) : Session := calls.foldl after {}

structure Sound (session : Session) : Prop where
  recorded : session.registry.taken = session.returned
  distinct : session.returned.Pairwise fun first second => first.same second = false
  counted : session.registry.Counted

theorem Sound.after {session : Session} (sound : session.Sound) (call : Call) :
    (session.after call).Sound := by
  obtain ⟨id, stem, assigning⟩ := call.outcome_eq_assign
  rw [Session.after, call.perform_eq, assigning]
  cases assigned : session.registry.assign id stem with
  | error fault => exact sound
  | ok result =>
      obtain ⟨name, updated⟩ := result
      obtain ⟨taken, fresh⟩ := assign_fresh assigned
      rw [sound.recorded] at taken fresh
      exact ⟨taken, pairwise_fresh sound.distinct fresh, sound.counted.assign assigned⟩

theorem serving_sound (calls : List Call) : (serving calls).Sound := by
  apply List.foldlRecOn calls Session.after
  · exact ⟨rfl, List.Pairwise.nil, Counted.empty⟩
  · exact fun _ sound call _ => sound.after call

end Session

/-- However a registry has been used: the identifiers that it has returned are different from one
another, and they are the taken ones.  A claim is granted unless its identifier was returned before,
and a call that fails leaves the registry as it was.  A generated identifier carries the least number
from one on that is free, with which a search from the beginning ends too, however many steps it may
take. -/
theorem Session.generated_numbers_least (calls : List Call) :
    (serving calls).returned.Pairwise (fun first second => first.same second = false) ∧
      (serving calls).registry.taken = (serving calls).returned ∧
      (∀ id, (∃ registry, (Call.claim id).perform (serving calls).registry = .ok id registry) ↔
        ∀ earlier ∈ (serving calls).returned, id.same earlier = false) ∧
      (∀ (call : Call) fault registry,
        call.perform (serving calls).registry = .error fault registry →
          registry = (serving calls).registry) ∧
      ∀ stem, ∃ number,
        ((serving calls).registry.generate stem).1 = numbered (Text.lower stem) number ∧
        (Call.generate stem).perform (serving calls).registry
          = .ok (.text (numbered (Text.lower stem) number))
              ((serving calls).registry.generate stem).2 ∧
        IsLeast {candidate | 1 ≤ candidate ∧
          .text (numbered (Text.lower stem) candidate) ∉ (serving calls).registry.taken} number ∧
        ∀ steps, (serving calls).registry.taken.length ≤ steps →
          firstFree (serving calls).registry.taken (Text.lower stem) steps 0 = number := by
  have sound := serving_sound calls
  refine ⟨sound.distinct, sound.recorded, ?_, fun _ _ _ failed => Call.eq_of_failed failed, ?_⟩
  · intro id
    rw [← sound.recorded]
    exact Call.claim_granted_iff
  · intro stem
    refine ⟨_, rfl, rfl, ?_, ?_⟩
    · rw [sound.counted.firstFree_eq (Text.lower stem) (Nat.le_refl _)]
      exact firstFree_isLeast _ 0 (Nat.le_refl _)
    · intro steps enough
      rw [sound.counted.firstFree_eq (Text.lower stem) (Nat.le_refl _)]
      exact (firstFree_isLeast _ 0 enough).unique (firstFree_isLeast _ 0 (Nat.le_refl _))

/-- A claimed identifier is passed over, a stem in capitals goes on with the same numbers, and an
identifier that was generated cannot be claimed. -/
example : (Session.serving [.claim "edge_2", .generate "edge", .generate "EDGE", .claim "edge_1",
    .assign none (.text "Edge")]).returned = ["edge_2", "edge_1", "edge_3", "edge_4"] := by
  decide +kernel

end SumProduct.IdRegistry
