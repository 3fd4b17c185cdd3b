/-
Resolving a resolved schedule changes nothing.

A resolved entry differs from the entry it came from in the very fields that resolution reads: its type
is no longer a demand, and its method is the one of the rule that was chosen.  Leaves and composite nodes
do not read them.  A rule is chosen again because the second look-up sees fewer rules than the first one,
namely those of the method that the entry has now, and among them the rule that was chosen before.
-/

import SumProduct.Proofs.Resolution

set_option autoImplicit false

namespace SumProduct

open Partial (bind_eq_ok mapError_eq_ok map_eq_ok)

/-- Every rule that can be looked up says its method by name, if it has one. -/
def Catalog.NamesMethods (catalog : Catalog) : Prop :=
  ∀ bucket, ∀ rule ∈ catalog.bucketRules bucket, ∀ method, rule.approximation = some method →
    ∃ name, method = .named name

/-! ### Looking up under a narrower demand -/

section Narrowing

variable {arriving : List (Option Pattern)} {asked narrower : Option Method} {node : Node}

theorem Catalog.tryRule_offers {rule : Rule} {candidate : Candidate}
    (tried : Catalog.tryRule arriving asked (some node.facts) rule = .ok (some candidate)) :
    rule.offers asked = true := by
  unfold Catalog.tryRule at tried
  split at tried
  · cases tried
  · rename_i offered
    simpa using offered

theorem Catalog.tryRule_narrower {rule : Rule} {found : Option Candidate}
    (wider : rule.offers narrower = true → rule.offers asked = true)
    (tried : Catalog.tryRule arriving asked (some node.facts) rule = .ok found) :
    Catalog.tryRule arriving narrower (some node.facts) rule
      = .ok (found.filter fun candidate => candidate.rule.offers narrower) := by
  have same : ∀ candidate, found = some candidate → candidate.rule = rule := by
    intro candidate here
    rw [here] at tried
    exact (Catalog.fits_of_tryRule tried).1
  cases offered : rule.offers narrower with
  | false =>
      have skipped : Catalog.tryRule arriving narrower (some node.facts) rule = .ok none := by
        rw [Catalog.tryRule, offered]
        rfl
      cases found with
      | none => exact skipped
      | some candidate =>
          rw [skipped, Option.filter, same candidate rfl, offered]
          rfl
  | true =>
      have unchanged : Catalog.tryRule arriving narrower (some node.facts) rule
          = Catalog.tryRule arriving asked (some node.facts) rule := by
        rw [Catalog.tryRule, Catalog.tryRule, offered, wider offered]
      cases found with
      | none => rw [unchanged, tried, Option.filter_none]
      | some candidate =>
          rw [unchanged, tried, Option.filter, same candidate rfl, offered]
          rfl

theorem Catalog.tryRules_offers {rules : List Rule} {candidates : List Candidate}
    (tried : Catalog.tryRules arriving asked (some node.facts) rules = .ok candidates)
    {candidate : Candidate} (member : candidate ∈ candidates) :
    candidate.rule.offers asked = true := by
  induction rules generalizing candidates with
  | nil =>
      cases tried
      cases member
  | cons rule rest ih =>
      obtain ⟨found, here, tried⟩ := bind_eq_ok.mp tried
      obtain ⟨others, later, tried⟩ := bind_eq_ok.mp tried
      cases tried
      rcases List.mem_append.mp member with first | second
      · rw [Option.mem_toList.mp first] at here
        rw [(Catalog.fits_of_tryRule here).1]
        exact Catalog.tryRule_offers here
      · exact ih later second

/-- Asking for less keeps those candidates that offer what is still asked for. -/
theorem Catalog.tryRules_narrower {rules : List Rule} {candidates : List Candidate}
    (wider : ∀ rule ∈ rules, rule.offers narrower = true → rule.offers asked = true)
    (tried : Catalog.tryRules arriving asked (some node.facts) rules = .ok candidates) :
    Catalog.tryRules arriving narrower (some node.facts) rules
      = .ok (candidates.filter fun candidate => candidate.rule.offers narrower) := by
  induction rules generalizing candidates with
  | nil =>
      cases tried
      rfl
  | cons rule rest ih =>
      obtain ⟨found, here, tried⟩ := bind_eq_ok.mp tried
      obtain ⟨others, later, tried⟩ := bind_eq_ok.mp tried
      cases tried
      have first := Catalog.tryRule_narrower (wider rule List.mem_cons_self) here
      have remaining := ih (fun other member => wider other (List.mem_cons_of_mem rule member)) later
      rw [Catalog.tryRules, first, remaining, List.filter_append]
      cases found with
      | none => rfl
      | some candidate =>
          cases offered : candidate.rule.offers narrower with
          | false => simp [Option.filter, offered]
          | true => simp [Option.filter, offered]

end Narrowing

theorem Rule.offers_own {rule : Rule}
    (named : ∀ method, rule.approximation = some method → ∃ name, method = .named name) :
    rule.offers rule.approximation = true := by
  cases own : rule.approximation with
  | none => rfl
  | some method =>
      obtain ⟨name, rfl⟩ := named method own
      simp [Rule.offers, own, Method.agrees]

/-- Whatever offers the method of a rule that offers what is asked for offers it as well. -/
theorem Rule.offers_of_offers_own {rule other : Rule} {asked : Option Method}
    (named : ∀ method, rule.approximation = some method → ∃ name, method = .named name)
    (otherNamed : ∀ method, other.approximation = some method → ∃ name, method = .named name)
    (offered : rule.offers asked = true) (alike : other.offers rule.approximation = true) :
    other.offers asked = true := by
  cases asked with
  | none => rfl
  | some method =>
      cases own : rule.approximation with
      | none =>
          rw [Rule.offers, own] at offered
          cases offered
      | some mine =>
          cases theirs : other.approximation with
          | none =>
              rw [own, Rule.offers, theirs] at alike
              cases alike
          | some found =>
              obtain ⟨name, rfl⟩ := named mine own
              obtain ⟨text, rfl⟩ := otherNamed found theirs
              rw [own, Rule.offers, theirs] at alike
              have same : name = text := by simpa [Method.agrees] using alike
              rw [Rule.offers, own] at offered
              rw [Rule.offers, theirs, ← same]
              exact offered

theorem keepPinned_filter {node : Node} {pinned : Option Pattern} {candidates : List Candidate}
    (kept : Candidate → Bool) :
    keepPinned node pinned (candidates.filter kept)
      = (keepPinned node pinned candidates).filter kept := by
  cases pinned with
  | none => rfl
  | some pin => exact List.filter_comm _ kept candidates

namespace Resolver

section Deciding

variable {resolver : Resolver} {node : Node} {entry result : Entry}
  {arriving : List (Option Pattern)}

theorem choose_eq_ok {category : Category} {status : Status} {otherwise : Except Fault Entry}
    {candidates : List Candidate}
    (chosen : resolver.choose node entry arriving category status otherwise candidates = .ok result) :
    (candidates = [] ∧ otherwise = .ok result) ∨
      ∃ candidate, candidates = [candidate] ∧
        accept node entry candidate status entry.pinned = .ok result := by
  rcases candidates with _ | ⟨first, _ | ⟨second, others⟩⟩
  · exact Or.inl ⟨rfl, chosen⟩
  · exact Or.inr ⟨first, rfl, chosen⟩
  · cases chosen

/-- The fields that a decision reads, besides the method. -/
structure Retains (entry result : Entry) : Prop where
  socket : result.socket = entry.socket
  inbounds : result.inbounds = entry.inbounds
  pinned : result.pinned = entry.pinned

theorem accept_again {candidate : Candidate} {status : Status} {pinned : Option Pattern}
    (accepted : accept node entry candidate status pinned = .ok result) :
    Retains entry result ∧ result.approximation = candidate.rule.approximation ∧
      accept node result candidate status pinned = .ok result := by
  unfold accept at accepted
  cases pinned with
  | some pin =>
      rw [← Except.ok.inj accepted]
      exact ⟨⟨rfl, rfl, rfl⟩, rfl, rfl⟩
  | none =>
      obtain ⟨type, typed, accepted⟩ := bind_eq_ok.mp accepted
      rw [← Except.ok.inj accepted]
      refine ⟨⟨rfl, rfl, rfl⟩, rfl, ?_⟩
      exact bind_eq_ok.mpr ⟨type, typed, rfl⟩

theorem matching_exact_again (retained : Retains entry result) :
    resolver.matching node result arriving .exact = resolver.matching node entry arriving .exact := by
  rw [matching, matching, retained.socket]
  rfl

/-- The method of a matching candidate leaves that candidate and drops others. -/
theorem matching_approximate_again (named : resolver.catalog.NamesMethods)
    (retained : Retains entry result) {candidates : List Candidate} {candidate : Candidate}
    (found : resolver.matching node entry arriving .approximate = .ok candidates)
    (member : candidate ∈ candidates)
    (method : result.approximation = candidate.rule.approximation) :
    resolver.matching node result arriving .approximate
        = .ok (candidates.filter fun other => other.rule.offers candidate.rule.approximation) ∧
      candidate.rule.offers candidate.rule.approximation = true := by
  obtain ⟨bucket, bucketed, found⟩ := bind_eq_ok.mp found
  have filed : candidate.rule ∈ resolver.catalog.bucketRules bucket :=
    (Catalog.fits_of_tryRules found member).1
  have own := named bucket candidate.rule filed
  refine ⟨?_, Rule.offers_own own⟩
  rw [matching, retained.socket, bucketed, method]
  refine Catalog.tryRules_narrower ?_ found
  intro rule listed alike
  exact Rule.offers_of_offers_own own (named bucket rule listed)
    (Catalog.tryRules_offers found member) alike

/-- A decision that was made is made again. -/
theorem decision_again (named : resolver.catalog.NamesMethods)
    (decided : resolver.decision node entry arriving = .ok result) :
    Retains entry result ∧ resolver.decision node result arriving = .ok result := by
  rw [decision_eq] at decided
  obtain ⟨exactOnes, foundExact, chosen⟩ := bind_eq_ok.mp decided
  rcases choose_eq_ok chosen with ⟨nothing, later⟩ | ⟨candidate, single, accepted⟩
  · obtain ⟨approximateOnes, foundApproximate, chosen⟩ := bind_eq_ok.mp later
    rcases choose_eq_ok chosen with ⟨_, impossible⟩ | ⟨candidate, single, accepted⟩
    · cases impossible
    · obtain ⟨retained, method, again⟩ := accept_again accepted
      have kept : candidate ∈ keepPinned node entry.pinned approximateOnes := by
        rw [single]
        exact List.mem_singleton_self candidate
      have member : candidate ∈ approximateOnes := mem_of_mem_keepPinned kept
      obtain ⟨narrowed, own⟩ :=
        matching_approximate_again named retained foundApproximate member method
      refine ⟨retained, ?_⟩
      rw [decision_eq, matching_exact_again retained, foundExact, Partial.ok_bind, narrowed,
        Partial.ok_bind, retained.pinned, nothing, keepPinned_filter, single,
        List.filter_cons_of_pos (by exact own), List.filter_nil, choose, choose, retained.pinned]
      exact again
  · obtain ⟨retained, _, again⟩ := accept_again accepted
    refine ⟨retained, ?_⟩
    rw [decision_eq, matching_exact_again retained, foundExact, Partial.ok_bind, retained.pinned,
      single, choose, retained.pinned]
    exact again

end Deciding

/-! ### Entries and schedules -/

section Entries

variable {resolver : Resolver} {resolveInner : LeafTypes → Schedule → Except Fault Schedule}
  {leafTypes : LeafTypes} {entry result : Entry}

theorem resolveLeaf_again {node : Node} (resolved : resolveLeaf leafTypes node entry = .ok result) :
    Retains entry result ∧ resolveLeaf leafTypes node result = .ok result := by
  obtain ⟨outbound, typed, passed⟩ := bind_eq_ok.mp resolved
  obtain ⟨_, rfl, _⟩ := resolveLeaf_inv resolved
  refine ⟨⟨rfl, rfl, rfl⟩, ?_⟩
  rw [resolveLeaf, typed, Partial.ok_bind]
  exact passed

theorem resolveComposite_again {node : Node} {arriving : List (Option Pattern)} {inner : Schedule}
    (resolved : resolver.resolveComposite node entry arriving inner = .ok result) :
    Retains entry result ∧ resolver.resolveComposite node result arriving inner = .ok result := by
  obtain ⟨index, last, _, located, computed, same⟩ := resolveComposite_inv resolved
  have retained : Retains entry result := by
    rw [same]
    exact ⟨rfl, rfl, rfl⟩
  refine ⟨retained, ?_⟩
  rw [resolveComposite, located, Option.bind_some, computed] at resolved
  rw [resolveComposite, retained.socket, retained.pinned, located, Option.bind_some, computed]
  cases pinned : entry.pinned with
  | none =>
      rw [pinned] at resolved
      rw [← Except.ok.inj resolved]
      rfl
  | some pin =>
      rw [pinned] at resolved
      simp only at resolved ⊢
      split at resolved
      · cases resolved
      · rename_i agrees
        rw [if_neg agrees, ← Except.ok.inj resolved]
        rfl

/-- An entry that was resolved is resolved to itself. -/
theorem resolveEntryWith_again (named : resolver.catalog.NamesMethods) {index : Int} {place : Key}
    {known : Int → Option Entry}
    (accepted : resolver.resolveEntryWith resolveInner leafTypes entry index place known
      = .ok result) :
    resolver.resolveEntryWith resolveInner leafTypes result index place known = .ok result := by
  rw [resolveEntryWith_eq] at accepted ⊢
  obtain ⟨arriving, arrives, accepted⟩ := bind_eq_ok.mp (mapError_eq_ok.mp accepted)
  have again : Retains entry result ∧
      resolver.resolveArriving resolveInner leafTypes result arriving = .ok result := by
    unfold resolveArriving at accepted ⊢
    simp only at accepted ⊢
    split at accepted
    · rename_i outward
      obtain ⟨retained, again⟩ := resolveLeaf_again accepted
      exact ⟨retained, by rw [retained.socket, if_pos outward, again]⟩
    · rename_i inward
      split at accepted
      · rename_i template scheduled
        obtain ⟨inner, within, accepted⟩ := bind_eq_ok.mp accepted
        obtain ⟨retained, again⟩ := resolveComposite_again accepted
        refine ⟨retained, ?_⟩
        rw [retained.socket, if_neg inward, scheduled]
        exact bind_eq_ok.mpr ⟨inner, within, again⟩
      · rename_i plain
        obtain ⟨retained, again⟩ := decision_again named accepted
        refine ⟨retained, ?_⟩
        rw [retained.socket, if_neg inward, plain]
        exact again
  obtain ⟨retained, again⟩ := again
  have unchanged : resolver.arrivingTypes result index known
      = resolver.arrivingTypes entry index known := by
    rw [arrivingTypes, arrivingTypes, retained.socket, retained.inbounds]
  rw [unchanged, arrives]
  exact mapError_eq_ok.mpr again

/-- Entries that were resolved one after the other are resolved to themselves. -/
theorem resolvePrefixWith_again (named : resolver.catalog.NamesMethods)
    {done rest resolved : Schedule}
    (accepted : resolver.resolvePrefixWith resolveInner leafTypes done rest = (resolved, none)) :
    ∃ results, resolved = done ++ results ∧
      resolver.resolvePrefixWith resolveInner leafTypes done results = (resolved, none) := by
  induction rest generalizing done with
  | nil =>
      cases accepted
      exact ⟨[], (List.append_nil resolved).symm, rfl⟩
  | cons entry rest ih =>
      unfold resolvePrefixWith at accepted
      split at accepted
      · rename_i result here
        obtain ⟨results, same, again⟩ := ih accepted
        refine ⟨result :: results, ?_, ?_⟩
        · rw [same, List.append_assoc]
          rfl
        · unfold resolvePrefixWith
          rw [resolveEntryWith_again named here]
          exact again
      · cases accepted

end Entries

/-- Resolution is idempotent: a resolved schedule is resolved to itself, field by field and with the
same inner schedules. -/
theorem resolveAtDepth_idempotent {resolver : Resolver} (named : resolver.catalog.NamesMethods)
    {depth : Nat} {leafTypes : LeafTypes} {schedule resolved : Schedule}
    (accepted : resolver.resolveAtDepth depth leafTypes schedule = .ok resolved) :
    resolver.resolveAtDepth depth leafTypes resolved = .ok resolved := by
  cases depth with
  | zero => cases accepted
  | succ depth =>
      unfold resolveAtDepth at accepted ⊢
      split at accepted
      · rename_i outcome prefixed
        cases accepted
        obtain ⟨results, same, again⟩ := resolvePrefixWith_again named prefixed
        rw [List.nil_append] at same
        rw [← same] at again
        rw [again]
      · cases accepted

/-- A pin without a method: the rule that produces it brings the method along. -/
def probedPin : Entry where
  socket := ⟨0, 0⟩
  inbounds := [some (.entry 0)]
  outbound := some (.typed ⟨"MvGaussian", [.number 3]⟩)
  pinned := some (.typed ⟨"MvGaussian", [.number 3]⟩)

theorem probing_namesMethods : (Catalog.built probing).NamesMethods := by
  intro bucket rule filed method offered
  rw [(Catalog.built_coherent probing).filed bucket] at filed
  have listed : (Catalog.built probing).rules.map Rule.approximation
      = [none, some (.named "VMP"), some (.named "EP")] := rfl
  have member := List.mem_map_of_mem (f := Rule.approximation) (List.mem_filter.mp filed).1
  rw [listed, offered] at member
  simp only [List.mem_cons, Option.some.injEq, List.not_mem_nil, or_false, reduceCtorEq,
    false_or] at member
  rcases member with rfl | rfl
  · exact ⟨"VMP", rfl⟩
  · exact ⟨"EP", rfl⟩

theorem resolveAtDepth_idempotent_probed : ∃ resolved,
    resolveAtDepth ⟨probed, Catalog.built probing⟩ 1
      [("t", some (.typed ⟨"MvGaussian", [.number 3]⟩))] [{ socket := ⟨1, 0⟩ }, probedPin]
      = .ok resolved ∧
    resolved.map Entry.approximation = [none, some (.named "VMP")] ∧
    resolveAtDepth ⟨probed, Catalog.built probing⟩ 1
      [("t", some (.typed ⟨"MvGaussian", [.number 3]⟩))] resolved = .ok resolved := by
  have accepted : ∃ resolved, resolveAtDepth ⟨probed, Catalog.built probing⟩ 1
      [("t", some (.typed ⟨"MvGaussian", [.number 3]⟩))] [{ socket := ⟨1, 0⟩ }, probedPin]
      = .ok resolved ∧ resolved.map Entry.approximation = [none, some (.named "VMP")] :=
    ⟨_, rfl, rfl⟩
  obtain ⟨resolved, accepting, filled⟩ := accepted
  exact ⟨resolved, accepting, filled, resolveAtDepth_idempotent probing_namesMethods accepting⟩

end Resolver

end SumProduct
