/-
What resolution establishes about every entry.

A resolved entry is certified by the reason for which resolution accepted it: a leaf, a composite node
whose inner schedule is certified in turn, or a rule of the catalog that matched what arrives.  The
certificate does not mention how deep inner schedules may be nested, so it holds at every depth.
-/

import SumProduct.Proofs.Selection

set_option autoImplicit false

namespace SumProduct

open Partial (bind_eq_ok mapError_eq_ok map_eq_ok)

/-- The entry with the given index, if there is one. -/
def Schedule.entry? (schedule : Schedule) (index : Int) : Option Entry :=
  if 0 ≤ index then schedule[index.toNat]? else none

/-- The status of entries that a rule of the given category computes. -/
def Category.status : Category → Status
  | exact => .exact
  | approximate => .approximate

namespace Resolver

/-- A rule of the catalog computes the entry. -/
structure RuleChosen (resolver : Resolver) (done : Schedule) (entry : Entry)
    (arriving : List (Option Pattern)) (candidate : Candidate) (type : MessageType)
    (category : Category) : Prop where
  arrives : resolver.arrivingTypes entry done.length done.entry? = .ok arriving
  filed : ∃ bucket, Bucket.of (resolver.network.node entry.socket.node).kind
    (.whole entry.socket.slot) category = .ok bucket ∧
      candidate.rule ∈ resolver.catalog.bucketRules bucket
  fits : candidate.Fits (resolver.network.node entry.socket.node) arriving
  yields : candidate.outbound (some (resolver.network.node entry.socket.node).facts) = .ok type
  outbound : entry.outbound = some (.typed type)
  rule : entry.rule = some candidate.rule.id.toValue
  approximation : entry.approximation = candidate.rule.approximation
  status : entry.status = category.status

/-- Why an entry was accepted after the entries in `done`. -/
inductive EntryResolved (resolver : Resolver) : LeafTypes → Schedule → Entry → Prop
  | leaf {leafTypes : LeafTypes} {done : Schedule} {entry : Entry}
      {arriving : List (Option Pattern)}
      (outward : (resolver.network.node entry.socket.node).isLeaf = true)
      (arrives : resolver.arrivingTypes entry done.length done.entry? = .ok arriving)
      (status : entry.status = .leaf)
      (supplied : (resolver.network.node entry.socket.node).isTerminal = true →
        leafTypes.get? (resolver.network.node entry.socket.node).id = some entry.outbound) :
      EntryResolved resolver leafTypes done entry
  | composite {leafTypes : LeafTypes} {done : Schedule} {entry : Entry}
      {arriving : List (Option Pattern)} {inner : Schedule} {result : Entry} {index : Nat}
      (inward : (resolver.network.node entry.socket.node).isLeaf = false)
      (scheduled : ((resolver.network.node entry.socket.node).innerSchedule?
        entry.socket.slot).isSome = true)
      (arrives : resolver.arrivingTypes entry done.length done.entry? = .ok arriving)
      (status : entry.status = .composite)
      (held : entry.inner = some inner)
      (resolved : ∀ place other, inner[place]? = some other → EntryResolved resolver
        (resolver.terminalTypes (resolver.network.node entry.socket.node) entry.socket.slot arriving)
        (inner.take place) other)
      (last : resultIndex? resolver.network (resolver.network.node entry.socket.node)
        entry.socket.slot inner = some index)
      (computed : inner[index]? = some result)
      (outbound : entry.outbound = result.outbound) :
      EntryResolved resolver leafTypes done entry
  | rule {leafTypes : LeafTypes} {done : Schedule} {entry : Entry}
      {arriving : List (Option Pattern)} {candidate : Candidate} {type : MessageType}
      {category : Category}
      (inward : (resolver.network.node entry.socket.node).isLeaf = false)
      (plain : (resolver.network.node entry.socket.node).innerSchedule? entry.socket.slot = none)
      (chosen : resolver.RuleChosen done entry arriving candidate type category) :
      EntryResolved resolver leafTypes done entry

/-- What arrives through a reference has the type of the earlier entry that it points to. -/
def Arrives (done : Schedule) : Option Reference → Option Pattern → Prop
  | none, type => type = none
  | some reference, type => reference.isBefore done.length = .ok true ∧
      ∃ index earlier, reference.index? = some index ∧ done.entry? index = some earlier ∧
        type = earlier.outbound

/-- A rule that was chosen stands in the catalog, under the category that was searched. -/
theorem RuleChosen.rule_mem {resolver : Resolver} {done : Schedule} {entry : Entry}
    {arriving : List (Option Pattern)} {candidate : Candidate} {type : MessageType}
    {category : Category} (coherent : resolver.catalog.Coherent)
    (chosen : resolver.RuleChosen done entry arriving candidate type category) :
    candidate.rule ∈ resolver.catalog.rules ∧ candidate.rule.category = category := by
  obtain ⟨bucket, bucketed, member⟩ := chosen.filed
  rw [coherent.filed, List.mem_filter, decide_eq_true_iff] at member
  refine ⟨member.1, ?_⟩
  obtain ⟨kind, _, bucketed⟩ := bind_eq_ok.mp bucketed
  obtain ⟨slot, _, bucketed⟩ := bind_eq_ok.mp bucketed
  obtain ⟨ruleKind, _, ruleBucketed⟩ := bind_eq_ok.mp member.2
  obtain ⟨ruleSlot, _, ruleBucketed⟩ := bind_eq_ok.mp ruleBucketed
  rw [← Except.ok.inj bucketed] at ruleBucketed
  exact congrArg Bucket.category (Except.ok.inj ruleBucketed)

/-- Every entry is certified by the entries before it. -/
def ScheduleResolved (resolver : Resolver) (leafTypes : LeafTypes) (schedule : Schedule) : Prop :=
  ∀ place entry, schedule[place]? = some entry →
    resolver.EntryResolved leafTypes (schedule.take place) entry

end Resolver

/-! ### Candidates -/

section Candidates

variable {arriving : List (Option Pattern)} {asked : Option Method} {node : Node}
  {candidate : Candidate}

theorem Catalog.fits_of_tryRule {rule : Rule}
    (tried : Catalog.tryRule arriving asked (some node.facts) rule = .ok (some candidate)) :
    candidate.rule = rule ∧ candidate.Fits node arriving := by
  unfold Catalog.tryRule at tried
  split at tried
  · cases tried
  · obtain ⟨found, matched, tried⟩ := bind_eq_ok.mp tried
    cases found with
    | none => cases tried
    | some bindings =>
        obtain ⟨agrees, agreed, tried⟩ := bind_eq_ok.mp tried
        cases agrees with
        | false => cases tried
        | true =>
            cases tried
            exact ⟨rfl, matched, agreed⟩

theorem Catalog.fits_of_tryRules {rules : List Rule} {candidates : List Candidate}
    (tried : Catalog.tryRules arriving asked (some node.facts) rules = .ok candidates)
    (member : candidate ∈ candidates) :
    candidate.rule ∈ rules ∧ candidate.Fits node arriving := by
  induction rules generalizing candidates with
  | nil =>
      cases tried
      cases member
  | cons rule rest ih =>
      obtain ⟨found, here, tried⟩ := bind_eq_ok.mp tried
      obtain ⟨others, later, tried⟩ := bind_eq_ok.mp tried
      cases tried
      rcases List.mem_append.mp member with first | second
      · rw [Option.mem_toList.mp first] at here
        obtain ⟨same, fits⟩ := Catalog.fits_of_tryRule here
        exact ⟨same ▸ List.mem_cons_self, fits⟩
      · obtain ⟨listed, fits⟩ := ih later second
        exact ⟨List.mem_cons_of_mem rule listed, fits⟩

theorem Candidate.outbound_of_produces {pin : Pattern}
    (produces : candidate.produces pin (some node.facts) = true) :
    ∃ type, candidate.outbound (some node.facts) = .ok type ∧ pin = .typed type := by
  unfold Candidate.produces at produces
  cases computed : candidate.outbound (some node.facts) with
  | error fault =>
      rw [computed] at produces
      cases produces
  | ok type =>
      rw [computed] at produces
      exact ⟨type, rfl, (of_decide_eq_true produces).symm⟩

end Candidates

namespace Resolver

section Accepting

variable {resolver : Resolver} {node : Node} {entry result : Entry}
  {arriving : List (Option Pattern)} {category : Category}

/-- An entry that a rule of the given category computes, with the type that the rule yields. -/
structure TakenOver (node : Node) (entry result : Entry) (candidate : Candidate) (type : MessageType)
    (status : Status) : Prop where
  yields : candidate.outbound (some node.facts) = .ok type
  same : result = { entry with
    outbound := some (.typed type)
    rule := some candidate.rule.id.toValue
    approximation := candidate.rule.approximation
    status := status }

theorem accept_inv {candidate : Candidate} {candidates : List Candidate} {status : Status}
    (kept : candidate ∈ keepPinned node entry.pinned candidates)
    (accepted : accept node entry candidate status entry.pinned = .ok result) :
    ∃ type, TakenOver node entry result candidate type status := by
  unfold accept at accepted
  split at accepted
  · rename_i pin pinned
    rw [pinned] at kept
    obtain ⟨type, computed, rfl⟩ :=
      Candidate.outbound_of_produces (List.mem_filter.mp kept).2
    cases accepted
    exact ⟨type, computed, rfl⟩
  · obtain ⟨pattern, mapped, accepted⟩ := bind_eq_ok.mp accepted
    obtain ⟨type, computed, rfl⟩ := map_eq_ok.mp mapped
    cases accepted
    exact ⟨type, computed, rfl⟩

theorem choose_inv {status : Status} {otherwise : Except Fault Entry} {candidates : List Candidate}
    (chosen : resolver.choose node entry arriving category status otherwise
      (keepPinned node entry.pinned candidates) = .ok result) :
    otherwise = .ok result ∨
      ∃ candidate ∈ candidates, ∃ type, TakenOver node entry result candidate type status := by
  cases kept : keepPinned node entry.pinned candidates with
  | nil =>
      rw [kept] at chosen
      exact Or.inl chosen
  | cons first others =>
      have member : first ∈ keepPinned node entry.pinned candidates := by
        rw [kept]
        exact List.mem_cons_self
      rw [kept] at chosen
      cases others with
      | nil => exact Or.inr ⟨first, mem_of_mem_keepPinned member, accept_inv member chosen⟩
      | cons second rest => cases chosen

theorem matching_inv {candidates : List Candidate}
    (found : resolver.matching node entry arriving category = .ok candidates) {candidate : Candidate}
    (member : candidate ∈ candidates) :
    (∃ bucket, Bucket.of node.kind (.whole entry.socket.slot) category = .ok bucket ∧
      candidate.rule ∈ resolver.catalog.bucketRules bucket) ∧ candidate.Fits node arriving := by
  obtain ⟨bucket, bucketed, found⟩ := bind_eq_ok.mp found
  obtain ⟨listed, fits⟩ := Catalog.fits_of_tryRules found member
  exact ⟨⟨bucket, bucketed, listed⟩, fits⟩

/-- An entry that is decided by rules is taken over from a matching candidate. -/
theorem decision_inv
    (decided : resolver.decision node entry arriving = .ok result) :
    ∃ category candidate type,
      (∃ bucket, Bucket.of node.kind (.whole entry.socket.slot) category = .ok bucket ∧
        candidate.rule ∈ resolver.catalog.bucketRules bucket) ∧ candidate.Fits node arriving ∧
      TakenOver node entry result candidate type category.status := by
  rw [decision_eq] at decided
  obtain ⟨exactOnes, foundExact, chosen⟩ := bind_eq_ok.mp decided
  rcases choose_inv chosen with later | ⟨candidate, member, type, taken⟩
  · obtain ⟨approximateOnes, foundApproximate, chosen⟩ := bind_eq_ok.mp later
    rcases choose_inv chosen with nothing | ⟨candidate, member, type, taken⟩
    · cases nothing
    · obtain ⟨filed, fits⟩ := matching_inv foundApproximate member
      exact ⟨.approximate, candidate, type, filed, fits, taken⟩
  · obtain ⟨filed, fits⟩ := matching_inv foundExact member
    exact ⟨.exact, candidate, type, filed, fits, taken⟩

end Accepting

/-! ### References -/

section References

variable {resolver : Resolver} {leafTypes : LeafTypes} {done : Schedule} {entry : Entry}
  {arriving : List (Option Pattern)}

theorem arrivingType_inv {socket : Socket} {found : Option Reference} {type : Option Pattern}
    (arrives : resolver.arrivingType done.length done.entry? (socket, found) = .ok type) :
    Arrives done found type := by
  cases found with
  | none => exact (Except.ok.inj arrives).symm
  | some reference =>
      obtain ⟨before, compared, arrives⟩ := bind_eq_ok.mp arrives
      cases before with
      | false => cases arrives
      | true =>
          simp only [Bool.not_true, Bool.false_eq_true, if_false] at arrives
          split at arrives
          · cases arrives
          · rename_i earlier located
            obtain ⟨index, known, present⟩ := Option.bind_eq_some_iff.mp located
            split at arrives
            · cases arrives
            · split at arrives
              · exact ⟨compared, index, earlier, known, present, (Except.ok.inj arrives).symm⟩
              · cases arrives

theorem arrivingTypes_inv
    (arrives : resolver.arrivingTypes entry done.length done.entry? = .ok arriving) :
    List.Forall₂ (Arrives done) entry.inbounds arriving := by
  unfold arrivingTypes at arrives
  simp only at arrives
  split at arrives
  · cases arrives
  · rename_i counted
    have lengths : entry.inbounds.length ≤ (resolver.network.otherSockets entry.socket).length :=
      Nat.le_of_eq (not_not.mp counted)
    have each := Partial.mapM_eq_ok.mp arrives
    rw [← List.map_snd_zip lengths, List.forall₂_map_left_iff]
    exact each.imp fun _ _ => arrivingType_inv

theorem EntryResolved.arrives (certified : resolver.EntryResolved leafTypes done entry) :
    ∃ arriving, resolver.arrivingTypes entry done.length done.entry? = .ok arriving := by
  cases certified with
  | leaf _ arrives => exact ⟨_, arrives⟩
  | composite _ _ arrives => exact ⟨_, arrives⟩
  | rule _ _ chosen => exact ⟨_, chosen.arrives⟩

/-- References of a certified entry point to entries before it. -/
theorem EntryResolved.isBefore (certified : resolver.EntryResolved leafTypes done entry)
    {reference : Reference} (member : some reference ∈ entry.inbounds) :
    reference.isBefore done.length = .ok true := by
  obtain ⟨arriving, arrives⟩ := certified.arrives
  obtain ⟨type, _, found⟩ := Partial.exists_of_mem_left (arrivingTypes_inv arrives) member
  exact found.1

end References

/-! ### Entries and schedules -/

section Entries

variable {resolver : Resolver} {resolveInner : LeafTypes → Schedule → Except Fault Schedule}
  {leafTypes : LeafTypes} {done : Schedule} {entry result : Entry}

theorem resolveLeaf_inv {node : Node}
    (resolved : resolveLeaf leafTypes node entry = .ok result) :
    ∃ outbound, result = { entry with outbound := outbound, status := .leaf } ∧
      (node.isTerminal = true → leafTypes.get? node.id = some outbound) := by
  obtain ⟨outbound, typed, resolved⟩ := bind_eq_ok.mp resolved
  have same : result = { entry with outbound := outbound, status := .leaf } := by
    split at resolved
    · split at resolved
      · cases resolved
      · exact (Except.ok.inj resolved).symm
    · exact (Except.ok.inj resolved).symm
  refine ⟨outbound, same, fun terminal => ?_⟩
  unfold leafType at typed
  cases supplied : leafTypes.get? node.id with
  | some type =>
      rw [supplied] at typed
      exact congrArg some (Except.ok.inj typed)
  | none =>
      rw [supplied] at typed
      unfold Node.isTerminal at terminal
      cases role : node.role with
      | terminal =>
          rw [role] at typed
          cases typed
      | factor | constant _ | gain _ | composite _ _ _ =>
          rw [role] at terminal
          cases terminal

theorem resolveComposite_inv {node : Node} {arriving : List (Option Pattern)} {inner : Schedule}
    (resolved : resolver.resolveComposite node entry arriving inner = .ok result) :
    ∃ index last rule, resultIndex? resolver.network node entry.socket.slot inner = some index ∧
      inner[index]? = some last ∧
      result = { entry with
        outbound := last.outbound
        rule := rule
        status := .composite
        inner := some inner } := by
  unfold resolveComposite at resolved
  cases found : (resultIndex? resolver.network node entry.socket.slot inner).bind
      fun index => inner[index]? with
  | none =>
      rw [found] at resolved
      cases resolved
  | some last =>
      obtain ⟨index, located, computed⟩ := Option.bind_eq_some_iff.mp found
      rw [found] at resolved
      refine ⟨index, last, some (.text (node.kind.plain ++ "." ++ node.interfaceName entry.socket.slot)),
        located, computed, ?_⟩
      simp only at resolved
      split at resolved
      · split at resolved
        · cases resolved
        · exact (Except.ok.inj resolved).symm
      · exact (Except.ok.inj resolved).symm

/-- How an entry is resolved once it is known what arrives at its node. -/
def resolveArriving (resolver : Resolver)
    (resolveInner : LeafTypes → Schedule → Except Fault Schedule) (leafTypes : LeafTypes)
    (entry : Entry) (arriving : List (Option Pattern)) : Except Fault Entry :=
  let node := resolver.network.node entry.socket.node
  if node.isLeaf then resolveLeaf leafTypes node entry
  else
    match node.innerSchedule? entry.socket.slot with
    | some schedule => do
      let inner ← resolveInner (resolver.terminalTypes node entry.socket.slot arriving) schedule
      resolver.resolveComposite node entry arriving inner
    | none => resolver.decision node entry arriving

theorem resolveEntryWith_eq (resolver : Resolver)
    (resolveInner : LeafTypes → Schedule → Except Fault Schedule) (leafTypes : LeafTypes)
    (entry : Entry) (index : Int) (place : Key) (known : Int → Option Entry) :
    resolver.resolveEntryWith resolveInner leafTypes entry index place known
      = (resolver.arrivingTypes entry index known
          >>= resolver.resolveArriving resolveInner leafTypes entry).mapError
        (Fault.addContext (some place) (some (resolver.network.node entry.socket.node).id)) := rfl

/-- One resolution step certifies the entry, provided that inner schedules are certified. -/
theorem resolveEntryWith_resolved {place : Key}
    (inwards : ∀ types schedule inner, resolveInner types schedule = .ok inner →
      resolver.ScheduleResolved types inner)
    (accepted : resolver.resolveEntryWith resolveInner leafTypes entry done.length place done.entry?
      = .ok result) : resolver.EntryResolved leafTypes done result := by
  obtain ⟨arriving, arrives, accepted⟩ := bind_eq_ok.mp (mapError_eq_ok.mp accepted)
  split at accepted
  · rename_i outward
    obtain ⟨outbound, rfl, supplied⟩ := resolveLeaf_inv accepted
    exact .leaf outward arrives rfl supplied
  · rename_i notLeaf
    have inward := Bool.eq_false_iff.mpr notLeaf
    split at accepted
    · rename_i template scheduled
      obtain ⟨inner, resolvedInner, accepted⟩ := bind_eq_ok.mp accepted
      obtain ⟨index, last, rule, located, computed, rfl⟩ := resolveComposite_inv accepted
      exact .composite inward (by rw [scheduled]; rfl) arrives rfl rfl
        (inwards _ _ _ resolvedInner) located computed rfl
    · rename_i plain
      obtain ⟨category, candidate, type, filed, fits, taken⟩ := decision_inv accepted
      obtain ⟨yields, rfl⟩ := taken
      exact .rule inward plain ⟨arrives, filed, fits, yields, rfl, rfl, rfl, rfl⟩

theorem ScheduleResolved.append (certified : resolver.ScheduleResolved leafTypes done)
    (next : resolver.EntryResolved leafTypes done result) :
    resolver.ScheduleResolved leafTypes (done ++ [result]) := by
  intro place other found
  rcases Nat.lt_trichotomy place done.length with before | here | after
  · rw [List.getElem?_append_left before] at found
    rw [List.take_append_of_le_length (Nat.le_of_lt before)]
    exact certified place other found
  · subst here
    rw [List.getElem?_append_right (Nat.le_refl _), Nat.sub_self] at found
    cases found
    rw [List.take_left']
    · exact next
    · rfl
  · rw [List.getElem?_eq_none (by rw [List.length_append, List.length_singleton]; omega)] at found
    cases found

theorem resolvePrefixWith_resolved
    (inwards : ∀ types schedule inner, resolveInner types schedule = .ok inner →
      resolver.ScheduleResolved types inner) {rest resolved : Schedule}
    (certified : resolver.ScheduleResolved leafTypes done)
    (accepted : resolver.resolvePrefixWith resolveInner leafTypes done rest = (resolved, none)) :
    resolver.ScheduleResolved leafTypes resolved := by
  induction rest generalizing done with
  | nil =>
      cases accepted
      exact certified
  | cons entry rest ih =>
      unfold resolvePrefixWith at accepted
      split at accepted
      · rename_i result accepting
        exact ih (certified.append (resolveEntryWith_resolved inwards accepting)) accepted
      · cases accepted

/-- Whatever the depth to which inner schedules may be nested, an accepted schedule is certified. -/
theorem resolveAtDepth_resolved {depth : Nat} {schedule resolved : Schedule}
    (accepted : resolver.resolveAtDepth depth leafTypes schedule = .ok resolved) :
    resolver.ScheduleResolved leafTypes resolved := by
  induction depth generalizing leafTypes schedule resolved with
  | zero => cases accepted
  | succ depth ih =>
      unfold resolveAtDepth at accepted
      split at accepted
      · rename_i outcome prefixed
        cases accepted
        refine resolvePrefixWith_resolved (fun types schedule inner => ih) ?_ prefixed
        intro place other found
        cases found
      · cases accepted

end Entries

end Resolver

end SumProduct
