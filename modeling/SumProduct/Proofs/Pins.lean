/-
What a pin demands, and what it changes.

A pinned entry gets the type that it is pinned to or is refused, whichever way it is resolved.  A pin to
the type that an entry gets anyway changes nothing: rules are picked among those that produce the pin, but
the rule that was picked without a pin is one of them, and where no rule matched none is left by the pin.
-/

import SumProduct.Proofs.Guarantees

set_option autoImplicit false

namespace SumProduct

open Partial (bind_eq_ok)

/-- The entry with another outbound type and another pin. -/
def Entry.withPin (entry : Entry) (outbound pinned : Option Pattern) : Entry :=
  { entry with outbound := outbound, pinned := pinned }

theorem Entry.withPin_own (entry : Entry) : entry.withPin entry.outbound entry.pinned = entry := by
  cases entry
  rfl

/-- The other entry is the same, or it is pinned to the given type where the entry has no pin. -/
inductive Entry.Pins (entry : Entry) (type : Option Pattern) : Entry → Prop
  | kept : Entry.Pins entry type entry
  | pin (outbound : Option Pattern) (unpinned : entry.pinned = none) :
      Entry.Pins entry type (entry.withPin outbound type)

/-- Some of the entries without a pin are pinned to the types that they get. -/
structure Schedule.Pins (schedule resolved pinned : Schedule) : Prop where
  length : pinned.length = schedule.length
  each : ∀ (place : Nat) source entry other, schedule[place]? = some source →
    resolved[place]? = some entry → pinned[place]? = some other → source.Pins entry.outbound other

/-- The resolved schedule with the pins of another one. -/
def Schedule.withPinsOf (resolved pinned : Schedule) : Schedule :=
  resolved.zipWith (fun entry other => entry.withPin entry.outbound other.pinned) pinned

/-- The pin is kept and is the type of the message. -/
structure Entry.KeepsPin (source entry : Entry) : Prop where
  pinned : entry.pinned = source.pinned
  outbound : ∀ pin, source.pinned = some pin → entry.outbound = some pin

namespace Resolver

/-- What resolution makes of the pin of an entry.  Where a rule computes the message, the type is the one
that the rule yields. -/
structure HonoursPin (resolver : Resolver) (done : Schedule) (source entry : Entry) : Prop where
  kept : source.KeepsPin entry
  substituted : entry.status = .exact ∨ entry.status = .approximate →
    ∃ arriving candidate type category,
      resolver.RuleChosen done entry arriving candidate type category

/-- The pins of all entries are honoured, also those inside composite entries. -/
inductive HonoursPins (resolver : Resolver) : Schedule → Schedule → Prop
  | intro {schedule resolved : Schedule} (counted : resolved.length = schedule.length)
      (each : ∀ (place : Nat) source entry, schedule[place]? = some source →
        resolved[place]? = some entry → resolver.HonoursPin (resolved.take place) source entry)
      (within : ∀ (place : Nat) entry template inner, resolved[place]? = some entry →
        (resolver.network.node entry.socket.node).innerSchedule? entry.socket.slot = some template →
        entry.inner = some inner → HonoursPins resolver template inner) :
      HonoursPins resolver schedule resolved

variable {resolver : Resolver} {resolveInner : LeafTypes → Schedule → Except Fault Schedule}
  {leafTypes : LeafTypes} {node : Node} {entry result : Entry} {arriving : List (Option Pattern)}

/-! ### Pins are honoured -/

theorem resolveLeaf_honours (resolved : resolveLeaf leafTypes node entry = .ok result) :
    entry.KeepsPin result := by
  obtain ⟨outbound, typed, passed⟩ := bind_eq_ok.mp resolved
  cases pinned : entry.pinned with
  | none =>
      rw [pinned] at passed
      rw [← Except.ok.inj passed]
      exact ⟨pinned.symm, fun pin given => nomatch pinned.symm.trans given⟩
  | some pin =>
      rw [pinned] at passed
      simp only at passed
      split at passed
      · cases passed
      · rename_i agrees
        rw [← Except.ok.inj passed]
        refine ⟨pinned.symm, fun other given => ?_⟩
        rw [Option.some.inj (given.symm.trans pinned)]
        exact (not_not.mp agrees).symm

theorem resolveComposite_honours {inner : Schedule}
    (resolved : resolver.resolveComposite node entry arriving inner = .ok result) :
    entry.KeepsPin result := by
  obtain ⟨index, last, rule, located, computed, same⟩ := resolveComposite_inv resolved
  refine ⟨by rw [same], fun pin pinned => ?_⟩
  rw [resolveComposite, located, Option.bind_some, computed, pinned] at resolved
  simp only at resolved
  split at resolved
  · cases resolved
  · rename_i agrees
    rw [same]
    exact (not_not.mp agrees).symm

theorem accept_honours {candidate : Candidate} {status : Status}
    (accepted : accept node entry candidate status entry.pinned = .ok result) :
    entry.KeepsPin result := by
  refine ⟨(accept_again accepted).1.pinned, fun pin pinned => ?_⟩
  unfold accept at accepted
  rw [pinned] at accepted
  rw [← Except.ok.inj accepted]

theorem decision_honours (decided : resolver.decision node entry arriving = .ok result) :
    entry.KeepsPin result := by
  rw [decision_eq] at decided
  obtain ⟨exactOnes, _, chosen⟩ := bind_eq_ok.mp decided
  rcases choose_eq_ok chosen with ⟨_, later⟩ | ⟨candidate, _, accepted⟩
  · obtain ⟨approximateOnes, _, chosen⟩ := bind_eq_ok.mp later
    rcases choose_eq_ok chosen with ⟨_, impossible⟩ | ⟨candidate, _, accepted⟩
    · cases impossible
    · exact accept_honours accepted
  · exact accept_honours accepted

/-- Whichever way an entry is resolved, its pin is kept and is the type of the message. -/
theorem resolveArriving_honours
    (accepted : resolver.resolveArriving resolveInner leafTypes entry arriving = .ok result) :
    entry.KeepsPin result := by
  unfold resolveArriving at accepted
  simp only at accepted
  split at accepted
  · exact resolveLeaf_honours accepted
  · split at accepted
    · obtain ⟨inner, _, accepted⟩ := bind_eq_ok.mp accepted
      exact resolveComposite_honours accepted
    · exact decision_honours accepted

/-- What a resolved entry carries is its inner schedule, resolved. -/
theorem resolveArriving_inner {template inner : Schedule}
    (accepted : resolver.resolveArriving resolveInner leafTypes entry arriving = .ok result)
    (scheduled : (resolver.network.node result.socket.node).innerSchedule? result.socket.slot
      = some template) (held : result.inner = some inner) :
    ∃ types, resolveInner types template = .ok inner := by
  rw [(resolveArriving_retains accepted).1] at scheduled
  unfold resolveArriving at accepted
  simp only at accepted
  split at accepted
  · rename_i outward
    rw [Node.innerSchedule_of_isLeaf outward] at scheduled
    cases scheduled
  · rw [scheduled] at accepted
    obtain ⟨other, resolved, accepted⟩ := bind_eq_ok.mp accepted
    obtain ⟨_, _, _, _, _, rfl⟩ := resolveComposite_inv accepted
    cases held
    exact ⟨_, resolved⟩

theorem EntryResolved.substituted {done : Schedule}
    (certified : resolver.EntryResolved leafTypes done entry)
    (chosen : entry.status = .exact ∨ entry.status = .approximate) :
    ∃ arriving candidate type category,
      resolver.RuleChosen done entry arriving candidate type category := by
  cases certified with
  | leaf _ _ status =>
      rw [status] at chosen
      rcases chosen with impossible | impossible <;> cases impossible
  | composite _ _ _ status =>
      rw [status] at chosen
      rcases chosen with impossible | impossible <;> cases impossible
  | rule _ _ chosen => exact ⟨_, _, _, _, chosen⟩

theorem resolveAtDepth_honours {depth : Nat} {leafTypes : LeafTypes} {schedule resolved : Schedule}
    (accepted : resolver.resolveAtDepth depth leafTypes schedule = .ok resolved) :
    resolver.HonoursPins schedule resolved := by
  induction depth generalizing leafTypes schedule resolved with
  | zero => cases accepted
  | succ depth ih =>
      have certified := resolveAtDepth_resolved accepted
      obtain ⟨counted, each⟩ := resolveAtDepth_iff.mp accepted
      refine .intro counted (fun place source entry atPlace present => ?_) ?_
      · obtain ⟨arriving, _, accepted⟩ := bind_eq_ok.mp (each place source entry atPlace present)
        exact ⟨resolveArriving_honours accepted, (certified place entry present).substituted⟩
      · intro place entry template inner present scheduled held
        have inside := (List.getElem?_eq_some_iff.mp present).1
        have original := List.getElem?_eq_getElem (counted ▸ inside)
        obtain ⟨arriving, _, accepted⟩ := bind_eq_ok.mp (each place _ entry original present)
        obtain ⟨types, resolved⟩ := resolveArriving_inner accepted scheduled held
        exact ih resolved

/-! ### Pins to what is inferred -/

theorem resolveLeaf_withPin (unpinned : entry.pinned = none)
    (resolved : resolveLeaf leafTypes node entry = .ok result) (outbound : Option Pattern) :
    resolveLeaf leafTypes node (entry.withPin outbound result.outbound)
      = .ok (result.withPin result.outbound result.outbound) := by
  obtain ⟨type, typed, passed⟩ := bind_eq_ok.mp resolved
  rw [unpinned] at passed
  rw [← Except.ok.inj passed, resolveLeaf, typed, Partial.ok_bind]
  cases type with
  | none => rfl
  | some type =>
      simp only [Entry.withPin, ne_eq, not_true_eq_false, if_false]
      rfl

theorem resolveComposite_withPin {inner : Schedule} (unpinned : entry.pinned = none)
    (resolved : resolver.resolveComposite node entry arriving inner = .ok result)
    (outbound : Option Pattern) :
    resolver.resolveComposite node (entry.withPin outbound result.outbound) arriving inner
      = .ok (result.withPin result.outbound result.outbound) := by
  obtain ⟨index, last, _, located, computed, _⟩ := resolveComposite_inv resolved
  have alike : ∀ pinned, resultIndex? resolver.network node
      (entry.withPin outbound pinned).socket.slot inner = some index := fun _ => located
  rw [resolveComposite, located, Option.bind_some, computed, unpinned] at resolved
  rw [← Except.ok.inj resolved, resolveComposite, alike, Option.bind_some, computed]
  simp only [Entry.withPin]
  cases last.outbound with
  | none => rfl
  | some type =>
      simp only [ne_eq, not_true_eq_false, if_false]
      rfl

/-- The rule that is taken over produces the type that the entry gets. -/
theorem accept_withPin {candidate : Candidate} {status : Status}
    (accepted : accept node entry candidate status none = .ok result) (outbound : Option Pattern) :
    keepPinned node result.outbound [candidate] = [candidate] ∧
      accept node (entry.withPin outbound result.outbound) candidate status result.outbound
        = .ok (result.withPin result.outbound result.outbound) := by
  obtain ⟨pattern, mapped, accepted⟩ := bind_eq_ok.mp accepted
  obtain ⟨type, computed, rfl⟩ := Partial.map_eq_ok.mp mapped
  have produces : candidate.produces (.typed type) (some node.facts) = true := by
    rw [Candidate.produces, computed]
    exact decide_eq_true rfl
  rw [← Except.ok.inj accepted]
  exact ⟨List.filter_eq_self.mpr fun other member => List.mem_singleton.mp member ▸ produces, rfl⟩

/-- The only candidate is still the only one if the type that it yields is demanded. -/
theorem decision_withPin (unpinned : entry.pinned = none)
    (decided : resolver.decision node entry arriving = .ok result) (outbound : Option Pattern) :
    resolver.decision node (entry.withPin outbound result.outbound) arriving
      = .ok (result.withPin result.outbound result.outbound) := by
  have alike : ∀ category, resolver.matching node (entry.withPin outbound result.outbound) arriving
      category = resolver.matching node entry arriving category := fun _ => rfl
  have pinned : (entry.withPin outbound result.outbound).pinned = result.outbound := rfl
  rw [decision_eq, unpinned] at decided
  rw [decision_eq, alike, alike, pinned]
  obtain ⟨exactOnes, foundExact, chosen⟩ := bind_eq_ok.mp decided
  rw [foundExact, Partial.ok_bind]
  rcases choose_eq_ok chosen with ⟨nothing, later⟩ | ⟨candidate, single, accepted⟩
  · obtain ⟨approximateOnes, foundApproximate, chosen⟩ := bind_eq_ok.mp later
    rcases choose_eq_ok chosen with ⟨_, impossible⟩ | ⟨candidate, single, accepted⟩
    · cases impossible
    · rw [unpinned] at accepted
      obtain ⟨kept, again⟩ := accept_withPin accepted outbound
      have left : keepPinned node result.outbound exactOnes = [] := by
        rw [show exactOnes = [] from nothing]
        cases result.outbound <;> rfl
      rw [left, choose, foundApproximate, Partial.ok_bind, show approximateOnes = [candidate] from single,
        kept, choose, pinned]
      exact again
  · rw [unpinned] at accepted
    obtain ⟨kept, again⟩ := accept_withPin accepted outbound
    rw [show exactOnes = [candidate] from single, kept, choose, pinned]
    exact again

theorem resolveArriving_withPin (unpinned : entry.pinned = none)
    (accepted : resolver.resolveArriving resolveInner leafTypes entry arriving = .ok result)
    (outbound : Option Pattern) :
    resolver.resolveArriving resolveInner leafTypes (entry.withPin outbound result.outbound) arriving
      = .ok (result.withPin result.outbound result.outbound) := by
  have socket : (entry.withPin outbound result.outbound).socket = entry.socket := rfl
  unfold resolveArriving at accepted ⊢
  simp only [socket] at accepted ⊢
  split at accepted
  · rename_i outward
    rw [if_pos outward]
    exact resolveLeaf_withPin unpinned accepted outbound
  · rename_i inward
    rw [if_neg inward]
    split at accepted
    · obtain ⟨inner, resolved, accepted⟩ := bind_eq_ok.mp accepted
      rw [resolved, Partial.ok_bind]
      exact resolveComposite_withPin unpinned accepted outbound
    · exact decision_withPin unpinned accepted outbound

/-- What arrives does not depend on the pins of the entries that send it. -/
theorem arrivingTypes_congr {other : Entry} {index : Int} {known knownToo : Int → Option Entry}
    (socket : other.socket = entry.socket) (inbounds : other.inbounds = entry.inbounds)
    (alike : ∀ place, Option.Rel (fun sender same => ∃ pinned, same = sender.withPin sender.outbound pinned)
      (known place) (knownToo place)) :
    resolver.arrivingTypes other index knownToo = resolver.arrivingTypes entry index known := by
  have each : ∀ item, resolver.arrivingType index knownToo item = resolver.arrivingType index known item := by
    rintro ⟨socket, _ | reference⟩
    · rfl
    · rw [arrivingType, arrivingType]
      congr 1
      funext before
      cases reference.index? with
      | none => rfl
      | some place =>
          rw [Option.bind_some, Option.bind_some]
          have passed := alike place
          generalize known place = before, knownToo place = after at passed
          cases passed with
          | none => rfl
          | some same =>
              obtain ⟨pinned, rfl⟩ := same
              rfl
  unfold arrivingTypes
  simp only [socket, inbounds]
  rw [Partial.mapM_congr fun item _ => each item]

theorem Settles.withPinsOf {schedule resolved pinned : Schedule}
    (settles : resolver.Settles resolveInner leafTypes schedule resolved)
    (pins : Schedule.Pins schedule resolved pinned) :
    resolver.Settles resolveInner leafTypes pinned (resolved.withPinsOf pinned) := by
  obtain ⟨counted, each⟩ := settles
  refine ⟨?_, fun place other result atPlace atResult => ?_⟩
  · rw [Schedule.withPinsOf, List.length_zipWith, counted, pins.length, Nat.min_self]
  · have inside := (List.getElem?_eq_some_iff.mp atPlace).1
    rw [pins.length] at inside
    have original := List.getElem?_eq_getElem inside
    have present := List.getElem?_eq_getElem (counted ▸ inside)
    rw [Schedule.withPinsOf, List.getElem?_zipWith, present, atPlace] at atResult
    rw [← Option.some.inj atResult]
    obtain ⟨arriving, arrives, accepted⟩ := bind_eq_ok.mp (each place _ _ original present)
    -- The entries before the place differ in their pins only.
    have alike : ∀ index, Option.Rel
        (fun sender same => ∃ pin, same = Entry.withPin sender sender.outbound pin)
        (Schedule.entry? (resolved.take place) index)
        (Schedule.entry? ((resolved.withPinsOf pinned).take place) index) := by
      intro index
      unfold Schedule.entry?
      split
      · rw [Schedule.withPinsOf, List.take_zipWith, List.getElem?_zipWith]
        cases before : (resolved.take place)[index.toNat]? with
        | none => exact .none
        | some sender =>
            have early := (List.getElem?_eq_some_iff.mp before).1
            have asMany : index.toNat < (pinned.take place).length := by
              rw [List.length_take] at early ⊢
              rw [pins.length, ← counted]
              exact early
            rw [List.getElem?_eq_getElem asMany]
            exact .some ⟨_, rfl⟩
      · exact .none
    cases pins.each place _ _ other original present atPlace with
    | kept =>
        obtain ⟨same, _⟩ := resolveArriving_honours accepted
        rw [← same, Entry.withPin_own]
        exact bind_eq_ok.mpr ⟨arriving, (arrivingTypes_congr rfl rfl alike).trans arrives, accepted⟩
    | pin outbound unpinned =>
        exact bind_eq_ok.mpr ⟨arriving, (arrivingTypes_congr rfl rfl alike).trans arrives,
          resolveArriving_withPin unpinned accepted outbound⟩

/-- Pins are honoured, also inside composite entries, and they are conservative: pinning entries to the
types that they get anyway leaves everything else as it is. -/
theorem resolveAtDepth_pins {resolver : Resolver} {depth : Nat} {leafTypes : LeafTypes}
    {schedule resolved : Schedule}
    (accepted : resolver.resolveAtDepth depth leafTypes schedule = .ok resolved) :
    resolver.HonoursPins schedule resolved ∧
      ∀ pinned, Schedule.Pins schedule resolved pinned →
        resolver.resolveAtDepth depth leafTypes pinned = .ok (resolved.withPinsOf pinned) := by
  refine ⟨resolveAtDepth_honours accepted, fun pinned pins => ?_⟩
  cases depth with
  | zero => cases accepted
  | succ depth => exact resolveAtDepth_iff.mpr ((resolveAtDepth_iff.mp accepted).withPinsOf pins)

/-- The composite entry and the one that a rule computes, pinned to what they get. -/
def passingPins : Schedule :=
  [{ socket := ⟨1, 0⟩ },
    { socket := ⟨0, 0⟩, inbounds := [some (.entry 0)],
      pinned := some (.typed ⟨"MvGaussian", [.number 3]⟩) },
    { socket := ⟨0, 1⟩, inbounds := [none], outbound := some (.typed ⟨"Gaussian", []⟩),
      pinned := some (.typed ⟨"Gaussian", []⟩) }]

theorem resolveAtDepth_pins_passing : ∃ resolved,
    resolveAtDepth ⟨passing, Catalog.built passingRules⟩ 2
      [("t", some (.typed ⟨"MvGaussian", [.number 3]⟩))] passingSchedule = .ok resolved ∧
    HonoursPins ⟨passing, Catalog.built passingRules⟩ passingSchedule resolved ∧
    Schedule.Pins passingSchedule resolved passingPins ∧
    resolveAtDepth ⟨passing, Catalog.built passingRules⟩ 2
      [("t", some (.typed ⟨"MvGaussian", [.number 3]⟩))] passingPins
        = .ok (resolved.withPinsOf passingPins) := by
  have accepted : ∃ resolved, resolveAtDepth ⟨passing, Catalog.built passingRules⟩ 2
      [("t", some (.typed ⟨"MvGaussian", [.number 3]⟩))] passingSchedule = .ok resolved ∧
      resolved.map Entry.outbound = [some (.typed ⟨"MvGaussian", [.number 3]⟩),
        some (.typed ⟨"MvGaussian", [.number 3]⟩), some (.typed ⟨"Gaussian", []⟩)] := ⟨_, rfl, rfl⟩
  obtain ⟨resolved, accepting, typed⟩ := accepted
  have pins : Schedule.Pins passingSchedule resolved passingPins := by
    refine ⟨rfl, fun place source entry other atPlace present atPinned => ?_⟩
    have outbound : (resolved.map Entry.outbound)[place]? = some entry.outbound := by
      rw [List.getElem?_map, present]
      rfl
    rw [typed] at outbound
    match place with
    | 0 =>
        cases atPlace
        cases atPinned
        exact .kept
    | 1 =>
        cases atPlace
        cases atPinned
        exact Option.some.inj outbound ▸ .pin none rfl
    | 2 =>
        cases atPlace
        cases atPinned
        exact Option.some.inj outbound ▸ .pin _ rfl
  obtain ⟨honours, conservative⟩ := resolveAtDepth_pins accepting
  exact ⟨resolved, accepting, honours, pins, conservative _ pins⟩

end Resolver

end SumProduct
