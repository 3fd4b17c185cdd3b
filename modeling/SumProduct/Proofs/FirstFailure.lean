/-
Where resolution fails, and what the failure says about it.

A schedule is resolved entry by entry.  The entries before the first one that cannot be resolved are
resolved as they would be on their own, and the entries after it do not matter.  A compilation failure
names an entry and its node.  Whoever notices the failure fills in the names that are still open, so they
are those of the innermost entry that was being resolved.
-/

import SumProduct.Proofs.Guarantees
import SumProduct.Proofs.Nesting
import SumProduct.Proofs.RegistrationOrder

set_option autoImplicit false

namespace SumProduct

open Partial (bind_eq_ok bind_eq_error mapError_eq_ok)

namespace Resolver

/-! ### Prefixes -/

section Prefixes

variable {resolver : Resolver} {resolveInner : LeafTypes → Schedule → Except Fault Schedule}
  {leafTypes : LeafTypes} {schedule resolved : Schedule} {depth : Nat} {fault : Fault}

theorem Settles.take (settles : resolver.Settles resolveInner leafTypes schedule resolved)
    (count : Nat) :
    resolver.Settles resolveInner leafTypes (schedule.take count) (resolved.take count) := by
  obtain ⟨counted, each⟩ := settles
  refine ⟨by rw [List.length_take, List.length_take, counted], ?_⟩
  intro place entry result atPlace atResult
  have before : place < count := by
    have inside := (List.getElem?_eq_some_iff.mp atPlace).1
    rw [List.length_take] at inside
    omega
  rw [List.getElem?_take_of_lt before] at atPlace atResult
  rw [List.take_take, Nat.min_eq_left (Nat.le_of_lt before)]
  exact each place entry result atPlace atResult

/-- The first entries of a schedule that is resolved are resolved in the same way on their own. -/
theorem resolveAtDepth_take
    (accepted : resolver.resolveAtDepth depth leafTypes schedule = .ok resolved) (count : Nat) :
    resolver.resolveAtDepth depth leafTypes (schedule.take count) = .ok (resolved.take count) := by
  cases depth with
  | zero => cases accepted
  | succ depth => exact resolveAtDepth_iff.mpr ((resolveAtDepth_iff.mp accepted).take count)

/-- Entries are resolved up to the first one that fails. -/
theorem resolvePrefixWith_error_iff {done rest reached : Schedule} :
    resolver.resolvePrefixWith resolveInner leafTypes done rest = (reached, some fault) ↔
      ∃ index entry,
        resolver.resolvePrefixWith resolveInner leafTypes done (rest.take index) = (reached, none) ∧
        rest[index]? = some entry ∧
        resolver.resolveEntryWith resolveInner leafTypes entry reached.length
          (.whole reached.length) reached.entry? = .error fault := by
  induction rest generalizing done with
  | nil =>
      constructor
      · intro impossible
        cases impossible
      · rintro ⟨index, entry, _, impossible, _⟩
        cases impossible
  | cons entry rest ih =>
      cases here : resolver.resolveEntryWith resolveInner leafTypes entry done.length
          (.whole done.length) done.entry? with
      | error found =>
          have stopped : ∀ more, resolver.resolvePrefixWith resolveInner leafTypes done (entry :: more)
              = (done, some found) := fun _ => resolvePrefixWith_error here
          rw [stopped]
          constructor
          · rintro ⟨⟩
            exact ⟨0, entry, rfl, rfl, here⟩
          · rintro ⟨index, other, before, present, failed⟩
            cases index with
            | zero =>
                cases before
                cases present
                rw [Except.error.inj (here.symm.trans failed)]
            | succ index =>
                rw [List.take_succ_cons, stopped] at before
                cases before
      | ok result =>
          have onwards : ∀ more, resolver.resolvePrefixWith resolveInner leafTypes done (entry :: more)
              = resolver.resolvePrefixWith resolveInner leafTypes (done ++ [result]) more := by
            intro more
            rw [resolvePrefixWith]
            split
            · rename_i other accepted
              rw [Except.ok.inj (here.symm.trans accepted)]
            · rename_i other refused
              cases here.symm.trans refused
          rw [onwards, ih]
          constructor
          · rintro ⟨index, other, before, present, failed⟩
            refine ⟨index + 1, other, ?_, present, failed⟩
            rw [List.take_succ_cons, onwards]
            exact before
          · rintro ⟨index, other, before, present, failed⟩
            cases index with
            | zero =>
                cases before
                cases present
                cases here.symm.trans failed
            | succ index =>
                rw [List.take_succ_cons, onwards] at before
                exact ⟨index, other, before, present, failed⟩

/-- Resolution fails exactly with the failure of the first entry that cannot be resolved. -/
theorem resolveAtDepth_error_iff :
    resolver.resolveAtDepth (depth + 1) leafTypes schedule = .error fault ↔
      ∃ (index : Nat) (entry : Entry) (done : Schedule),
        resolver.resolveAtDepth (depth + 1) leafTypes (schedule.take index) = .ok done ∧
        done.length = index ∧ schedule[index]? = some entry ∧
        resolver.resolveEntryWith (resolver.resolveAtDepth depth) leafTypes entry index
          (.whole index) done.entry? = .error fault := by
  have accepted : ∀ part done, resolver.resolveAtDepth (depth + 1) leafTypes part = .ok done ↔
      resolver.resolvePrefixWith (resolver.resolveAtDepth depth) leafTypes [] part = (done, none) := by
    intro part done
    rw [resolveAtDepth]
    generalize resolver.resolvePrefixWith (resolver.resolveAtDepth depth) leafTypes [] part = outcome
    obtain ⟨reached, _ | found⟩ := outcome <;> simp
  have refused : resolver.resolveAtDepth (depth + 1) leafTypes schedule = .error fault ↔
      ∃ reached, resolver.resolvePrefixWith (resolver.resolveAtDepth depth) leafTypes [] schedule
        = (reached, some fault) := by
    rw [resolveAtDepth]
    generalize resolver.resolvePrefixWith (resolver.resolveAtDepth depth) leafTypes [] schedule = outcome
    obtain ⟨reached, _ | found⟩ := outcome <;> simp
  -- As many entries are done as were taken.
  have counted : ∀ {index : Nat} {entry : Entry} {done : Schedule}, schedule[index]? = some entry →
      resolver.resolveAtDepth (depth + 1) leafTypes (schedule.take index) = .ok done →
      done.length = index := by
    intro index entry done present before
    have inside := (List.getElem?_eq_some_iff.mp present).1
    rw [(resolveAtDepth_iff.mp before).1, List.length_take, Nat.min_eq_left (Nat.le_of_lt inside)]
  rw [refused]
  constructor
  · rintro ⟨reached, failed⟩
    obtain ⟨index, entry, before, present, failing⟩ := resolvePrefixWith_error_iff.mp failed
    have done := (accepted _ _).mpr before
    have length := counted present done
    rw [length] at failing
    exact ⟨index, entry, reached, done, length, present, failing⟩
  · rintro ⟨index, entry, done, before, length, present, failing⟩
    refine ⟨done, resolvePrefixWith_error_iff.mpr ⟨index, entry, (accepted _ _).mp before, present, ?_⟩⟩
    rw [length]
    exact failing

/-- The entries up to the failing one fail alike, whatever follows. -/
theorem resolveAtDepth_error_take {index : Nat} {entry : Entry} {done : Schedule}
    (before : resolver.resolveAtDepth (depth + 1) leafTypes (schedule.take index) = .ok done)
    (counted : done.length = index) (present : schedule[index]? = some entry)
    (failed : resolver.resolveEntryWith (resolver.resolveAtDepth depth) leafTypes entry index
      (.whole index) done.entry? = .error fault) :
    resolver.resolveAtDepth (depth + 1) leafTypes (schedule.take (index + 1)) = .error fault := by
  refine resolveAtDepth_error_iff.mpr ⟨index, entry, done, ?_, counted, ?_, failed⟩
  · rw [List.take_take, Nat.min_eq_left (Nat.le_succ index)]
    exact before
  · rw [List.getElem?_take_of_lt (Nat.lt_succ_self index)]
    exact present

/-- There is one place at which resolution fails. -/
theorem failing_unique {index place : Nat} {done other : Schedule} {otherFault : Fault}
    (before : resolver.resolveAtDepth depth leafTypes (schedule.take index) = .ok done)
    (failed : resolver.resolveAtDepth depth leafTypes (schedule.take (index + 1)) = .error fault)
    (beforeToo : resolver.resolveAtDepth depth leafTypes (schedule.take place) = .ok other)
    (failedToo : resolver.resolveAtDepth depth leafTypes (schedule.take (place + 1))
      = .error otherFault) : place = index := by
  have bounded : ∀ {first second : Nat} {part : Schedule} {found : Fault},
      resolver.resolveAtDepth depth leafTypes (schedule.take second) = .ok part →
      resolver.resolveAtDepth depth leafTypes (schedule.take (first + 1)) = .error found →
      second ≤ first := by
    intro first second part found accepted refused
    by_contra beyond
    have shorter := resolveAtDepth_take accepted (first + 1)
    rw [List.take_take, Nat.min_eq_left (by omega), refused] at shorter
    cases shorter
  exact Nat.le_antisymm (bounded beforeToo failed) (bounded before failedToo)

end Prefixes

end Resolver

/-! ### Objections -/

theorem Catalog.tryRules_error {arriving : List (Option Pattern)} {asked : Option Method} {node : Node}
    {rules : List Rule} (typed : ∀ rule ∈ rules, rule.IsTyped) {fault : Fault}
    (failed : Catalog.tryRules arriving asked (some node.facts) rules = .error fault) :
    fault = .lapsed .missingAttribute := by
  induction rules with
  | nil => cases failed
  | cons rule rest ih =>
      rcases bind_eq_error.mp failed with here | ⟨found, _, failed⟩
      · exact Catalog.tryRule_error (typed rule List.mem_cons_self) here
      · rcases bind_eq_error.mp failed with later | ⟨others, _, impossible⟩
        · exact ih (fun other member => typed other (List.mem_cons_of_mem rule member)) later
        · cases impossible

/-- What is known where a failure is first noticed: its cause, but no entry, and no node other than the
given one. -/
structure CompileFault.IsObjection (id : Key) (families : CompileFamily → Prop)
    (fault : CompileFault) : Prop where
  family : families fault.cause.family
  entryIndex : fault.entryIndex = none
  nodeId : fault.nodeId = none ∨ fault.nodeId = some id

/-- Compilation failures of the computation are objections of the given families. -/
def Objects {α : Type} (id : Key) (families : CompileFamily → Prop) (outcome : Except Fault α) : Prop :=
  ∀ fault, outcome = .error (.compile fault) → fault.IsObjection id families

theorem CompileFault.IsObjection.addContext {id : Key} {families : CompileFamily → Prop}
    {fault : CompileFault} (objection : fault.IsObjection id families) (place : Key) :
    (fault.addContext (some place) (some id) none).entryIndex = some place ∧
      (fault.addContext (some place) (some id) none).nodeId = some id := by
  constructor
  · rw [CompileFault.addContext, objection.entryIndex, Option.none_or]
  · rcases objection.nodeId with unset | known
    · rw [CompileFault.addContext, unset, Option.none_or]
    · rw [CompileFault.addContext, known, Option.some_or]

namespace Objects

variable {α β : Type} {id : Key} {families : CompileFamily → Prop}

theorem ok (value : α) : Objects id families (.ok value) := fun _ impossible => nomatch impossible

theorem lapsed (lapse : Lapse) : Objects id families (.error (.lapsed lapse) : Except Fault α) :=
  fun _ impossible => nomatch impossible

theorem refused (refusal : Refusal) : Objects id families (.error (.refused refusal) : Except Fault α) :=
  fun _ impossible => nomatch impossible

theorem compile {cause : CompileCause} {inboundTypes : Option (List (Option Pattern))}
    (family : families cause.family) : Objects id families
      (.error (.compile { cause := cause, inboundTypes := inboundTypes }) : Except Fault α) := by
  rintro fault ⟨⟩
  exact ⟨family, rfl, .inl rfl⟩

theorem bind {first : Except Fault α} {next : α → Except Fault β} (objects : Objects id families first)
    (onwards : ∀ value, first = .ok value → Objects id families (next value)) :
    Objects id families (first >>= next) := by
  intro fault failed
  rcases bind_eq_error.mp failed with early | ⟨value, succeeded, late⟩
  · exact objects fault early
  · exact onwards value succeeded fault late

theorem map {outcome : Except Fault α} (objects : Objects id families outcome) (f : α → β) :
    Objects id families (outcome.map f) :=
  fun fault failed => objects fault (Partial.map_eq_error.mp failed)

theorem mapM {f : α → Except Fault β} {items : List α}
    (each : ∀ item ∈ items, Objects id families (f item)) : Objects id families (items.mapM f) := by
  intro fault failed
  obtain ⟨item, member, here⟩ := Partial.mapM_eq_error failed
  exact each item member fault here

end Objects

section Steps

variable {id : Key} {families : CompileFamily → Prop}

theorem key_objects (value : Value) : Objects id families value.key := by
  cases value with
  | absent | text _ | flag _ | whole _ | real _ => exact .ok _
  | list _ | record _ | array _ | message _ => exact .lapsed _

theorem toReal_objects (value : Value) : Objects id families value.toReal := by
  unfold Value.toReal
  split
  · exact .ok _
  · split
    · exact .ok _
    · exact .lapsed _
  · exact .ok _
  · split
    · exact .ok _
    · exact .lapsed _
  · unfold Quantity.single
    split
    · exact .ok _
    · split
      · exact .ok _
      · exact .lapsed _
  · exact .lapsed _

theorem toTensor_objects (value : Value) : Objects id families value.toTensor := by
  unfold Value.toTensor
  split
  · exact .lapsed _
  · refine .map (.mapM fun item _ => ?_) _
    unfold Value.toEntry
    split
    · exact .ok _
    · exact toReal_objects item

/-- A value without a message type is no objection of the compiler. -/
theorem messageType_objects (value : Value) : Objects id families value.messageType := by
  refine .bind ?_ fun message _ => ?_
  · unfold Value.toMessage
    split
    · exact .ok _
    · refine .map ?_ _
      unfold Value.toQuantity
      split
      · exact .lapsed _
      · exact .map (toReal_objects value) _
      · exact .map (toTensor_objects value) _
  · unfold Distribution.messageType
    split
    · exact .ok _
    · split
      · exact .ok _
      · exact .ok _
      · exact .refused _
    · exact .ok _
    · exact .ok _
    · exact .ok _
    · exact .ok _
    · exact .ok _
    · exact .lapsed _

theorem isBefore_objects (reference : Reference) (index : Int) :
    Objects id families (reference.isBefore index) := by
  unfold Reference.isBefore
  split
  · exact .ok _
  · exact .ok _
  · split
    · exact .ok _
    · exact .lapsed _

end Steps

namespace Resolver

section Entries

variable {resolver : Resolver} {leafTypes : LeafTypes} {node : Node} {entry : Entry} {id : Key}
  {arriving : List (Option Pattern)}

section Families

variable {families : CompileFamily → Prop}

theorem arrivingTypes_objects (malformed : families .malformedTopology) (index : Int)
    (known : Int → Option Entry) : Objects id families (resolver.arrivingTypes entry index known) := by
  have each : ∀ item, Objects id families (resolver.arrivingType index known item) := by
    rintro ⟨socket, _ | reference⟩
    · exact .ok _
    · refine .bind (isBefore_objects reference index) fun before _ => ?_
      cases before with
      | false => exact .compile malformed
      | true =>
          simp only [Bool.not_true, Bool.false_eq_true, if_false]
          split
          · exact .compile malformed
          · split
            · exact .compile malformed
            · split
              · exact .ok _
              · exact .compile malformed
  unfold arrivingTypes
  simp only
  split
  · exact .compile malformed
  · exact .mapM fun item _ => each item

theorem resolveLeaf_objects (malformed : families .malformedTopology) (pin : families .invalidPin) :
    Objects id families (resolveLeaf leafTypes node entry) := by
  refine .bind ?_ fun outbound _ => ?_
  · unfold leafType
    split
    · exact .ok _
    · split
      · exact .map (messageType_objects _) _
      · exact .compile malformed
  · split
    · split
      · exact .compile pin
      · exact .ok _
    · exact .ok _

theorem resolveComposite_objects (pin : families .invalidPin) (inner : Schedule) :
    Objects id families (resolver.resolveComposite node entry arriving inner) := by
  unfold resolveComposite
  split
  · exact .lapsed _
  · split
    · split
      · exact .compile pin
      · exact .ok _
    · exact .ok _

/-- Looking up rules fails without an objection. -/
theorem matching_objects (coherent : resolver.catalog.Coherent) (category : Category) :
    Objects id families (resolver.matching node entry arriving category) := by
  refine .bind (.bind (key_objects _) fun _ _ => .bind (key_objects _) fun _ _ => .ok _) ?_
  intro bucket _ fault failed
  have typed : ∀ rule ∈ resolver.catalog.bucketRules bucket, rule.IsTyped := by
    intro rule member
    rw [coherent.filed] at member
    exact coherent.typed rule (List.mem_filter.mp member).1
  cases Catalog.tryRules_error typed failed

theorem accept_objects (candidate : Candidate) (status : Status)
    (undetermined : ∀ fault, candidate.outbound (some node.facts) = .error fault →
      families .unresolvedParameter) :
    Objects node.id families (accept node entry candidate status entry.pinned) := by
  unfold accept
  split
  · exact .ok _
  · refine .bind (.map (fun fault failed => ?_) _) fun _ _ => .ok _
    have family := undetermined _ failed
    rw [Candidate.outbound, MessageType.substitute_eq, Partial.map_eq_error] at failed
    obtain ⟨param, _, here⟩ := Partial.mapM_eq_error failed
    cases param with
    | number value => cases here
    | free name =>
        rw [substituteParam_free] at here
        split at here
        · cases here
        · cases here
        · cases here
          exact ⟨family, rfl, .inr rfl⟩

theorem choose_objects {category : Category} {status : Status} {otherwise : Except Fault Entry}
    {candidates : List Candidate} (several : 1 < candidates.length → families .ambiguousRule)
    (undetermined : ∀ candidate ∈ candidates, ∀ fault,
      candidate.outbound (some node.facts) = .error fault → families .unresolvedParameter)
    (rest : Objects node.id families otherwise) :
    Objects node.id families
      (resolver.choose node entry arriving category status otherwise candidates) := by
  match candidates with
  | [] => exact rest
  | [candidate] => exact accept_objects candidate status (undetermined _ List.mem_cons_self)
  | first :: second :: others =>
      exact .compile (several (Nat.succ_lt_succ (Nat.succ_pos others.length)))

/-- The objections to an entry that rules decide on: there is no rule, there are several, or the type of
the message stays open. -/
theorem decision_objects (coherent : resolver.catalog.Coherent)
    (nothing : families (resolver.objection entry).family)
    (several : ∀ category candidates, resolver.matching node entry arriving category = .ok candidates →
      1 < candidates.length → families .ambiguousRule)
    (undetermined : ∀ category candidates candidate,
      resolver.matching node entry arriving category = .ok candidates → candidate ∈ candidates →
      ∀ fault, candidate.outbound (some node.facts) = .error fault → families .unresolvedParameter) :
    Objects node.id families (resolver.decision node entry arriving) := by
  rw [decision_eq]
  have shorter : ∀ candidates, (keepPinned node entry.pinned candidates).length ≤ candidates.length := by
    intro candidates
    cases entry.pinned with
    | none => exact Nat.le_refl _
    | some pin => exact List.length_filter_le _ _
  have chosen : ∀ {category status otherwise candidates},
      resolver.matching node entry arriving category = .ok candidates →
      Objects node.id families otherwise →
      Objects node.id families (resolver.choose node entry arriving category status otherwise
        (keepPinned node entry.pinned candidates)) := by
    intro category status otherwise candidates found rest
    refine choose_objects (fun many => ?_) (fun candidate member => ?_) rest
    · exact several category candidates found (Nat.lt_of_lt_of_le many (shorter candidates))
    · exact undetermined category candidates candidate found (mem_of_mem_keepPinned member)
  refine .bind (matching_objects coherent _) fun exactOnes foundExact => chosen foundExact ?_
  refine .bind (matching_objects coherent _) fun approximateOnes foundApproximate => ?_
  exact chosen foundApproximate (.compile nothing)

end Families

/-- Resolving the entry goes on to its inner schedule, with the given types for the terminals. -/
def Enters (resolver : Resolver) (entry : Entry) (index : Int) (known : Int → Option Entry)
    (types : LeafTypes) (inner : Schedule) : Prop :=
  (resolver.network.node entry.socket.node).isLeaf = false ∧
    (resolver.network.node entry.socket.node).innerSchedule? entry.socket.slot = some inner ∧
    ∃ arriving, resolver.arrivingTypes entry index known = .ok arriving ∧
      types = resolver.terminalTypes (resolver.network.node entry.socket.node) entry.socket.slot arriving

/-- A compilation failure of an entry either comes up inside its inner schedule or is an objection to the
entry itself; the entry adds its place and its node. -/
theorem resolveEntryWith_objects (families : CompileFamily → Prop)
    {resolveInner : LeafTypes → Schedule → Except Fault Schedule} {index : Int} {place : Key}
    {known : Int → Option Entry} {fault : CompileFault}
    (malformed : families .malformedTopology) (pin : families .invalidPin)
    (decided : ∀ arriving,
      (resolver.network.node entry.socket.node).innerSchedule? entry.socket.slot = none →
      (resolver.network.node entry.socket.node).isLeaf = false →
      resolver.arrivingTypes entry index known = .ok arriving →
      Objects (resolver.network.node entry.socket.node).id families
        (resolver.decision (resolver.network.node entry.socket.node) entry arriving))
    (failed : resolver.resolveEntryWith resolveInner leafTypes entry index place known
      = .error (.compile fault)) :
    ∃ raised, fault = raised.addContext (some place)
        (some (resolver.network.node entry.socket.node).id) none ∧
      ((∃ types inner, resolver.Enters entry index known types inner ∧
          resolveInner types inner = .error (.compile raised)) ∨
        (∀ types inner, resolver.Enters entry index known types inner →
          ∃ resolved, resolveInner types inner = .ok resolved) ∧
        raised.IsObjection (resolver.network.node entry.socket.node).id families) := by
  rw [resolveEntryWith_eq] at failed
  obtain ⟨raised, failing, same⟩ := Partial.mapError_eq_error.mp failed
  cases raised with
  | refused _ | lapsed _ => cases same
  | compile raised =>
      refine ⟨raised, (Fault.compile.inj same).symm, ?_⟩
      rcases bind_eq_error.mp failing with early | ⟨arriving, arrives, late⟩
      · refine .inr ⟨?_, arrivingTypes_objects malformed index known raised early⟩
        rintro types inner ⟨_, _, arriving, arrives, _⟩
        cases early.symm.trans arrives
      · unfold resolveArriving at late
        simp only at late
        split at late
        · rename_i outward
          refine .inr ⟨?_, resolveLeaf_objects malformed pin raised late⟩
          rintro types inner ⟨inward, _⟩
          cases outward.symm.trans inward
        · rename_i notLeaf
          have inward := Bool.eq_false_iff.mpr notLeaf
          split at late
          · rename_i schedule scheduled
            rcases bind_eq_error.mp late with inside | ⟨inner, resolved, outside⟩
            · exact .inl ⟨_, schedule, ⟨inward, scheduled, arriving, arrives, rfl⟩, inside⟩
            · refine .inr ⟨?_, resolveComposite_objects pin inner raised outside⟩
              rintro types other ⟨_, again, types, arrivesToo, rfl⟩
              cases scheduled.symm.trans again
              cases arrives.symm.trans arrivesToo
              exact ⟨inner, resolved⟩
          · rename_i plain
            refine .inr ⟨?_, decided arriving plain inward arrives raised late⟩
            rintro types inner ⟨_, scheduled, _⟩
            cases plain.symm.trans scheduled

end Entries

/-! ### The entry that a failure names -/

/-- The entries in `done` are resolved, and the entry behind them is the first that fails. -/
structure FailsFirst (resolver : Resolver) (fault : CompileFault) (depth : Nat) (leafTypes : LeafTypes)
    (schedule done : Schedule) (entry : Entry) : Prop where
  before : resolver.resolveAtDepth depth leafTypes (schedule.take done.length) = .ok done
  present : schedule[done.length]? = some entry
  fails : resolver.resolveAtDepth depth leafTypes (schedule.take (done.length + 1))
    = .error (.compile fault)

/-- The failure comes up at the given place of the schedule or, if the first entry that fails does so inside
its inner schedule, at the given place of the innermost such schedule. -/
inductive FailsAt (resolver : Resolver) (fault : CompileFault) :
    Nat → LeafTypes → Schedule → Nat → Entry → Prop
  | here {depth : Nat} {leafTypes : LeafTypes} {schedule done : Schedule} {entry : Entry}
      (first : resolver.FailsFirst fault (depth + 1) leafTypes schedule done entry)
      (own : ∀ types inner, resolver.Enters entry done.length done.entry? types inner →
        ∃ resolved, resolver.resolveAtDepth depth types inner = .ok resolved) :
      FailsAt resolver fault (depth + 1) leafTypes schedule done.length entry
  | inside {depth place : Nat} {leafTypes types : LeafTypes} {schedule done inner : Schedule}
      {outer entry : Entry}
      (first : resolver.FailsFirst fault (depth + 1) leafTypes schedule done outer)
      (enters : resolver.Enters outer done.length done.entry? types inner)
      (within : FailsAt resolver fault depth types inner place entry) :
      FailsAt resolver fault (depth + 1) leafTypes schedule place entry

/-- A compilation failure names the innermost entry at which it comes up, and the node of that entry. -/
theorem resolveAtDepth_failsAt {resolver : Resolver} (coherent : resolver.catalog.Coherent) {depth : Nat}
    {leafTypes : LeafTypes} {schedule : Schedule} {fault : CompileFault}
    (failed : resolver.resolveAtDepth depth leafTypes schedule = .error (.compile fault)) :
    ∃ place entry, resolver.FailsAt fault depth leafTypes schedule place entry ∧
      fault.entryIndex = some (.whole place) ∧
      fault.nodeId = some (resolver.network.node entry.socket.node).id := by
  induction depth generalizing leafTypes schedule fault with
  | zero => cases failed
  | succ depth ih =>
      obtain ⟨_, entry, done, before, rfl, present, failing⟩ := resolveAtDepth_error_iff.mp failed
      have first : resolver.FailsFirst fault (depth + 1) leafTypes schedule done entry :=
        ⟨before, present, resolveAtDepth_error_take before rfl present failing⟩
      obtain ⟨raised, same, ⟨types, inner, enters, inside⟩ | ⟨own, objection⟩⟩ :=
        resolveEntryWith_objects (fun _ => True) trivial trivial
          (fun _ _ _ _ => decision_objects coherent trivial (fun _ _ _ _ => trivial)
            fun _ _ _ _ _ _ _ => trivial) failing
      · -- What the inner schedule has filled in is kept.
        obtain ⟨place, culprit, within, placed, named⟩ := ih inside
        have kept : fault = raised := by
          rw [same, CompileFault.addContext, placed, named]
          cases raised
          cases placed
          cases named
          simp
        exact ⟨place, culprit, kept ▸ .inside (kept ▸ first) enters within, kept ▸ placed, kept ▸ named⟩
      · obtain ⟨placed, named⟩ := objection.addContext (.whole done.length)
        exact ⟨done.length, entry, .here first own, same ▸ placed, same ▸ named⟩

/-- Resolution is stable under dropping entries at the end, and stops at the first entry that fails.  A
compilation failure names that entry and its node, or those of the innermost entry inside it that fails. -/
theorem resolveAtDepth_failsFast (network : Network) (calls : List Registration) (depth : Nat)
    (leafTypes : LeafTypes) (schedule : Schedule) :
    (∀ resolved, resolveAtDepth ⟨network, Catalog.built calls⟩ depth leafTypes schedule = .ok resolved →
      ∀ count, resolveAtDepth ⟨network, Catalog.built calls⟩ depth leafTypes (schedule.take count)
        = .ok (resolved.take count)) ∧
    ∀ fault, resolveAtDepth ⟨network, Catalog.built calls⟩ depth leafTypes schedule
        = .error (.compile fault) →
      (∃! index, index < schedule.length ∧
        (∃ done, resolveAtDepth ⟨network, Catalog.built calls⟩ depth leafTypes (schedule.take index)
          = .ok done) ∧
        resolveAtDepth ⟨network, Catalog.built calls⟩ depth leafTypes (schedule.take (index + 1))
          = .error (.compile fault)) ∧
      ∃ place entry, FailsAt ⟨network, Catalog.built calls⟩ fault depth leafTypes schedule place entry ∧
        fault.entryIndex = some (.whole place) ∧
        fault.nodeId = some (network.node entry.socket.node).id := by
  refine ⟨fun resolved accepted => resolveAtDepth_take accepted, fun fault failed => ?_⟩
  obtain ⟨place, entry, failsAt, context⟩ := resolveAtDepth_failsAt (Catalog.built_coherent calls) failed
  refine ⟨?_, place, entry, failsAt, context⟩
  obtain ⟨done, other, first⟩ : ∃ done other, FailsFirst ⟨network, Catalog.built calls⟩ fault depth
      leafTypes schedule done other := by
    cases failsAt with
    | here first own => exact ⟨_, _, first⟩
    | inside first enters within => exact ⟨_, _, first⟩
  refine ⟨done.length, ⟨(List.getElem?_eq_some_iff.mp first.present).1, ⟨done, first.before⟩, first.fails⟩, ?_⟩
  rintro index ⟨_, ⟨others, before⟩, fails⟩
  exact failing_unique first.before first.fails before fails

/-- The terminal and a rule are resolved, but nothing arrives for the terminal inside the third entry. -/
def starvedSchedule : Schedule :=
  [{ socket := ⟨1, 0⟩ }, { socket := ⟨0, 1⟩, inbounds := [none] },
    { socket := ⟨0, 0⟩, inbounds := [none] }]

theorem resolveAtDepth_failsFast_starved : ∃ resolved fault,
    resolveAtDepth ⟨passing, Catalog.built passingRules⟩ 2
      [("t", some (.typed ⟨"MvGaussian", [.number 3]⟩))] (starvedSchedule.take 2) = .ok resolved ∧
    resolveAtDepth ⟨passing, Catalog.built passingRules⟩ 2
      [("t", some (.typed ⟨"MvGaussian", [.number 3]⟩))] ((starvedSchedule.take 2).take 1)
        = .ok (resolved.take 1) ∧
    resolveAtDepth ⟨passing, Catalog.built passingRules⟩ 2
      [("t", some (.typed ⟨"MvGaussian", [.number 3]⟩))] starvedSchedule = .error (.compile fault) ∧
    fault.cause = .untypedTerminal "y" ∧
    (∃ place entry, FailsAt ⟨passing, Catalog.built passingRules⟩ fault 2
        [("t", some (.typed ⟨"MvGaussian", [.number 3]⟩))] starvedSchedule place entry ∧
      fault.entryIndex = some (.whole place) ∧ fault.nodeId = some (passing.node entry.socket.node).id) ∧
    fault.entryIndex = some (.whole 0) ∧ fault.nodeId = some (.text "y") := by
  have accepted : ∃ resolved, resolveAtDepth ⟨passing, Catalog.built passingRules⟩ 2
      [("t", some (.typed ⟨"MvGaussian", [.number 3]⟩))] (starvedSchedule.take 2) = .ok resolved := ⟨_, rfl⟩
  have refused : ∃ fault, resolveAtDepth ⟨passing, Catalog.built passingRules⟩ 2
      [("t", some (.typed ⟨"MvGaussian", [.number 3]⟩))] starvedSchedule = .error (.compile fault) ∧
      fault.cause = .untypedTerminal "y" ∧ fault.entryIndex = some (.whole 0) ∧
      fault.nodeId = some (.text "y") := ⟨_, rfl, rfl, rfl, rfl⟩
  obtain ⟨resolved, accepting⟩ := accepted
  obtain ⟨fault, failing, cause, placed, named⟩ := refused
  exact ⟨resolved, fault, accepting,
    (resolveAtDepth_failsFast passing passingRules 2 _ _).1 resolved accepting 1, failing, cause,
    ((resolveAtDepth_failsFast passing passingRules 2 _ _).2 fault failing).2, placed, named⟩

end Resolver

end SumProduct
