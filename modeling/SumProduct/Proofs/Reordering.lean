/-
Schedules with their entries in another order.

A schedule may be reordered if its references are renumbered with it, if every entry still comes after the
entries that it refers to, and if entries that compute the same message keep their order.  Resolution,
emission and runs then give the same before and after: they look at what an entry refers to and never at
where it stands.

All that is proved here goes from one schedule to the other.  Since the reordered schedule can be put back
in order, what is said of one is said of both.
-/

import Mathlib.Logic.Equiv.Basic
import SumProduct.Proofs.Locality

set_option autoImplicit false

namespace SumProduct

open Partial (bind_eq_ok mapM_eq_ok map_eq_ok)

/-- Integer references of the entry at a place, before and after its schedule has been reordered: both
point back to the same entry, or neither points back. -/
structure Reference.Follows (order : Equiv.Perm Nat) (place : Nat) (reference moved : Reference) :
    Prop where
  integral : reference.IsIndex
  integralMoved : moved.IsIndex
  back : ∀ earlier : Nat, reference.place = .ok earlier ∧ earlier < place ↔
    moved.place = .ok (order earlier) ∧ order earlier < order place

def Entry.withInbounds (entry : Entry) (inbounds : List (Option Reference)) : Entry :=
  { entry with inbounds := inbounds }

@[simp]
theorem Entry.withInbounds_socket (entry : Entry) (inbounds : List (Option Reference)) :
    (entry.withInbounds inbounds).socket = entry.socket := rfl

@[simp]
theorem Entry.withInbounds_pinned (entry : Entry) (inbounds : List (Option Reference)) :
    (entry.withInbounds inbounds).pinned = entry.pinned := rfl

theorem Entry.withInbounds_own (entry : Entry) : entry.withInbounds entry.inbounds = entry := by
  cases entry
  rfl

/-- The entry at a place before and after: it differs in its references only. -/
structure Entry.Follows (order : Equiv.Perm Nat) (place : Nat) (entry moved : Entry) : Prop where
  same : moved = entry.withInbounds moved.inbounds
  references : List.Forall₂ (Option.Rel (Reference.Follows order place)) entry.inbounds moved.inbounds

/-- The entry at every place is at the place that the order gives it. -/
structure Schedule.Reorders (order : Equiv.Perm Nat) (schedule other : Schedule) : Prop where
  length : other.length = schedule.length
  placed : ∀ place : Nat, Option.Rel (Entry.Follows order place) schedule[place]? other[order place]?
  latest : ∀ (first second : Nat) entry next, schedule[first]? = some entry →
    schedule[second]? = some next → entry.socket = next.socket → first < second →
      order first < order second

section Order

variable {order : Equiv.Perm Nat} {place : Nat} {schedule other : Schedule}

theorem Reference.Follows.symm {reference moved : Reference}
    (follows : reference.Follows order place moved) :
    moved.Follows order.symm (order place) reference := by
  refine ⟨follows.integralMoved, follows.integral, ?_⟩
  intro earlier
  have back := follows.back (order.symm earlier)
  rw [order.apply_symm_apply] at back
  rw [order.symm_apply_apply]
  exact back.symm

theorem Entry.Follows.symm {entry moved : Entry} (follows : entry.Follows order place moved) :
    moved.Follows order.symm (order place) entry := by
  constructor
  · rw [follows.same]
    exact entry.withInbounds_own.symm
  · apply List.Forall₂.flip
    apply follows.references.imp
    intro found after related
    cases related with
    | none => exact .none
    | some related => exact .some related.symm

namespace Schedule.Reorders

theorem moved (reorders : Reorders order schedule other) {entry : Entry}
    (present : schedule[place]? = some entry) :
    ∃ moved, other[order place]? = some moved ∧ entry.Follows order place moved := by
  have placed := reorders.placed place
  rw [present] at placed
  generalize found : other[order place]? = there at placed
  cases placed with
  | some follows => exact ⟨_, rfl, follows⟩

theorem origin (reorders : Reorders order schedule other) {moved : Entry}
    (present : other[place]? = some moved) :
    ∃ entry, schedule[order.symm place]? = some entry ∧ entry.Follows order (order.symm place) moved := by
  have placed := reorders.placed (order.symm place)
  rw [order.apply_symm_apply, present] at placed
  generalize found : schedule[order.symm place]? = there at placed
  cases placed with
  | some follows => exact ⟨_, rfl, follows⟩

theorem symm (reorders : Reorders order schedule other) : Reorders order.symm other schedule := by
  refine ⟨reorders.length.symm, ?_, ?_⟩
  · intro place
    have placed := reorders.placed (order.symm place)
    rw [order.apply_symm_apply] at placed
    generalize schedule[order.symm place]? = before at placed
    generalize other[place]? = after at placed
    cases placed with
    | none => exact .none
    | some follows =>
        have back := follows.symm
        rw [order.apply_symm_apply] at back
        exact .some back
  · intro first second moved next atFirst atSecond same before
    obtain ⟨entry, here, follows⟩ := reorders.origin atFirst
    obtain ⟨following, there, onwards⟩ := reorders.origin atSecond
    have alike : entry.socket = following.socket := by
      rw [follows.same, onwards.same] at same
      exact same
    by_contra unordered
    rcases Nat.lt_or_eq_of_le (Nat.le_of_not_lt unordered) with reversed | equal
    · have after := reorders.latest _ _ following entry there here alike.symm reversed
      rw [order.apply_symm_apply, order.apply_symm_apply] at after
      omega
    · have identical := order.symm.injective equal
      omega

theorem within (reorders : Reorders order schedule other) (place : Nat) :
    order place < schedule.length ↔ place < schedule.length := by
  constructor
  · intro inside
    obtain ⟨entry, here, _⟩ := reorders.origin (List.getElem?_eq_getElem (reorders.length ▸ inside))
    rw [order.symm_apply_apply] at here
    exact (List.getElem?_eq_some_iff.mp here).1
  · intro inside
    obtain ⟨moved, there, _⟩ := reorders.moved (List.getElem?_eq_getElem inside)
    rw [← reorders.length]
    exact (List.getElem?_eq_some_iff.mp there).1

end Schedule.Reorders

theorem exists_reordered {α : Type} {items : List α}
    (within : ∀ place, order place < items.length ↔ place < items.length) :
    ∃ moved : List α, moved.length = items.length ∧
      ∀ place, moved[order place]? = items[place]? := by
  have back : ∀ place : Fin items.length, order.symm place < items.length := by
    intro place
    rw [← within, order.apply_symm_apply]
    exact place.isLt
  refine ⟨List.ofFn fun place : Fin items.length => items.get ⟨order.symm place, back place⟩, ?_, ?_⟩
  · rw [List.length_ofFn]
  · intro place
    rw [List.getElem?_ofFn]
    by_cases inside : place < items.length
    · rw [dif_pos ((within place).mpr inside), List.getElem?_eq_getElem inside]
      simp only [order.symm_apply_apply, List.get_eq_getElem]
    · rw [dif_neg (mt (within place).mp inside), List.getElem?_eq_none (Nat.le_of_not_lt inside)]

/-- The entries are about the same sockets and have the same references. -/
def Schedule.Mirrors (resolved schedule : Schedule) : Prop :=
  resolved.length = schedule.length ∧
    ∀ (place : Nat) result, resolved[place]? = some result →
      ∃ entry, schedule[place]? = some entry ∧ result.socket = entry.socket ∧
        result.inbounds = entry.inbounds

/-- The entries of one schedule with the references of another. -/
def Schedule.withInboundsOf (results other : Schedule) : Schedule :=
  List.zipWith (fun result moved => result.withInbounds moved.inbounds) results other

theorem Schedule.Reorders.mirrored (reorders : Schedule.Reorders order schedule other)
    {resolved : Schedule} (mirrors : resolved.Mirrors schedule) :
    ∃ results, Schedule.Reorders order resolved results ∧
      ∀ (place : Nat) result moved, resolved[place]? = some result →
        other[order place]? = some moved →
        results[order place]? = some (result.withInbounds moved.inbounds) := by
  have within : ∀ place, order place < resolved.length ↔ place < resolved.length := by
    rw [mirrors.1]
    exact reorders.within
  obtain ⟨items, counted, each⟩ := exists_reordered within
  have located : ∀ (place : Nat) result moved, resolved[place]? = some result →
      other[order place]? = some moved →
      (Schedule.withInboundsOf items other)[order place]? = some (result.withInbounds moved.inbounds) := by
    intro place result moved present there
    rw [Schedule.withInboundsOf, List.getElem?_zipWith, each, present, there]
  have length : (Schedule.withInboundsOf items other).length = resolved.length := by
    rw [Schedule.withInboundsOf, List.length_zipWith, counted, reorders.length, mirrors.1, Nat.min_self]
  refine ⟨Schedule.withInboundsOf items other, ⟨length, ?_, ?_⟩, located⟩
  · intro place
    cases present : resolved[place]? with
    | some result =>
        obtain ⟨entry, here, _, inbounds⟩ := mirrors.2 place result present
        obtain ⟨moved, there, follows⟩ := reorders.moved here
        rw [located place result moved present there]
        refine .some ⟨rfl, ?_⟩
        rw [inbounds]
        exact follows.references
    | none =>
        have outside := mt (within place).mp (Nat.not_lt.mpr (List.getElem?_eq_none_iff.mp present))
        rw [List.getElem?_eq_none (length ▸ Nat.le_of_not_lt outside)]
        exact .none
  · intro first second result next atFirst atSecond same before
    obtain ⟨entry, here, socket, _⟩ := mirrors.2 first result atFirst
    obtain ⟨following, there, nextSocket, _⟩ := mirrors.2 second next atSecond
    rw [socket, nextSocket] at same
    exact reorders.latest first second entry following here there same before

end Order

/-! ### Resolution -/

theorem Reference.isBefore_of_place {reference : Reference} {earlier bound : Nat}
    (placed : reference.place = .ok earlier) (before : earlier < bound) :
    reference.isBefore bound = .ok true := by
  have known := Reference.place_eq_ok.mp placed
  have compared : decide (0 ≤ (earlier : Int) ∧ (earlier : Int) < (bound : Int)) = true :=
    decide_eq_true (by omega)
  cases reference with
  | entry index =>
      cases known
      rw [Reference.isBefore, compared]
  | given value =>
      have found : value.toIndex? = some (earlier : Int) := known
      cases value with
      | whole index | flag answer =>
          rw [Reference.isBefore]
          · rw [found]
            exact congrArg Except.ok compared
          · intro number impossible
            cases impossible
      | absent | text _ | real _ | list _ | record _ | array _ | message _ => cases known

namespace Resolver

section Arriving

variable {resolver : Resolver} {order : Equiv.Perm Nat} {place : Nat} {entry moved : Entry}
  {resolved other : Schedule}

/-- What arrives through an integer reference is the type of the earlier entry that it points to, if that
one is at the other end of the edge. -/
theorem arrivingType_eq_ok {reference : Reference} (integral : reference.IsIndex) {socket : Socket}
    {type : Option Pattern} :
    resolver.arrivingType place (Schedule.entry? (resolved.take place)) (socket, some reference)
        = .ok type ↔
      ∃ (earlier : Nat) (found : Entry), (reference.place = .ok earlier ∧ earlier < place) ∧
        resolved[earlier]? = some found ∧ found.isResolved = true ∧
        resolver.network.partner? socket = some found.socket ∧ found.outbound = type := by
  have lookup : ∀ earlier : Nat, earlier < place →
      Schedule.entry? (resolved.take place) earlier = resolved[earlier]? := by
    intro earlier before
    rw [Schedule.entry?, if_pos (Int.natCast_nonneg earlier), Int.toNat_natCast,
      List.getElem?_take_of_lt before]
  constructor
  · intro arrives
    obtain ⟨before, compared, arrives⟩ := bind_eq_ok.mp arrives
    cases before with
    | false => cases arrives
    | true =>
        obtain ⟨earlier, placed, bounded⟩ := integral.place_eq compared
        simp only [Bool.not_true, Bool.false_eq_true, if_false, Reference.index_of_place placed,
          Option.bind_some, lookup earlier bounded] at arrives
        split at arrives
        · cases arrives
        · rename_i found present
          split at arrives
          · cases arrives
          · rename_i done
            split at arrives
            · rename_i partner
              refine ⟨earlier, found, ⟨placed, bounded⟩, present, ?_, partner, Except.ok.inj arrives⟩
              simpa using done
            · cases arrives
  · rintro ⟨earlier, found, ⟨placed, bounded⟩, present, done, partner, rfl⟩
    simp only [arrivingType, Reference.isBefore_of_place placed bounded, Partial.ok_bind, Bool.not_true,
      Bool.false_eq_true, if_false, Reference.index_of_place placed, Option.bind_some,
      lookup earlier bounded, present, done, partner, if_true]
    rfl

theorem arrivingType_follows (reorders : Schedule.Reorders order resolved other) {socket : Socket}
    {type : Option Pattern} {before after : Option Reference}
    (follows : Option.Rel (Reference.Follows order place) before after)
    (arrives : resolver.arrivingType place (Schedule.entry? (resolved.take place)) (socket, before)
      = .ok type) :
    resolver.arrivingType (order place : Nat) (Schedule.entry? (other.take (order place)))
      (socket, after) = .ok type := by
  cases follows with
  | none => exact arrives
  | some follows =>
      obtain ⟨earlier, found, back, present, done, partner, outbound⟩ :=
        (arrivingType_eq_ok follows.integral).mp arrives
      obtain ⟨moved, there, same⟩ := reorders.moved present
      refine (arrivingType_eq_ok follows.integralMoved).mpr
        ⟨order earlier, moved, (follows.back earlier).mp back, there, ?_⟩
      rw [same.same]
      exact ⟨done, partner, outbound⟩

theorem arrivingTypes_follows (reorders : Schedule.Reorders order resolved other)
    (follows : entry.Follows order place moved) {arriving : List (Option Pattern)}
    (arrives : resolver.arrivingTypes entry place (Schedule.entry? (resolved.take place))
      = .ok arriving) :
    resolver.arrivingTypes moved (order place : Nat) (Schedule.entry? (other.take (order place)))
      = .ok arriving := by
  have sockets : moved.socket = entry.socket := by
    rw [follows.same]
    rfl
  have along : ∀ {sockets : List Socket} {before after : List (Option Reference)}
      {types : List (Option Pattern)},
      List.Forall₂ (Option.Rel (Reference.Follows order place)) before after →
      (sockets.zip before).mapM (resolver.arrivingType place
        (Schedule.entry? (resolved.take place))) = .ok types →
      (sockets.zip after).mapM (resolver.arrivingType (order place : Nat)
        (Schedule.entry? (other.take (order place)))) = .ok types := by
    intro sockets before after types related
    induction related generalizing sockets types with
    | nil =>
        rw [List.zip_nil_right]
        exact id
    | cons here _ ih =>
        cases sockets with
        | nil => exact id
        | cons socket sockets =>
            rw [List.zip_cons_cons, List.zip_cons_cons, List.mapM_cons, List.mapM_cons]
            intro accepted
            obtain ⟨type, first, accepted⟩ := bind_eq_ok.mp accepted
            obtain ⟨rest, later, accepted⟩ := bind_eq_ok.mp accepted
            rw [arrivingType_follows reorders here first, Partial.ok_bind, ih later]
            exact accepted
  unfold arrivingTypes at arrives ⊢
  simp only [sockets, ← follows.references.length_eq] at arrives ⊢
  split at arrives
  · cases arrives
  · rename_i counted
    rw [if_neg counted]
    exact along follows.references arrives

end Arriving

section Entries

variable {resolver : Resolver} {resolveInner : LeafTypes → Schedule → Except Fault Schedule}
  {leafTypes : LeafTypes} {node : Node} {entry : Entry} {arriving : List (Option Pattern)}

theorem resolveLeaf_withInbounds (inbounds : List (Option Reference)) :
    resolveLeaf leafTypes node (entry.withInbounds inbounds)
      = (resolveLeaf leafTypes node entry).map fun result => result.withInbounds inbounds := by
  unfold resolveLeaf Entry.withInbounds
  cases leafType leafTypes node with
  | error fault => rfl
  | ok outbound =>
      cases entry.pinned with
      | none => rfl
      | some pinned =>
          simp only [Partial.ok_bind]
          split
          · rfl
          · rfl

theorem resolveComposite_withInbounds {inner : Schedule} (inbounds : List (Option Reference)) :
    resolver.resolveComposite node (entry.withInbounds inbounds) arriving inner
      = (resolver.resolveComposite node entry arriving inner).map fun result =>
          result.withInbounds inbounds := by
  unfold resolveComposite Entry.withInbounds
  simp only
  split
  · rfl
  · cases entry.pinned with
    | none => rfl
    | some pinned =>
        simp only
        split
        · rfl
        · rfl

theorem choose_withInbounds {category : Category} {status : Status} {otherwise : Except Fault Entry}
    {candidates : List Candidate} (inbounds : List (Option Reference)) :
    resolver.choose node (entry.withInbounds inbounds) arriving category status
        (otherwise.map fun result => result.withInbounds inbounds) candidates
      = (resolver.choose node entry arriving category status otherwise candidates).map fun result =>
          result.withInbounds inbounds := by
  rcases candidates with _ | ⟨first, _ | ⟨second, others⟩⟩
  · rfl
  · simp only [choose, accept, Entry.withInbounds_pinned]
    cases entry.pinned with
    | some pinned => rfl
    | none =>
        simp only
        cases first.outbound (some node.facts) with
        | error fault => rfl
        | ok type => rfl
  · rfl

theorem decision_withInbounds (inbounds : List (Option Reference)) :
    resolver.decision node (entry.withInbounds inbounds) arriving
      = (resolver.decision node entry arriving).map fun result => result.withInbounds inbounds := by
  have same : ∀ category, resolver.matching node (entry.withInbounds inbounds) arriving category
      = resolver.matching node entry arriving category := fun _ => rfl
  rw [decision_eq, decision_eq, same, same]
  cases resolver.matching node entry arriving .exact with
  | error fault => rfl
  | ok exactOnes =>
      simp only [Partial.ok_bind]
      rw [← choose_withInbounds]
      congr 1
      cases resolver.matching node entry arriving .approximate with
      | error fault => rfl
      | ok approximateOnes =>
          rw [Partial.ok_bind, Partial.ok_bind, ← choose_withInbounds]
          rfl

/-- An entry keeps its references, and nothing but their types matters. -/
theorem resolveArriving_withInbounds (inbounds : List (Option Reference)) :
    resolver.resolveArriving resolveInner leafTypes (entry.withInbounds inbounds) arriving
      = (resolver.resolveArriving resolveInner leafTypes entry arriving).map fun result =>
          result.withInbounds inbounds := by
  by_cases outward : (resolver.network.node entry.socket.node).isLeaf = true
  · have leaf : ∀ other : Entry, other.socket = entry.socket →
        resolver.resolveArriving resolveInner leafTypes other arriving
          = resolveLeaf leafTypes (resolver.network.node entry.socket.node) other := by
      intro other same
      rw [resolveArriving, same]
      exact if_pos outward
    rw [leaf entry rfl, leaf (entry.withInbounds inbounds) rfl]
    exact resolveLeaf_withInbounds inbounds
  · cases scheduled : (resolver.network.node entry.socket.node).innerSchedule? entry.socket.slot with
    | none =>
        have plain : ∀ other : Entry, other.socket = entry.socket →
            resolver.resolveArriving resolveInner leafTypes other arriving
              = resolver.decision (resolver.network.node entry.socket.node) other arriving := by
          intro other same
          rw [resolveArriving, same, scheduled]
          exact if_neg outward
        rw [plain entry rfl, plain (entry.withInbounds inbounds) rfl]
        exact decision_withInbounds inbounds
    | some template =>
        have composite : ∀ other : Entry, other.socket = entry.socket →
            resolver.resolveArriving resolveInner leafTypes other arriving
              = resolveInner (resolver.terminalTypes (resolver.network.node entry.socket.node)
                  entry.socket.slot arriving) template >>= fun inner =>
                resolver.resolveComposite (resolver.network.node entry.socket.node) other arriving
                  inner := by
          intro other same
          rw [resolveArriving, same, scheduled]
          exact if_neg outward
        rw [composite entry rfl, composite (entry.withInbounds inbounds) rfl]
        cases resolveInner _ template with
        | error fault => rfl
        | ok inner => exact resolveComposite_withInbounds inbounds

theorem resolveArriving_retains {result : Entry}
    (accepted : resolver.resolveArriving resolveInner leafTypes entry arriving = .ok result) :
    result.socket = entry.socket ∧ result.inbounds = entry.inbounds := by
  unfold resolveArriving at accepted
  simp only at accepted
  split at accepted
  · obtain ⟨outbound, rfl, _⟩ := resolveLeaf_inv accepted
    exact ⟨rfl, rfl⟩
  · split at accepted
    · obtain ⟨inner, _, accepted⟩ := bind_eq_ok.mp accepted
      obtain ⟨_, _, _, _, _, rfl⟩ := resolveComposite_inv accepted
      exact ⟨rfl, rfl⟩
    · obtain ⟨_, _, _, _, _, taken⟩ := decision_inv accepted
      rw [taken.same]
      exact ⟨rfl, rfl⟩

end Entries

section Schedules

variable {resolver : Resolver} {resolveInner : LeafTypes → Schedule → Except Fault Schedule}
  {leafTypes : LeafTypes} {order : Equiv.Perm Nat} {schedule other resolved : Schedule}

theorem Settles.mirrors (settles : resolver.Settles resolveInner leafTypes schedule resolved) :
    resolved.Mirrors schedule := by
  refine ⟨settles.1, ?_⟩
  intro place result present
  have inside := (List.getElem?_eq_some_iff.mp present).1
  rw [settles.1] at inside
  have here := List.getElem?_eq_getElem inside
  obtain ⟨_, _, accepted⟩ := bind_eq_ok.mp (settles.2 place _ result here present)
  exact ⟨_, here, resolveArriving_retains accepted⟩

theorem Settles.reordered (reorders : Schedule.Reorders order schedule other)
    (settles : resolver.Settles resolveInner leafTypes schedule resolved) :
    ∃ results, resolver.Settles resolveInner leafTypes other results ∧
      Schedule.Reorders order resolved results := by
  obtain ⟨results, reordered, located⟩ := reorders.mirrored settles.mirrors
  refine ⟨results, ⟨?_, ?_⟩, reordered⟩
  · rw [reordered.length, settles.1, reorders.length]
  · intro place moved answer atPlace atAnswer
    obtain ⟨entry, here, follows⟩ := reorders.origin atPlace
    obtain ⟨result, present, _⟩ := reordered.origin atAnswer
    -- The answer is the result for the entry from which this one comes, with the references of this one.
    have answered := located _ result moved present (by rw [order.apply_symm_apply, atPlace])
    rw [order.apply_symm_apply, atAnswer] at answered
    obtain ⟨arriving, arrives, accepted⟩ := bind_eq_ok.mp (settles.2 _ entry result here present)
    have arrived := arrivingTypes_follows reordered follows arrives
    rw [order.apply_symm_apply] at arrived
    rw [arrived, Partial.ok_bind, follows.same, resolveArriving_withInbounds, accepted,
      Option.some.inj answered]
    rfl

theorem resolveAtDepth_reordered {depth : Nat} (reorders : Schedule.Reorders order schedule other)
    (accepted : resolver.resolveAtDepth depth leafTypes schedule = .ok resolved) :
    ∃ results, resolver.resolveAtDepth depth leafTypes other = .ok results ∧
      Schedule.Reorders order resolved results := by
  cases depth with
  | zero => cases accepted
  | succ depth =>
      obtain ⟨results, settles, reordered⟩ := (resolveAtDepth_iff.mp accepted).reordered reorders
      exact ⟨results, resolveAtDepth_iff.mpr settles, reordered⟩

theorem resolveAtDepth_mirrors {depth : Nat}
    (accepted : resolver.resolveAtDepth depth leafTypes schedule = .ok resolved) :
    resolved.Mirrors schedule := by
  cases depth with
  | zero => cases accepted
  | succ depth => exact (resolveAtDepth_iff.mp accepted).mirrors

end Schedules

end Resolver

/-! ### Emission -/

section Latest

variable {order : Equiv.Perm Nat} {schedule other : Schedule} {socket : Socket}

/-- The latest entry for a socket is the latest one after a reordering. -/
theorem Schedule.Reorders.indexOf (reorders : Schedule.Reorders order schedule other) {place : Nat}
    (located : schedule.indexOf socket = some place) : other.indexOf socket = some (order place) := by
  obtain ⟨⟨entry, present, rfl⟩, latest⟩ := Schedule.lastFrom_latest located
  rw [Nat.sub_zero] at present
  obtain ⟨moved, there, follows⟩ := reorders.moved present
  have same : moved.socket = entry.socket := by
    rw [follows.same]
    rfl
  obtain ⟨found, atFound⟩ := Schedule.exists_indexOf there
  rw [same] at atFound
  obtain ⟨⟨last, atLast, alike⟩, after⟩ := Schedule.lastFrom_latest atFound
  rw [Nat.sub_zero] at atLast
  have upper := after (order place) moved there same
  obtain ⟨origin, here, back⟩ := reorders.origin atLast
  have matching : origin.socket = entry.socket := by
    rw [← alike, back.same]
    rfl
  have lower := latest (order.symm found) origin here matching
  rw [Nat.zero_add] at upper lower
  -- An earlier entry for the same socket would have stayed before the latest one.
  have unmoved : order.symm found = place := by
    by_contra different
    have before := reorders.latest _ _ origin entry here present matching
      (Nat.lt_of_le_of_ne lower different)
    rw [order.apply_symm_apply] at before
    omega
  rw [atFound, ← unmoved, order.apply_symm_apply]

end Latest

namespace Emission

variable {resolver : Resolver} {leafTypes : LeafTypes} {order : Equiv.Perm Nat}
  {resolved results : Schedule}

theorem leafInstruction_withInbounds {network : Network} {entry : Entry} {index : Nat}
    {instruction : Instruction} (emitted : leafInstruction network index entry = .ok instruction)
    (inbounds : List (Option Reference)) (other : Nat) :
    ∃ next, leafInstruction network other (entry.withInbounds inbounds) = .ok next := by
  have same : leafInstruction network other (entry.withInbounds inbounds)
      = leafInstruction network other entry := rfl
  rw [same]
  unfold leafInstruction at emitted ⊢
  simp only at emitted ⊢
  by_cases terminal : (network.node entry.socket.node).isTerminal = true
  · exact ⟨_, if_pos terminal⟩
  · rw [if_neg terminal] at emitted ⊢
    cases bound : network.placeholder? entry.socket.node with
    | some binding => exact ⟨_, rfl⟩
    | none =>
        rw [bound] at emitted
        obtain ⟨held, holds, emitted⟩ := bind_eq_ok.mp emitted
        obtain ⟨message, converted, _⟩ := bind_eq_ok.mp emitted
        simp only [holds, Partial.ok_bind, converted]
        exact ⟨_, rfl⟩

theorem entryInstruction_withInbounds {done : Schedule} {entry : Entry} {index other : Nat}
    {inbounds : List (Option Reference)} {instruction : Instruction}
    (certified : resolver.EntryResolved leafTypes done entry)
    (before : ∀ reference, some reference ∈ inbounds → reference.isBefore other = .ok true)
    (emitted : entryInstruction resolver.network index entry = .ok instruction) :
    ∃ next, entryInstruction resolver.network other (entry.withInbounds inbounds) = .ok next := by
  cases certified with
  | leaf outward arrives status supplied =>
      have moved : (entry.withInbounds inbounds).status = .leaf := status
      rw [entryInstruction_leaf status] at emitted
      rw [entryInstruction_leaf moved]
      exact leafInstruction_withInbounds emitted inbounds other
  | rule inward plain chosen =>
      have moved : (entry.withInbounds inbounds).status = _ := chosen.status
      exact ⟨_, entryInstruction_rule_ok moved before⟩
  | composite inward scheduled arrives status held =>
      obtain ⟨body, result, within, located, _⟩ := entryInstruction_composite_inv status held emitted
      have moved : (entry.withInbounds inbounds).status = .composite := status
      have kept : (entry.withInbounds inbounds).inner = some _ := held
      exact ⟨_, entryInstruction_composite_ok scheduled moved kept within located before⟩

theorem scheduleInstructions_reordered (reorders : Schedule.Reorders order resolved results)
    (certified : resolver.ScheduleResolved leafTypes resolved)
    (refersBack : Schedule.RefersBack 0 results) {body : List Instruction}
    (emitted : scheduleInstructions resolver.network 0 resolved = .ok body) :
    ∃ others, scheduleInstructions resolver.network 0 results = .ok others := by
  apply scheduleInstructions_ok
  intro place moved there
  obtain ⟨entry, here, follows⟩ := reorders.origin there
  have inside : order.symm place < body.length := by
    rw [scheduleInstructions_length emitted]
    exact (List.getElem?_eq_some_iff.mp here).1
  have instruction := scheduleInstructions_getElem emitted here (List.getElem?_eq_getElem inside)
  have before := fun reference => refersBack place moved reference there
  rw [follows.same]
  exact entryInstruction_withInbounds (certified _ entry here) before instruction

theorem isIncomplete_reordered (reorders : Schedule.Reorders order resolved results) {network : Network}
    {target : VariableKey} (complete : isIncomplete network resolved target = false) :
    isIncomplete network results target = false := by
  unfold isIncomplete at complete ⊢
  split at complete
  · cases complete
  · rw [Bool.or_eq_false_iff, Option.isNone_eq_false_iff, Option.isNone_eq_false_iff,
      Option.isSome_iff_exists, Option.isSome_iff_exists] at complete
    obtain ⟨⟨first, atFirst⟩, ⟨second, atSecond⟩⟩ := complete
    rw [reorders.indexOf atFirst, reorders.indexOf atSecond]
    rfl

theorem program_parts {network : Network} {schedule : Schedule} {targets : List VariableKey}
    {program : Program} (emitted : Emission.program network schedule targets = .ok program) :
    ∃ body closing, scheduleInstructions network 0 schedule = .ok body ∧
      List.Forall₂ (Combines network schedule) targets closing ∧
      program = { instructions := body ++ closing, messages := .whole schedule.length } := by
  obtain ⟨body, closing, within, closes, rfl⟩ := program_eq_ok.mp emitted
  rcases marginals_cases network schedule.slots_indexes targets with
    ⟨_, closed, combine, _⟩ | ⟨_, _, _, failed, _⟩
  · cases closes.symm.trans closed
    exact ⟨body, closing, within, combine, rfl⟩
  · cases closes.symm.trans failed

theorem program_reordered (reorders : Schedule.Reorders order resolved results)
    (certified : resolver.ScheduleResolved leafTypes resolved)
    (refersBack : Schedule.RefersBack 0 results) {targets : List VariableKey} {program : Program}
    (emitted : Emission.program resolver.network resolved targets = .ok program) :
    ∃ other, Emission.program resolver.network results targets = .ok other := by
  obtain ⟨body, closing, within, closes, _⟩ := program_eq_ok.mp emitted
  obtain ⟨others, after⟩ := scheduleInstructions_reordered reorders certified refersBack within
  rw [program_eq, after, Partial.ok_bind]
  rcases marginals_cases resolver.network resolved.slots_indexes targets with
    ⟨_, _, _, complete⟩ | ⟨_, _, _, failed, _⟩
  · rcases marginals_cases resolver.network results.slots_indexes targets with
      ⟨marginals, closed, _⟩ | ⟨target, _, found, _⟩
    · rw [closed]
      exact ⟨_, rfl⟩
    · have still := isIncomplete_reordered reorders (complete target (List.mem_of_find?_eq_some found))
      rw [List.find?_some found] at still
      cases still
  · rw [closes] at failed
    cases failed

end Emission

/-! ### Runs -/

namespace Machine

section Evaluation

variable {machine : Machine} {prior : Marginals} {data : Buffers} {entry : Entry} {value : Value}
  {first second : Reference → Except Fault Value} {inbounds : List (Option Reference)}

/-- What can be read through a reference can be read through the other one. -/
def Answers (first second : Reference → Except Fault Value) (reference other : Reference) : Prop :=
  ∀ value, first reference = .ok value → second other = .ok value

theorem arrivals_follow {before after : List (Option Reference)} {values : List Value}
    (answers : List.Forall₂ (Option.Rel (Answers first second)) before after)
    (fetched : before.mapM (arrival first) = .ok values) :
    after.mapM (arrival second) = .ok values := by
  induction answers generalizing values with
  | nil => exact fetched
  | @cons before after _ _ here _ ih =>
      rw [List.mapM_cons] at fetched ⊢
      obtain ⟨value, arrived, fetched⟩ := bind_eq_ok.mp fetched
      obtain ⟨others, later, fetched⟩ := bind_eq_ok.mp fetched
      have answered : arrival second after = .ok value := by
        cases here with
        | none => exact arrived
        | some answers => exact answers value arrived
      rw [answered, Partial.ok_bind, ih later]
      exact fetched

theorem feeds_follow {network : Network} {before after : List (Option Reference)}
    {terminals : List NodeKey} {buffers : Buffers}
    (answers : List.Forall₂ (Option.Rel (Answers first second)) before after)
    (fed : (terminals.zip before).foldlM (feed network first) data = .ok buffers) :
    (terminals.zip after).foldlM (feed network second) data = .ok buffers := by
  induction answers generalizing terminals data with
  | nil =>
      rw [List.zip_nil_right] at fed ⊢
      exact fed
  | @cons before after _ _ here _ ih =>
      cases terminals with
      | nil => exact fed
      | cons terminal terminals =>
          rw [List.zip_cons_cons, List.foldlM_cons] at fed ⊢
          obtain ⟨updated, put, fed⟩ := bind_eq_ok.mp fed
          have answered : feed network second data (terminal, after) = .ok updated := by
            cases here with
            | none => exact put
            | some answers =>
                obtain ⟨value, found, put⟩ := bind_eq_ok.mp put
                exact bind_eq_ok.mpr ⟨value, answers value found, put⟩
          rw [answered, Partial.ok_bind]
          exact ih fed

theorem evaluateEntry_withInbounds {inner : Buffers → Except Fault (List Value)}
    (answers : List.Forall₂ (Option.Rel (Answers first second)) entry.inbounds inbounds)
    (evaluated : machine.evaluateEntry prior first inner data entry = .ok value) :
    machine.evaluateEntry prior second inner data (entry.withInbounds inbounds) = .ok value := by
  cases outward : (machine.network.node entry.socket.node).isLeaf with
  | true =>
      have constant : machine.evaluateEntry prior second inner data (entry.withInbounds inbounds)
          = machine.evaluateEntry prior first inner data entry := by
        unfold evaluateEntry
        rw [Entry.withInbounds_socket]
        cases role : (machine.network.node entry.socket.node).role with
        | terminal | constant _ => simp only [role]
        | factor | gain _ | composite _ _ _ =>
            simp only [Node.isLeaf, role] at outward
            cases outward
      rw [constant]
      exact evaluated
  | false =>
      have inward : (machine.network.node (entry.withInbounds inbounds).socket.node).isLeaf = false :=
        outward
      cases scheduled : (machine.network.node entry.socket.node).innerSchedule? entry.socket.slot with
      | none =>
          rw [evaluateEntry_rule outward scheduled] at evaluated
          rw [evaluateEntry_rule inward scheduled]
          obtain ⟨implementation, known, evaluated⟩ := bind_eq_ok.mp evaluated
          obtain ⟨arriving, fetched, evaluated⟩ := bind_eq_ok.mp evaluated
          refine bind_eq_ok.mpr ⟨implementation, known, ?_⟩
          exact bind_eq_ok.mpr ⟨arriving, arrivals_follow answers fetched, evaluated⟩
      | some template =>
          have composite : ((machine.network.node entry.socket.node).innerSchedule?
              entry.socket.slot).isSome = true := by
            rw [scheduled]
            rfl
          rw [evaluateEntry_inner outward composite] at evaluated
          rw [evaluateEntry_inner inward composite]
          obtain ⟨buffers, overlay, evaluated⟩ := bind_eq_ok.mp evaluated
          exact bind_eq_ok.mpr ⟨buffers, feeds_follow answers overlay, evaluated⟩

end Evaluation

section Reordered

variable {machine : Machine} {prior marginals : Marginals} {data : Buffers}
  {order : Equiv.Perm Nat} {resolved results : Schedule} {values moved : List Value}

theorem get_follows {place : Nat} {reference other : Reference} {value : Value}
    (follows : reference.Follows order place other) (before : reference.isBefore place = .ok true)
    (each : ∀ place : Nat, moved[order place]? = values[place]?)
    (gotten : MessageStore.get values reference.toValue = .ok value) :
    MessageStore.get moved other.toValue = .ok value := by
  obtain ⟨earlier, placed, bounded⟩ := follows.integral.place_eq before
  have known := Reference.place_eq_ok.mp placed
  have knownMoved := Reference.place_eq_ok.mp ((follows.back earlier).mp ⟨placed, bounded⟩).1
  rw [MessageStore.get_eq_ok knownMoved, each]
  exact (MessageStore.get_eq_ok known).mp gotten

theorem Fulfils.reordered (reorders : Schedule.Reorders order resolved results)
    (refersBack : Schedule.RefersBack 0 resolved)
    (fulfils : machine.Fulfils prior data resolved values) :
    ∃ moved, machine.Fulfils prior data results moved ∧
      ∀ place : Nat, moved[order place]? = values[place]? := by
  have within : ∀ place, order place < values.length ↔ place < values.length := by
    rw [fulfils.1]
    exact reorders.within
  obtain ⟨moved, counted, each⟩ := exists_reordered within
  refine ⟨moved, ⟨counted.trans (fulfils.1.trans reorders.length.symm), ?_⟩, each⟩
  intro place entry value there atValue
  obtain ⟨origin, here, follows⟩ := reorders.origin there
  have held : values[order.symm place]? = some value := by
    rw [← each, order.apply_symm_apply]
    exact atValue
  have evaluated := fulfils.2 _ origin value here held
  -- The inner run of an entry does not depend on its references: only what they read is to be compared.
  rw [follows.same]
  refine evaluateEntry_withInbounds ?_ evaluated
  have earlier : ∀ found ∈ origin.inbounds, ∀ reference, found = some reference →
      reference.isBefore (order.symm place) = .ok true := by
    rintro found member reference rfl
    have before := refersBack _ origin reference here member
    rw [Nat.zero_add] at before
    exact before
  have related := (List.forall₂_and_left _ _).mpr ⟨earlier, follows.references⟩
  apply related.imp
  rintro found after ⟨before, references⟩
  cases references with
  | none => exact .none
  | some references => exact .some fun value => get_follows references (before _ rfl) each

theorem runFrom_closing_reordered (reorders : Schedule.Reorders order resolved results)
    (each : ∀ place : Nat, moved[order place]? = values[place]?) {targets : List VariableKey}
    {closing others : List Instruction}
    (combine : List.Forall₂ (Emission.Combines machine.network resolved) targets closing)
    (combineMoved : List.Forall₂ (Emission.Combines machine.network results) targets others)
    {store : MessageStore}
    (finished : runFrom machine data values prior closing = ⟨marginals, .ok store⟩) :
    ∃ last, runFrom machine data moved prior others = ⟨marginals, .ok last⟩ := by
  induction combine generalizing prior others with
  | nil =>
      cases combineMoved
      rw [runFrom] at finished ⊢
      cases finished
      exact ⟨moved, rfl⟩
  | @cons target instruction targets closing here _ ih =>
      cases combineMoved with
      | @cons _ other _ others there remaining =>
          obtain ⟨key, _, first, second, edges, atFirst, atSecond, rfl⟩ := here
          obtain ⟨_, _, left, right, edgesMoved, atLeft, atRight, rfl⟩ := there
          cases edges.symm.trans edgesMoved
          cases (reorders.indexOf atFirst).symm.trans atLeft
          cases (reorders.indexOf atSecond).symm.trans atRight
          have reads : ∀ (place : Nat) (value : Value),
              MessageStore.get values (.whole place) = .ok value →
              MessageStore.get moved (.whole (order place : Nat)) = .ok value := by
            intro place value gotten
            rw [MessageStore.get_eq_ok rfl, each]
            exact (MessageStore.get_eq_ok rfl).mp gotten
          rw [runFrom, step] at finished ⊢
          cases gotFirst : MessageStore.get values (.whole first) with
          | error fault =>
              rw [gotFirst] at finished
              cases finished
          | ok one =>
              cases gotSecond : MessageStore.get values (.whole second) with
              | error fault =>
                  rw [gotFirst, gotSecond] at finished
                  cases finished
              | ok two =>
                  rw [gotFirst, gotSecond, Partial.ok_bind, Partial.ok_bind] at finished
                  rw [reads first one gotFirst, reads second two gotSecond, Partial.ok_bind,
                    Partial.ok_bind]
                  cases product : machine.product one two with
                  | error fault =>
                      rw [product] at finished
                      cases finished
                  | ok marginal =>
                      rw [product] at finished
                      exact ih remaining finished

theorem run_eq_ok {program : Program} :
    machine.run program data prior = .ok marginals ↔
      ∃ store, machine.execute program data prior = ⟨marginals, .ok store⟩ := by
  rw [run]
  rcases machine.execute program data prior with ⟨after, fault | store⟩
  · constructor
    · intro impossible
      cases impossible
    · rintro ⟨_, impossible⟩
      cases impossible
  · constructor
    · intro same
      cases same
      exact ⟨store, rfl⟩
    · rintro ⟨_, same⟩
      cases same
      rfl

/-- A run computes the messages of all entries, then the marginals from them. -/
theorem execute_program_iff {catalog : Catalog} {leafTypes : LeafTypes} {body closing : List Instruction}
    (certified : Resolver.ScheduleResolved ⟨machine.network, catalog⟩ leafTypes resolved)
    (emitted : Emission.scheduleInstructions machine.network 0 resolved = .ok body)
    {store : MessageStore} :
    machine.execute { instructions := body ++ closing, messages := .whole resolved.length } data prior
        = ⟨marginals, .ok store⟩ ↔
      ∃ values, machine.Fulfils prior data resolved values ∧
        runFrom machine data values prior closing = ⟨marginals, .ok store⟩ := by
  have room : resolved.length ≤ (body ++ closing).length := by
    rw [List.length_append, Emission.scheduleInstructions_length emitted]
    omega
  have performs : ∀ entry ∈ resolved, machine.Performs prior entry := performs_of_certified certified
  have quiet := runFrom_marginals performs emitted data (List.replicate resolved.length .absent)
  have fills : ∀ values, (runFrom machine data (List.replicate resolved.length .absent) prior
      body).store = .ok values ↔ machine.Fulfils prior data resolved values :=
    runFrom_resolved certified emitted
  rw [execute, MessageStore.forBody_eq room]
  simp only
  rw [runFrom_append]
  -- The marginals start from the prior ones, since no entry touches them.
  generalize runFrom machine data (List.replicate resolved.length .absent) prior body = outcome
    at quiet fills
  obtain ⟨after, stored⟩ := outcome
  cases quiet
  cases stored with
  | error fault =>
      constructor
      · intro impossible
        cases impossible
      · rintro ⟨values, fulfils, _⟩
        cases (fills values).mpr fulfils
  | ok values =>
      constructor
      · intro finished
        exact ⟨values, (fills values).mp rfl, finished⟩
      · rintro ⟨others, fulfils, finished⟩
        cases (fills others).mpr fulfils
        exact finished

/-- A run that completes before a reordering completes after it, with the same marginals. -/
theorem run_reordered {catalog : Catalog} {leafTypes : LeafTypes}
    (reorders : Schedule.Reorders order resolved results)
    (certified : Resolver.ScheduleResolved ⟨machine.network, catalog⟩ leafTypes resolved)
    (certifiedMoved : Resolver.ScheduleResolved ⟨machine.network, catalog⟩ leafTypes results)
    {targets : List VariableKey} {program other : Program}
    (emitted : Emission.program machine.network resolved targets = .ok program)
    (emittedMoved : Emission.program machine.network results targets = .ok other)
    (finished : machine.run program data prior = .ok marginals) :
    machine.run other data prior = .ok marginals := by
  obtain ⟨body, closing, within, combine, rfl⟩ := Emission.program_parts emitted
  obtain ⟨bodyMoved, closingMoved, withinMoved, combineMoved, rfl⟩ := Emission.program_parts emittedMoved
  obtain ⟨store, finished⟩ := run_eq_ok.mp finished
  obtain ⟨values, fulfils, finished⟩ := (execute_program_iff certified within).mp finished
  obtain ⟨moved, fulfilsMoved, each⟩ := fulfils.reordered reorders certified.refersBack
  obtain ⟨last, finishedMoved⟩ := runFrom_closing_reordered reorders each combine combineMoved finished
  exact run_eq_ok.mpr
    ⟨last, (execute_program_iff certifiedMoved withinMoved).mpr ⟨moved, fulfilsMoved, finishedMoved⟩⟩

end Reordered

end Machine

end SumProduct
