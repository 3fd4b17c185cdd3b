/-
What a resolved schedule guarantees.

Later stages read a resolved schedule without checking it again: that references point back to the
message that arrives, that every type is there and has no free parameter, that a named rule is filed for
the slot and that a composite entry carries the schedule its node defines, resolved.  All this is
guaranteed at every level of nesting, whichever way an entry was resolved.
-/

import SumProduct.Proofs.Idempotence
import SumProduct.Proofs.Reordering

set_option autoImplicit false

namespace SumProduct

open Partial (bind_eq_ok mapError_eq_ok map_eq_ok)

/-- A message type is there, and it has no free parameters. -/
def IsKnown (type : Option Pattern) : Prop :=
  ∃ known, type = some (.typed known) ∧ known.isConcrete = true

theorem IsKnown.isConcrete {type : Option Pattern} (known : IsKnown type) : IsConcrete type := by
  obtain ⟨found, rfl, concrete⟩ := known
  intro pattern present
  exact ⟨found, (Option.some.inj present).symm, concrete⟩

/-- Every type that is supplied is known. -/
def LeafTypes.AreKnown (leafTypes : LeafTypes) : Prop :=
  ∀ key supplied, leafTypes.get? key = some supplied → IsKnown supplied

theorem LeafTypes.areKnown_nil : LeafTypes.AreKnown [] := fun _ _ found => nomatch found

theorem LeafTypes.AreKnown.cons {leafTypes : LeafTypes} (known : leafTypes.AreKnown) (key : Key)
    {type : Option Pattern} (given : IsKnown type) : LeafTypes.AreKnown ((key, type) :: leafTypes) := by
  intro other supplied found
  rw [Table.get?_cons] at found
  split at found
  · exact Option.some.inj found ▸ given
  · exact known other supplied found

/-- The message of an earlier entry, the one at the other end of the edge, arrives at the socket through
the reference. -/
def Network.Refers (network : Network) (resolved : Schedule) (place : Nat) (socket : Socket) :
    Option Reference → Prop
  | none => True
  | some reference => ∃ (index : Nat) (earlier : Entry), reference.index? = some (index : Int) ∧
      index < place ∧ resolved[index]? = some earlier ∧
      network.partner? socket = some earlier.socket

namespace Resolver

/-- The entry names a registered rule of the category, for the kind and the slot of its node. -/
structure NamesRule (resolver : Resolver) (entry : Entry) (category : Category) (rule : Rule) :
    Prop where
  listed : rule ∈ resolver.catalog.rules
  ofCategory : rule.category = category
  filed : ∃ bucket, rule.bucket = .ok bucket ∧
    Bucket.of (resolver.network.node entry.socket.node).kind (.whole entry.socket.slot) category
      = .ok bucket
  named : entry.rule = some rule.id.toValue

/-- What resolution makes of an entry of a schedule. -/
structure Filled (resolver : Resolver) (source entry : Entry) : Prop where
  socket : entry.socket = source.socket
  inbounds : entry.inbounds = source.inbounds
  pinned : entry.pinned = source.pinned
  isResolved : entry.status ≠ .unresolved
  outbound : IsKnown entry.outbound
  leaf : entry.status = .leaf ↔ (resolver.network.node entry.socket.node).isLeaf = true
  exactRule : entry.status = .exact →
    ∃ rule, resolver.NamesRule entry .exact rule ∧ entry.approximation = none
  approximateRule : entry.status = .approximate →
    ∃ rule method, resolver.NamesRule entry .approximate rule ∧
      rule.approximation = some method ∧ entry.approximation = some method ∧
      ∀ asked, source.approximation = some asked → asked.agrees method = true
  composite : entry.status = .composite ↔
    ((resolver.network.node entry.socket.node).innerSchedule? entry.socket.slot).isSome = true
  computes : entry.status = .composite →
    ∃ inner terminal, entry.inner = some inner ∧
      (resolver.network.node entry.socket.node).terminals[entry.socket.slot]? = some terminal ∧
      ∃ (index : Nat) (result : Entry), inner[index]? = some result ∧
        resolver.network.partner? ⟨terminal, 0⟩ = some result.socket ∧
        (∀ (later : Nat) other, inner[later]? = some other → other.socket = result.socket →
          later ≤ index) ∧
        entry.outbound = result.outbound

/-- The schedule is resolved entry by entry, and so are the inner schedules of its composite entries,
compared with those that their nodes define. -/
inductive Completes (resolver : Resolver) : Schedule → Schedule → Prop
  | intro {schedule resolved : Schedule} (counted : resolved.length = schedule.length)
      (filled : ∀ (place : Nat) source entry, schedule[place]? = some source →
        resolved[place]? = some entry → resolver.Filled source entry)
      (refers : ∀ (place : Nat) entry, resolved[place]? = some entry →
        List.Forall₂ (resolver.network.Refers resolved place)
          (resolver.network.otherSockets entry.socket) entry.inbounds)
      (within : ∀ (place : Nat) entry template inner, resolved[place]? = some entry →
        entry.status = .composite →
        (resolver.network.node entry.socket.node).innerSchedule? entry.socket.slot = some template →
        entry.inner = some inner → Completes resolver template inner) :
      Completes resolver schedule resolved

theorem Completes.outbound {resolver : Resolver} {schedule resolved : Schedule}
    (completes : resolver.Completes schedule resolved) {place : Nat} {entry : Entry}
    (present : resolved[place]? = some entry) : IsKnown entry.outbound := by
  cases completes with
  | intro counted filled =>
      have inside := (List.getElem?_eq_some_iff.mp present).1
      have original := List.getElem?_eq_getElem (counted ▸ inside)
      exact (filled place _ entry original present).outbound

end Resolver

/-! ### Types that rules and leaves yield -/

theorem Rule.Produces.isConcrete {rule : Rule} {node : Node} {arriving : List (Option Pattern)}
    {type : MessageType} (produced : rule.Produces node arriving type) : type.isConcrete = true := by
  obtain ⟨assignment, _, _, yields⟩ := produced
  rw [MessageType.isConcrete_iff]
  intro result member
  obtain ⟨param, _, yielded⟩ := Partial.exists_of_mem_right yields member
  cases param with
  | number value => exact ⟨value, yielded⟩
  | free name =>
      rcases yielded with ⟨_, assigned⟩ | ⟨_, own, _, known⟩
      · exact ⟨_, assigned⟩
      · exact ⟨own, known⟩

theorem Node.innerSchedule_of_isLeaf {node : Node} (outward : node.isLeaf = true) (slot : Nat) :
    node.innerSchedule? slot = none := by
  unfold Node.isLeaf at outward
  unfold Node.innerSchedule?
  cases role : node.role with
  | constant _ | terminal | factor | gain _ => rfl
  | composite _ _ _ =>
      rw [role] at outward
      cases outward

namespace Resolver

section Types

variable {resolver : Resolver} {leafTypes : LeafTypes} {node : Node} {entry result : Entry}
  {arriving : List (Option Pattern)}

/-- A leaf has the type supplied for it or the type of the message that it holds. -/
theorem leafType_known (known : leafTypes.AreKnown) {outbound : Option Pattern}
    (typed : leafType leafTypes node = .ok outbound) : IsKnown outbound := by
  unfold leafType at typed
  cases supplied : leafTypes.get? node.id with
  | some type =>
      rw [supplied] at typed
      cases typed
      exact known node.id _ supplied
  | none =>
      rw [supplied] at typed
      cases role : node.role with
      | constant value =>
          rw [role] at typed
          obtain ⟨type, computed, rfl⟩ := map_eq_ok.mp typed
          obtain ⟨message, _, held⟩ := bind_eq_ok.mp computed
          exact ⟨type, rfl, (Message.messageType_eq_ok_iff.mp held).isConcrete⟩
      | factor | terminal | gain _ | composite _ _ _ =>
          rw [role] at typed
          cases typed

theorem resolveLeaf_known (known : leafTypes.AreKnown)
    (resolved : resolveLeaf leafTypes node entry = .ok result) : IsKnown result.outbound := by
  obtain ⟨outbound, typed, passed⟩ := bind_eq_ok.mp resolved
  have same : result.outbound = outbound := by
    split at passed
    · split at passed
      · cases passed
      · rw [← Except.ok.inj passed]
    · rw [← Except.ok.inj passed]
  rw [same]
  exact leafType_known known typed

/-- The types for the terminals are those that arrive. -/
theorem terminalTypes_known (node : Node) (slot : Nat)
    (concrete : ∀ type ∈ arriving, IsConcrete type) :
    (resolver.terminalTypes node slot arriving).AreKnown := by
  have supplied : ∀ (pairs : List (NodeKey × Option Pattern)) (types : LeafTypes), types.AreKnown →
      (∀ pair ∈ pairs, IsConcrete pair.2) → (pairs.foldl resolver.supplyType types).AreKnown := by
    intro pairs
    induction pairs with
    | nil => exact fun types known _ => known
    | cons pair rest ih =>
        intro types known arrives
        refine ih _ ?_ fun other member => arrives other (List.mem_cons_of_mem pair member)
        obtain ⟨terminal, type⟩ := pair
        cases type with
        | none => exact known
        | some pattern =>
            obtain ⟨type, rfl, numbers⟩ := arrives _ List.mem_cons_self pattern rfl
            intro key found atKey
            rw [supplyType, Table.get?_put] at atKey
            split at atKey
            · exact ⟨type, (Option.some.inj atKey).symm, numbers⟩
            · exact known key found atKey
  refine supplied _ [] LeafTypes.areKnown_nil fun pair member => ?_
  exact concrete pair.2 (List.of_mem_zip member).2

/-- An entry that rules decide on takes over an applicable rule with the type that it produces. -/
theorem decision_applicable (coherent : resolver.catalog.Coherent)
    (concrete : ∀ type ∈ arriving, IsConcrete type)
    (decided : resolver.decision node entry arriving = .ok result) :
    ∃ category candidate type,
      candidate.rule ∈ resolver.catalog.applicable node entry arriving category ∧
      (∃ bucket, Bucket.of node.kind (.whole entry.socket.slot) category = .ok bucket) ∧
      candidate.rule.Produces node arriving type ∧
      TakenOver node entry result candidate type category.status := by
  rw [decision_eq] at decided
  obtain ⟨exactOnes, foundExact, chosen⟩ := bind_eq_ok.mp decided
  obtain ⟨_, bucketed, _⟩ := bind_eq_ok.mp foundExact
  obtain ⟨kind, named, _⟩ := bind_eq_ok.mp bucketed
  -- Whatever the category, the one candidate that is left is applicable.
  have taken : ∀ {category candidates candidate},
      resolver.matching node entry arriving category = .ok candidates →
      keepPinned node entry.pinned candidates = [candidate] →
      accept node entry candidate category.status entry.pinned = .ok result →
      ∃ type, candidate.rule ∈ resolver.catalog.applicable node entry arriving category ∧
        (∃ bucket, Bucket.of node.kind (.whole entry.socket.slot) category = .ok bucket) ∧
        candidate.rule.Produces node arriving type ∧
        TakenOver node entry result candidate type category.status := by
    intro category candidates candidate found single accepted
    obtain ⟨others, again, same, fit⟩ := matching_applicable entry coherent concrete named category
    cases found.symm.trans again
    have kept : candidate ∈ keepPinned node entry.pinned candidates := by
      rw [single]
      exact List.mem_singleton_self candidate
    have applicable : candidate.rule ∈ resolver.catalog.applicable node entry arriving category := by
      rw [← same]
      exact List.mem_map_of_mem kept
    obtain ⟨bucket, bucketed, _⟩ := bind_eq_ok.mp found
    obtain ⟨type, takenOver⟩ := accept_inv kept accepted
    have typed := coherent.typed _ (Catalog.mem_applicable.mp applicable).1
    exact ⟨type, applicable, ⟨bucket, bucketed⟩,
      ((fit candidate kept).outbound_eq_ok_iff typed concrete).mp takenOver.yields, takenOver⟩
  rcases choose_eq_ok chosen with ⟨_, later⟩ | ⟨candidate, single, accepted⟩
  · obtain ⟨approximateOnes, foundApproximate, chosen⟩ := bind_eq_ok.mp later
    rcases choose_eq_ok chosen with ⟨_, impossible⟩ | ⟨candidate, single, accepted⟩
    · cases impossible
    · obtain ⟨type, facts⟩ := taken foundApproximate single accepted
      exact ⟨.approximate, candidate, type, facts⟩
  · obtain ⟨type, facts⟩ := taken foundExact single accepted
    exact ⟨.exact, candidate, type, facts⟩

end Types

/-! ### Entries -/

section Entries

variable {resolver : Resolver} {resolveInner : LeafTypes → Schedule → Except Fault Schedule}
  {leafTypes : LeafTypes} {source entry : Entry} {arriving : List (Option Pattern)}

/-- The computed type of a composite entry is that of the last inner entry for the message that reaches
the terminal behind the slot. -/
theorem resultIndex_inv {network : Network} {node : Node} {slot index : Nat} {inner : Schedule}
    {result : Entry} (located : resultIndex? network node slot inner = some index)
    (present : inner[index]? = some result) :
    ∃ terminal, node.terminals[slot]? = some terminal ∧
      network.partner? ⟨terminal, 0⟩ = some result.socket ∧
      ∀ (later : Nat) other, inner[later]? = some other → other.socket = result.socket →
        later ≤ index := by
  obtain ⟨terminal, behind, located⟩ := Option.bind_eq_some_iff.mp located
  obtain ⟨partner, joined, located⟩ := Option.bind_eq_some_iff.mp located
  obtain ⟨⟨last, atLast, same⟩, latest⟩ := Schedule.lastFrom_latest located
  rw [Nat.sub_zero, present] at atLast
  cases atLast
  refine ⟨terminal, behind, same ▸ joined, fun later other atLater alike => ?_⟩
  have bound := latest later other atLater (alike.trans same)
  rwa [Nat.zero_add] at bound

theorem leaf_filled (outward : (resolver.network.node source.socket.node).isLeaf = true)
    (known : leafTypes.AreKnown)
    (resolved : resolveLeaf leafTypes (resolver.network.node source.socket.node) source = .ok entry) :
    resolver.Filled source entry := by
  have outbound := resolveLeaf_known known resolved
  obtain ⟨type, rfl, _⟩ := resolveLeaf_inv resolved
  have plain := Node.innerSchedule_of_isLeaf outward source.socket.slot
  exact {
    socket := rfl
    inbounds := rfl
    pinned := rfl
    isResolved := nofun
    outbound := outbound
    leaf := ⟨fun _ => outward, fun _ => rfl⟩
    exactRule := nofun
    approximateRule := nofun
    composite := by simp [plain]
    computes := nofun }

theorem composite_filled (inward : (resolver.network.node source.socket.node).isLeaf = false)
    (scheduled : ((resolver.network.node source.socket.node).innerSchedule?
      source.socket.slot).isSome = true) {inner : Schedule}
    (known : ∀ (place : Nat) other, inner[place]? = some other → IsKnown other.outbound)
    (resolved : resolver.resolveComposite (resolver.network.node source.socket.node) source arriving
      inner = .ok entry) :
    resolver.Filled source entry ∧ entry.inner = some inner := by
  obtain ⟨index, last, rule, located, computed, rfl⟩ := resolveComposite_inv resolved
  obtain ⟨terminal, behind, joined, latest⟩ := resultIndex_inv located computed
  refine ⟨?_, rfl⟩
  exact {
    socket := rfl
    inbounds := rfl
    pinned := rfl
    isResolved := nofun
    outbound := known index last computed
    leaf := by simp [inward]
    exactRule := nofun
    approximateRule := nofun
    composite := ⟨fun _ => scheduled, fun _ => rfl⟩
    computes := fun _ => ⟨inner, terminal, rfl, behind, index, last, computed, joined, latest, rfl⟩ }

theorem rule_filled (coherent : resolver.catalog.Coherent)
    (concrete : ∀ type ∈ arriving, IsConcrete type)
    (inward : (resolver.network.node source.socket.node).isLeaf = false)
    (plain : (resolver.network.node source.socket.node).innerSchedule? source.socket.slot = none)
    (decided : resolver.decision (resolver.network.node source.socket.node) source arriving
      = .ok entry) :
    resolver.Filled source entry := by
  obtain ⟨category, candidate, type, applicable, ⟨bucket, bucketed⟩, produced, _, rfl⟩ :=
    decision_applicable coherent concrete decided
  obtain ⟨listed, serves, _⟩ := Catalog.mem_applicable.mp applicable
  have typed := coherent.typed _ listed
  have own : candidate.rule.category = category := by
    obtain ⟨kind, named, _⟩ := bind_eq_ok.mp bucketed
    exact serves.category_eq named
  have names : resolver.NamesRule { source with
      outbound := some (.typed type)
      rule := some candidate.rule.id.toValue
      approximation := candidate.rule.approximation
      status := category.status } category candidate.rule :=
    ⟨listed, own, ⟨bucket, serves.1.trans bucketed, bucketed⟩, rfl⟩
  exact {
    socket := rfl
    inbounds := rfl
    pinned := rfl
    isResolved := by cases category <;> nofun
    outbound := ⟨type, rfl, produced.isConcrete⟩
    leaf := by cases category <;> simp [inward, Category.status]
    exactRule := fun status => by
      cases category with
      | approximate => cases status
      | exact =>
          have unnamed := typed.method
          rw [own] at unnamed
          exact ⟨candidate.rule, names, by simpa using unnamed⟩
    approximateRule := fun status => by
      cases category with
      | exact => cases status
      | approximate =>
          obtain ⟨method, offered⟩ := Option.isSome_iff_exists.mp (typed.method.mp own)
          refine ⟨candidate.rule, method, names, offered, offered, fun asked demanded => ?_⟩
          have agrees := serves.2 rfl
          rw [demanded] at agrees
          simpa [Rule.offers, offered] using agrees
    composite := by cases category <;> simp [plain, Category.status]
    computes := fun status => by cases category <;> cases status }

/-- One entry, given what arrives: it is filled in, and its inner schedule is completed. -/
theorem resolveArriving_filled (coherent : resolver.catalog.Coherent) (known : leafTypes.AreKnown)
    (concrete : ∀ type ∈ arriving, IsConcrete type)
    (inwards : ∀ types schedule inner, LeafTypes.AreKnown types →
      resolveInner types schedule = .ok inner → resolver.Completes schedule inner)
    (accepted : resolver.resolveArriving resolveInner leafTypes source arriving = .ok entry) :
    resolver.Filled source entry ∧ ∀ template inner, entry.status = .composite →
      (resolver.network.node entry.socket.node).innerSchedule? entry.socket.slot = some template →
      entry.inner = some inner → resolver.Completes template inner := by
  unfold resolveArriving at accepted
  simp only at accepted
  split at accepted
  · rename_i outward
    have filled := leaf_filled outward known accepted
    refine ⟨filled, fun template inner status scheduled _ => ?_⟩
    rw [filled.socket, Node.innerSchedule_of_isLeaf outward] at scheduled
    cases scheduled
  · rename_i notLeaf
    have inward := Bool.eq_false_iff.mpr notLeaf
    split at accepted
    · rename_i schedule scheduled
      obtain ⟨inner, within, accepted⟩ := bind_eq_ok.mp accepted
      have completes := inwards _ schedule inner (terminalTypes_known _ _ concrete) within
      obtain ⟨filled, held⟩ := composite_filled inward (by rw [scheduled]; rfl)
        (fun _ _ => completes.outbound) accepted
      refine ⟨filled, fun template other _ again carried => ?_⟩
      rw [filled.socket, scheduled] at again
      rw [held] at carried
      cases again
      cases carried
      exact completes
    · rename_i plain
      have filled := rule_filled coherent concrete inward plain accepted
      refine ⟨filled, fun template inner status scheduled _ => ?_⟩
      rw [filled.socket, plain] at scheduled
      cases scheduled

/-- What arrives through a reference is the type of the earlier entry that it refers to. -/
theorem arrivingType_refers {resolved : Schedule} {place : Nat} {socket : Socket}
    {found : Option Reference} {type : Option Pattern}
    (arrives : resolver.arrivingType place (Schedule.entry? (resolved.take place)) (socket, found)
      = .ok type) :
    resolver.network.Refers resolved place socket found ∧
      (type = none ∨ ∃ earlier < place, ∃ other, resolved[earlier]? = some other ∧
        type = other.outbound) := by
  cases found with
  | none => exact ⟨trivial, Or.inl (Except.ok.inj arrives).symm⟩
  | some reference =>
      obtain ⟨before, compared, arrives⟩ := bind_eq_ok.mp arrives
      cases before with
      | false => cases arrives
      | true =>
          simp only [Bool.not_true, Bool.false_eq_true, if_false] at arrives
          split at arrives
          · cases arrives
          · rename_i earlier located
            obtain ⟨index, known, present⟩ := Option.bind_eq_some_iff.mp located
            split at arrives
            · cases arrives
            · split at arrives
              · rename_i joined
                -- The entry was found among those before the place, so its index is a place before it.
                obtain ⟨forward, present⟩ := Option.ite_none_right_eq_some.mp present
                have inside := (List.getElem?_eq_some_iff.mp present).1
                rw [List.length_take] at inside
                have before : index.toNat < place := by omega
                rw [List.getElem?_take_of_lt before] at present
                exact ⟨⟨index.toNat, earlier, by rw [known, Int.toNat_of_nonneg forward], before,
                  present, joined⟩, Or.inr ⟨index.toNat, before, earlier, present,
                  (Except.ok.inj arrives).symm⟩⟩
              · cases arrives

/-- The references of an entry go back to what arrives; what arrives is known if the entries before it
have known types. -/
theorem arrivingTypes_refers {resolved : Schedule} {place : Nat}
    (arrives : resolver.arrivingTypes source place (Schedule.entry? (resolved.take place))
      = .ok arriving) :
    List.Forall₂ (resolver.network.Refers resolved place)
        (resolver.network.otherSockets source.socket) source.inbounds ∧
      ((∀ earlier < place, ∀ other, resolved[earlier]? = some other → IsKnown other.outbound) →
        ∀ type ∈ arriving, IsConcrete type) := by
  unfold arrivingTypes at arrives
  simp only at arrives
  split at arrives
  · cases arrives
  · rename_i counted
    have each := Partial.mapM_eq_ok.mp arrives
    refine ⟨List.forall₂_iff_zip.mpr ⟨(not_not.mp counted).symm, fun member => ?_⟩,
      fun known type member => ?_⟩
    · obtain ⟨_, _, arrived⟩ := Partial.exists_of_mem_left each member
      exact (arrivingType_refers arrived).1
    · obtain ⟨_, _, arrived⟩ := Partial.exists_of_mem_right each member
      rcases (arrivingType_refers arrived).2 with nothing | ⟨earlier, before, other, present, same⟩
      · intro pattern present
        rw [nothing] at present
        cases present
      · rw [same]
        exact (known earlier before other present).isConcrete

/-! ### Schedules -/

theorem Settles.completes {schedule resolved : Schedule} (coherent : resolver.catalog.Coherent)
    (known : leafTypes.AreKnown)
    (inwards : ∀ types schedule inner, LeafTypes.AreKnown types →
      resolveInner types schedule = .ok inner → resolver.Completes schedule inner)
    (settles : resolver.Settles resolveInner leafTypes schedule resolved) :
    resolver.Completes schedule resolved := by
  obtain ⟨counted, each⟩ := settles
  -- The types of the entries before a place are known by induction on the place.
  have filled : ∀ (place : Nat) source entry, schedule[place]? = some source →
      resolved[place]? = some entry →
      resolver.Filled source entry ∧ ∀ template inner, entry.status = .composite →
        (resolver.network.node entry.socket.node).innerSchedule? entry.socket.slot = some template →
        entry.inner = some inner → resolver.Completes template inner := by
    intro place
    induction place using Nat.strongRecOn with
    | ind place ih =>
        intro source entry atPlace present
        obtain ⟨arriving, arrives, accepted⟩ := bind_eq_ok.mp (each place source entry atPlace present)
        refine resolveArriving_filled coherent known ?_ inwards accepted
        refine (arrivingTypes_refers arrives).2 fun earlier before other atEarlier => ?_
        have inside := (List.getElem?_eq_some_iff.mp atEarlier).1
        have original := List.getElem?_eq_getElem (counted ▸ inside)
        exact (ih earlier before _ other original atEarlier).1.outbound
  have original : ∀ (place : Nat) entry, resolved[place]? = some entry →
      ∃ source, schedule[place]? = some source := fun place entry present =>
    ⟨_, List.getElem?_eq_getElem (counted ▸ (List.getElem?_eq_some_iff.mp present).1)⟩
  refine .intro counted (fun place source entry atPlace present =>
    (filled place source entry atPlace present).1) ?_ ?_
  · intro place entry present
    obtain ⟨source, atPlace⟩ := original place entry present
    obtain ⟨arriving, arrives, _⟩ := bind_eq_ok.mp (each place source entry atPlace present)
    have same := (filled place source entry atPlace present).1
    rw [same.socket, same.inbounds]
    exact (arrivingTypes_refers arrives).1
  · intro place entry template inner present status scheduled held
    obtain ⟨source, atPlace⟩ := original place entry present
    exact (filled place source entry atPlace present).2 template inner status scheduled held

end Entries

/-- Resolution with the rules of any registrations completes the schedule, whatever the depth to which
inner schedules may be nested. -/
theorem resolveAtDepth_completes {resolver : Resolver} {calls : List Registration}
    (built : resolver.catalog = Catalog.built calls) {depth : Nat} {leafTypes : LeafTypes}
    (known : leafTypes.AreKnown) {schedule resolved : Schedule}
    (accepted : resolver.resolveAtDepth depth leafTypes schedule = .ok resolved) :
    resolver.Completes schedule resolved := by
  have coherent : resolver.catalog.Coherent := built ▸ Catalog.built_coherent calls
  induction depth generalizing leafTypes schedule resolved with
  | zero => cases accepted
  | succ depth ih =>
      exact (resolveAtDepth_iff.mp accepted).completes coherent known
        fun _ _ _ knownInside acceptedInside => ih knownInside acceptedInside

/-- A node with two slots and an inner schedule for the first one, which passes on what arrives at the
second. -/
def passing : Network where
  nodes := #[
    { id := "p", graph := 0, kind := .text "Probe",
      role := .composite (some 1) [2, 3] [(0, [{ socket := ⟨3, 0⟩ }])],
      interfaces := [{ name := "x" }, { name := "y", edge := some 0 }] },
    { id := "t", graph := 0, kind := .text "Terminal", role := .terminal,
      interfaces := [{ name := "x", edge := some 0 }] },
    { id := "x", graph := 1, kind := .text "Terminal", role := .terminal,
      interfaces := [{ name := "x", edge := some 1 }] },
    { id := "y", graph := 1, kind := .text "Terminal", role := .terminal,
      interfaces := [{ name := "x", edge := some 1 }] }]
  edges := #[{ id := "e", first := ⟨0, 1⟩, second := ⟨1, 0⟩, carried := .stray .absent },
    { id := "f", first := ⟨2, 0⟩, second := ⟨3, 0⟩, carried := .stray .absent }]

def passingRules : List Registration :=
  [{ id := "fields", kind := "Probe", slot := .whole 1, inbound := [.absent],
     outbound := .typed ⟨"Gaussian", []⟩, category := .approximate,
     approximation := some (.named "VMP") }]

/-- The terminal, the inner schedule and a rule, one after the other. -/
def passingSchedule : Schedule :=
  [{ socket := ⟨1, 0⟩ }, { socket := ⟨0, 0⟩, inbounds := [some (.entry 0)] },
    { socket := ⟨0, 1⟩, inbounds := [none] }]

theorem resolveAtDepth_completes_passing : ∃ resolved,
    resolveAtDepth ⟨passing, Catalog.built passingRules⟩ 2
      [("t", some (.typed ⟨"MvGaussian", [.number 3]⟩))] passingSchedule = .ok resolved ∧
    resolved.map Entry.status = [.leaf, .composite, .approximate] ∧
    Completes ⟨passing, Catalog.built passingRules⟩ passingSchedule resolved := by
  have known : LeafTypes.AreKnown [("t", some (.typed ⟨"MvGaussian", [.number 3]⟩))] :=
    LeafTypes.areKnown_nil.cons "t" ⟨_, rfl, rfl⟩
  have accepted : ∃ resolved, resolveAtDepth ⟨passing, Catalog.built passingRules⟩ 2
      [("t", some (.typed ⟨"MvGaussian", [.number 3]⟩))] passingSchedule = .ok resolved ∧
      resolved.map Entry.status = [.leaf, .composite, .approximate] := ⟨_, rfl, rfl⟩
  obtain ⟨resolved, accepting, statuses⟩ := accepted
  exact ⟨resolved, accepting, statuses, resolveAtDepth_completes rfl known accepting⟩

end Resolver

end SumProduct
