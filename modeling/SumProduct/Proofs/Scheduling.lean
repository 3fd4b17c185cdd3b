/-
Schedules built from sockets are in dependency order.

Every entry refers to the latest earlier entry for the message that arrives, so references lead backwards
and to the right messages.  The check of the order and the checks of resolution accept them, also when the
network has grown in the meantime: sockets stay, and connected ones stay connected as they were.
-/

import SumProduct.Proofs.Consistency
import SumProduct.Proofs.Dependence

set_option autoImplicit false

namespace SumProduct

open Partial (bind_eq_ok)

namespace Network

/-! ### Growing networks -/

/-- Nodes keep their sockets, and sockets that are joined stay joined by the same edges. -/
structure Grows (network other : Network) : Prop where
  edges : KeepsEdges network other
  nodes : network.nodes.size ≤ other.nodes.size
  interfaces : ∀ key < network.nodes.size,
    (other.node key).interfaces.length = (network.node key).interfaces.length

section Growth

variable {network other later : Network} {socket partner : Socket}

theorem KeepsEdges.trans (first : KeepsEdges network other) (second : KeepsEdges other later) :
    KeepsEdges network later where
  size := Nat.le_trans first.size second.size
  joined := fun socket key found => second.joined socket key (first.joined socket key found)
  edge := fun key there =>
    (second.edge key (Nat.lt_of_lt_of_le there first.size)).trans (first.edge key there)

theorem Grows.trans (first : network.Grows other) (second : other.Grows later) : network.Grows later where
  edges := first.edges.trans second.edges
  nodes := Nat.le_trans first.nodes second.nodes
  interfaces := fun key there =>
    (second.interfaces key (Nat.lt_of_lt_of_le there first.nodes)).trans (first.interfaces key there)

theorem Grows.of_eq (nodes : other.nodes = network.nodes) (edges : other.edges = network.edges) :
    network.Grows other where
  edges := .of_joined (edgeAt_of_eq nodes) edges
  nodes := Nat.le_of_eq (congrArg Array.size nodes.symm)
  interfaces := fun key _ => by rw [node, node, nodes]

theorem Grows.refl (network : Network) : network.Grows network := .of_eq rfl rfl

theorem Grows.change (change : network.Change other) : network.Grows other := by
  cases change with
  | graph name => exact .of_eq rfl rfl
  | current known => exact .of_eq rfl rfl
  | «variable» present assigned => exact .of_eq rfl rfl
  | edgeName graph => exact .of_eq rfl rfl
  | placeholder binding present constant => exact .of_eq rfl rfl
  | node present assigned fits unscheduled =>
      refine ⟨.of_joined (edgeAt_withNode fun interface member => ?_) rfl, ?_, fun key there => ?_⟩
      · obtain ⟨name, _, rfl⟩ := List.mem_map.mp member
        rfl
      · exact (keepsNodes_withNode _ _ _ _).size
      · rw [node_withNode, if_neg (Nat.ne_of_lt there)]
  | edge present known firstSocket secondSocket firstHome secondHome apart firstFree secondFree =>
      refine ⟨keepsEdges_withEdge firstSocket secondSocket firstFree secondFree,
        (keepsNodes_withEdge _ _ _ _ _).size, fun key there => ?_⟩
      obtain ⟨interfaces, counted, held⟩ := network.shape_withEdge _ _ _ _ key
      rw [held, counted]
  | schedule present composite slotted reached computed =>
      refine ⟨.of_joined (edgeAt_withRole _ _ _) rfl, Nat.le_of_eq Array.size_modify.symm, fun key _ => ?_⟩
      rw [node_withRole]
      split
      · rfl
      · rfl

theorem Grows.changes (changes : network.Changes other) : network.Grows other := by
  induction changes with
  | refl => exact .refl network
  | tail _ change grown => exact grown.trans (.change change)

theorem Reachable.grows {calls : List Build.Call} (reachable : network.Reachable)
    (possible : network.ArePossible calls) : network.Grows (calls.foldl Build.Call.after network) := by
  induction calls generalizing network with
  | nil => exact .refl network
  | cons call rest ih =>
      have changed := Grows.changes (reachable.sound.call possible.1)
      exact changed.trans (ih (.call reachable possible.1) possible.2)

theorem Grows.isSocket (grows : network.Grows other) (there : network.IsSocket socket) :
    other.IsSocket socket := by
  rw [IsSocket, grows.interfaces socket.node there.node_lt]
  exact there

theorem Grows.otherSockets (grows : network.Grows other) (there : network.IsSocket socket) :
    other.otherSockets socket = network.otherSockets socket := by
  rw [Network.otherSockets, Network.otherSockets, sockets, sockets,
    grows.interfaces socket.node there.node_lt]

theorem Grows.partner_eq (grows : network.Grows other) (sound : network.Sound)
    (joined : network.partner? socket = some partner) : other.partner? socket = some partner := by
  obtain ⟨edge, found, same⟩ := Option.map_eq_some_iff.mp joined
  rw [partner?, grows.edges.joined socket edge found, Option.map_some,
    grows.edges.edge edge (sound.ends socket edge found).1]
  exact congrArg some same

end Growth

/-! ### References to the latest message -/

/-- The reference leads to the latest entry before the place for the message that arrives at the socket.
There is none if nothing is connected or if no entry before the place is for that message. -/
def RefersToLatest (network : Network) (schedule : Schedule) (place : Nat) (socket : Socket) :
    Option Reference → Prop
  | none => ∀ earlier < place, ∀ entry, schedule[earlier]? = some entry →
      network.partner? socket ≠ some entry.socket
  | some reference => ∃ latest < place, ∃ entry, reference = .entry latest ∧
      schedule[latest]? = some entry ∧ network.partner? socket = some entry.socket ∧
      ∀ later, latest < later → later < place → ∀ other, schedule[later]? = some other →
        other.socket ≠ entry.socket

section Building

variable {network : Network} {pins : List (Socket × Option Pattern)}
  {approximations : List (Socket × Option Method)}

/-- What has been noted for the entries before a place refers to the latest of them. -/
theorem reference_refersToLatest {schedule : Schedule} {place : Nat} {noted : SocketIndex}
    (indexes : noted.Indexes (schedule.take place)) (socket : Socket) :
    network.RefersToLatest schedule place socket (network.reference noted socket) := by
  have early : ∀ {earlier : Nat}, earlier < place → (schedule.take place)[earlier]? = schedule[earlier]? :=
    fun before => List.getElem?_take_of_lt before
  unfold reference
  cases joined : network.partner? socket with
  | none =>
      intro earlier before entry present impossible
      rw [joined] at impossible
      cases impossible
  | some partner =>
      rw [Option.bind_some, indexes partner]
      cases found : Schedule.indexOf (schedule.take place) partner with
      | none =>
          intro earlier before entry present same
          rw [joined] at same
          obtain ⟨latest, impossible⟩ := Schedule.exists_indexOf ((early before).trans present)
          rw [← Option.some.inj same, found] at impossible
          cases impossible
      | some latest =>
          obtain ⟨⟨entry, present, same⟩, beyond⟩ := Schedule.lastFrom_latest found
          rw [Nat.sub_zero] at present
          have before : latest < place := by
            have inside := (List.getElem?_eq_some_iff.mp present).1
            rw [List.length_take] at inside
            omega
          rw [early before] at present
          refine ⟨latest, before, entry, rfl, present, same ▸ joined, ?_⟩
          intro later after bounded other there alike
          have bound := beyond later other ((early bounded).trans there) (alike.trans same)
          omega

/-- The entries are made in the order of the sockets, and each refers to the latest ones before it. -/
theorem scheduleFrom_refers {earlier : Schedule} {noted : SocketIndex} (indexes : noted.Indexes earlier)
    {sockets : List Socket} {made : Schedule}
    (built : network.scheduleFrom pins approximations earlier.length noted sockets = made) :
    made.map Entry.socket = sockets ∧ ∀ (place : Nat) entry, made[place]? = some entry →
      List.Forall₂ (network.RefersToLatest (earlier ++ made) (earlier.length + place))
        (network.otherSockets entry.socket) entry.inbounds := by
  induction sockets generalizing earlier noted made with
  | nil =>
      cases built
      exact ⟨rfl, nofun⟩
  | cons socket rest ih =>
      have onwards := ih (indexes.note (network.entryFor pins approximations noted socket)) rfl
      rw [List.length_append, List.length_singleton, List.append_assoc, List.singleton_append] at onwards
      obtain ⟨sockets, refers⟩ := onwards
      rw [scheduleFrom] at built
      subst built
      refine ⟨congrArg (socket :: ·) sockets, ?_⟩
      intro place entry present
      cases place with
      | zero =>
          cases present
          rw [entryFor, List.forall₂_map_right_iff, List.forall₂_same]
          refine fun other _ => reference_refersToLatest ?_ other
          rw [Nat.add_zero, List.take_left]
          exact indexes
      | succ place =>
          have latest := refers place entry present
          rw [Nat.add_assoc, Nat.add_comm 1] at latest
          exact latest

end Building

/-- The schedule has an entry for each of the sockets, in their order, and every entry refers to the latest
messages before it. -/
structure IsScheduled (network : Network) (sockets : List Socket) (schedule : Schedule) : Prop where
  sockets : schedule.map Entry.socket = sockets
  latest : ∀ (place : Nat) entry, schedule[place]? = some entry →
    List.Forall₂ (network.RefersToLatest schedule place) (network.otherSockets entry.socket) entry.inbounds

theorem schedule_isScheduled (network : Network) (sockets : List Socket)
    (pins : List (Socket × Option Pattern)) (approximations : List (Socket × Option Method)) :
    network.IsScheduled sockets (network.schedule sockets pins approximations) := by
  obtain ⟨sockets, refers⟩ := @scheduleFrom_refers network pins approximations [] [] .empty sockets _ rfl
  refine ⟨sockets, fun place entry present => ?_⟩
  have latest := refers place entry present
  rw [List.nil_append, List.length_nil, Nat.zero_add] at latest
  exact latest

end Network

/-! ### The order is accepted -/

namespace Schedule

variable {schedule : Schedule}

/-- Every reference is the index of an entry before the entry that has it. -/
def IsBackward (schedule : Schedule) : Prop :=
  ∀ (place : Nat) entry reference, schedule[place]? = some entry → some reference ∈ entry.inbounds →
    ∃ earlier : Nat, reference = .entry earlier ∧ earlier < place

theorem IsBackward.refersBack (backward : schedule.IsBackward) : schedule.RefersBack 0 := by
  intro place entry reference present member
  obtain ⟨earlier, rfl, before⟩ := backward place entry reference present member
  rw [Nat.zero_add]
  have placed : (Reference.entry earlier).place = .ok earlier := rfl
  exact Reference.isBefore_of_place placed before

theorem IsBackward.keyedReferences (backward : schedule.IsBackward) {references : List (Key × Nat)}
    (keyed : schedule.keyedReferences = .ok references) {key : Key} {place : Nat}
    (member : (key, place) ∈ references) : ∃ earlier : Nat, key = .whole earlier ∧ earlier < place := by
  obtain ⟨⟨reference, index⟩, listed, answered⟩ :=
    Partial.exists_of_mem_right (Partial.mapM_eq_ok.mp keyed) member
  obtain ⟨⟨entry, there⟩, atPlace, listed⟩ := List.mem_flatMap.mp listed
  obtain ⟨other, found, same⟩ := List.mem_map.mp listed
  obtain ⟨inbound, inside, rfl⟩ := List.mem_filterMap.mp found
  cases same
  obtain ⟨earlier, rfl, before⟩ :=
    backward there entry reference (List.mk_mem_zipIdx_iff_getElem?.mp atPlace) inside
  cases answered
  exact ⟨earlier, rfl, before⟩

/-- What is referred to is an entry, or it is a key of one of the references. -/
theorem dependencyVertices_cases {references : List (Key × Nat)} {key : Key}
    (member : key ∈ schedule.dependencyVertices references) :
    (∃ index : Nat, key = .whole index) ∨ ∃ place, (key, place) ∈ references := by
  have grown : ∀ (arcs : List (Key × Nat)) (vertices : List Key),
      key ∈ arcs.foldl (fun vertices arc =>
        if vertices.any arc.1.same then vertices else vertices ++ [arc.1]) vertices →
      key ∈ vertices ∨ ∃ place, (key, place) ∈ arcs := by
    intro arcs
    induction arcs with
    | nil => exact fun vertices there => .inl there
    | cons arc rest ih =>
        intro vertices there
        rcases ih _ there with now | ⟨place, later⟩
        · simp only at now
          split at now
          · exact .inl now
          · rcases List.mem_append.mp now with old | new
            · exact .inl old
            · rw [List.mem_singleton.mp new]
              exact .inr ⟨arc.2, List.mem_cons_self⟩
        · exact .inr ⟨place, List.mem_cons_of_mem arc later⟩
  rcases grown references _ member with entry | listed
  · obtain ⟨index, _, rfl⟩ := List.mem_map.mp entry
    exact .inl ⟨index, rfl⟩
  · exact .inr listed

/-- The arcs of the dependency graph lead from an index to a later one. -/
theorem IsBackward.dependencyArcs (backward : schedule.IsBackward) {references : List (Key × Nat)}
    (keyed : schedule.keyedReferences = .ok references) {source : Key} {target : Nat}
    (arc : (source, target) ∈ schedule.dependencyArcs references) :
    ∃ earlier : Nat, source = .whole earlier ∧ earlier < target := by
  obtain ⟨vertex, there, listed⟩ := List.mem_flatMap.mp arc
  obtain ⟨⟨key, place⟩, chosen, same⟩ := List.mem_map.mp (List.mem_eraseDups.mp listed)
  cases same
  obtain ⟨member, alike⟩ := List.mem_filter.mp chosen
  obtain ⟨earlier, rfl, before⟩ := backward.keyedReferences keyed member
  have whole : ∃ index : Nat, source = .whole index := by
    rcases dependencyVertices_cases there with entry | ⟨place, referred⟩
    · exact entry
    · obtain ⟨index, rfl, _⟩ := backward.keyedReferences keyed referred
      exact ⟨index, rfl⟩
  obtain ⟨index, rfl⟩ := whole
  cases Key.same_iff.mp alike
  exact ⟨earlier, rfl, before⟩

end Schedule

namespace Network

theorem checkCounts_ok {network : Network} {entries : List (Entry × Nat)}
    (counted : ∀ entry ∈ entries,
      entry.1.inbounds.length + 1 = (network.node entry.1.socket.node).interfaces.length) :
    network.checkCounts entries = .ok () := by
  induction entries with
  | nil => rfl
  | cons entry rest ih =>
      have here := counted entry List.mem_cons_self
      rw [checkCounts, if_pos (by omega)]
      exact ih fun other member => counted other (List.mem_cons_of_mem entry member)

theorem checkArcs_ok {network : Network} {schedule : Schedule} {arcs : List (Key × Nat)}
    (forward : ∀ arc ∈ arcs, ∃ earlier : Nat, arc.1 = .whole earlier ∧ earlier < arc.2) :
    network.checkArcs schedule arcs = .ok () := by
  induction arcs with
  | nil => rfl
  | cons arc rest ih =>
      obtain ⟨source, target⟩ := arc
      obtain ⟨earlier, here, before⟩ := forward _ List.mem_cons_self
      have compared : (Reference.given source.toValue).isBefore target = .ok true := by
        rw [show source = .whole earlier from here]
        have placed : (Reference.given (.whole earlier)).place = .ok earlier := rfl
        exact Reference.isBefore_of_place placed before
      rw [checkArcs, compared, Partial.ok_bind, if_pos rfl]
      exact ih fun other member => forward other (List.mem_cons_of_mem _ member)

/-- A schedule is in order if its entries have one reference for each other socket, to earlier entries. -/
theorem checkOrder_ok {network : Network} {schedule : Schedule} (backward : schedule.IsBackward)
    (counted : ∀ entry ∈ schedule,
      entry.inbounds.length + 1 = (network.node entry.socket.node).interfaces.length) :
    network.checkOrder schedule = .ok () := by
  obtain ⟨references, keyed⟩ := Schedule.keyedReferences_ok backward.refersBack
  have accepted : network.checkCounts schedule.zipIdx = .ok () := checkCounts_ok fun entry member =>
    counted entry.1 (List.mem_of_getElem? (List.mk_mem_zipIdx_iff_getElem?.mp member))
  rw [checkOrder, accepted, keyed]
  exact checkArcs_ok fun arc member => backward.dependencyArcs keyed member

section Scheduled

variable {network later : Network} {sockets : List Socket} {schedule : Schedule}

theorem IsScheduled.isBackward (scheduled : network.IsScheduled sockets schedule) : schedule.IsBackward := by
  intro place entry reference present member
  obtain ⟨socket, _, latest, before, _, same, _⟩ :=
    Partial.exists_of_mem_right (scheduled.latest place entry present) member
  exact ⟨latest, same, before⟩

theorem IsScheduled.isSocket (scheduled : network.IsScheduled sockets schedule)
    (present : ∀ socket ∈ sockets, network.IsSocket socket) {entry : Entry} (member : entry ∈ schedule) :
    network.IsSocket entry.socket := by
  apply present
  rw [← scheduled.sockets]
  exact List.mem_map_of_mem member

/-- The order is accepted, and still is when the network has grown. -/
theorem IsScheduled.checkOrder_ok (scheduled : network.IsScheduled sockets schedule)
    (present : ∀ socket ∈ sockets, network.IsSocket socket) (grows : network.Grows later) :
    later.checkOrder schedule = .ok () := by
  refine Network.checkOrder_ok scheduled.isBackward fun entry member => ?_
  have there := scheduled.isSocket present member
  obtain ⟨place, atPlace⟩ := List.mem_iff_getElem?.mp member
  rw [← (scheduled.latest place entry atPlace).length_eq, otherSockets_length there,
    grows.interfaces _ there.node_lt]

end Scheduled

end Network

/-! ### What arrives -/

namespace Resolver

/-- The type of the message that a reference leads to; without a reference there is none. -/
def typeThrough (known : Int → Option Entry) (reference : Option Reference) : Option Pattern :=
  ((reference.bind Reference.index?).bind known).bind Entry.outbound

section Arriving

variable {network later : Network} {schedule : Schedule} {place : Nat} {known : Int → Option Entry}

/-- A message that was the latest one when the schedule was made arrives. -/
theorem arrivingType_scheduled (catalog : Catalog) (sound : network.Sound) (grows : network.Grows later)
    (resolved : ∀ earlier < place, ∀ entry, schedule[earlier]? = some entry → ∃ result,
      known earlier = some result ∧ result.isResolved = true ∧ result.socket = entry.socket)
    {socket : Socket} {reference : Option Reference}
    (refers : network.RefersToLatest schedule place socket reference) :
    arrivingType ⟨later, catalog⟩ place known (socket, reference) = .ok (typeThrough known reference) := by
  cases reference with
  | none => rfl
  | some reference =>
      obtain ⟨latest, before, entry, rfl, present, joined, _⟩ := refers
      obtain ⟨result, found, done, same⟩ := resolved latest before entry present
      have placed : (Reference.entry latest).place = .ok latest := rfl
      have compared := Reference.isBefore_of_place placed before
      have partner := grows.partner_eq sound joined
      rw [← same] at partner
      simp only [arrivingType, compared, Partial.ok_bind, Bool.not_true, Bool.false_eq_true, if_false,
        Reference.index?, Option.bind_some, found, done, partner, if_true, typeThrough]
      rfl

theorem arrivingTypes_scheduled (catalog : Catalog) (sound : network.Sound) (grows : network.Grows later)
    (resolved : ∀ earlier < place, ∀ entry, schedule[earlier]? = some entry → ∃ result,
      known earlier = some result ∧ result.isResolved = true ∧ result.socket = entry.socket)
    {entry : Entry} (there : network.IsSocket entry.socket)
    (refers : List.Forall₂ (network.RefersToLatest schedule place) (network.otherSockets entry.socket)
      entry.inbounds) :
    arrivingTypes ⟨later, catalog⟩ entry place known = .ok (entry.inbounds.map (typeThrough known)) := by
  unfold arrivingTypes
  simp only [grows.otherSockets there]
  rw [if_neg (not_not.mpr refers.length_eq.symm)]
  generalize network.otherSockets entry.socket = others, entry.inbounds = inbounds at refers ⊢
  induction refers with
  | nil => rfl
  | cons here _ ih =>
      rw [List.zip_cons_cons, List.mapM_cons, arrivingType_scheduled catalog sound grows resolved here,
        Partial.ok_bind, ih, Partial.ok_bind]
      rfl

end Arriving

end Resolver

namespace Network

/-- A schedule that is built from sockets of a network has an entry for each of them, and every entry refers
to the latest messages before it.  Its order is accepted, now and after any further calls, and what arrives
at an entry is then what the entries before it send. -/
theorem Reachable.schedule_inOrder {network : Network} (reachable : network.Reachable)
    {sockets : List Socket} (present : ∀ socket ∈ sockets, network.IsSocket socket)
    (pins : List (Socket × Option Pattern)) (approximations : List (Socket × Option Method)) :
    network.IsScheduled sockets (network.schedule sockets pins approximations) ∧
      network.checkOrder (network.schedule sockets pins approximations) = .ok () ∧
      ∀ calls, network.ArePossible calls →
        (calls.foldl Build.Call.after network).checkOrder (network.schedule sockets pins approximations)
            = .ok () ∧
          ∀ (catalog : Catalog) (place : Nat) entry (known : Int → Option Entry),
            (network.schedule sockets pins approximations)[place]? = some entry →
            (∀ earlier < place, ∀ other,
              (network.schedule sockets pins approximations)[earlier]? = some other → ∃ result,
                known earlier = some result ∧ result.isResolved = true ∧ result.socket = other.socket) →
            Resolver.arrivingTypes ⟨calls.foldl Build.Call.after network, catalog⟩ entry place known
              = .ok (entry.inbounds.map (Resolver.typeThrough known)) := by
  have scheduled := network.schedule_isScheduled sockets pins approximations
  refine ⟨scheduled, scheduled.checkOrder_ok present (.refl network), fun calls possible => ?_⟩
  have grows := reachable.grows possible
  refine ⟨scheduled.checkOrder_ok present grows, ?_⟩
  intro catalog place entry known atPlace resolved
  exact Resolver.arrivingTypes_scheduled catalog reachable.sound grows resolved
    (scheduled.isSocket present (List.mem_of_getElem? atPlace)) (scheduled.latest place entry atPlace)

theorem arePossible_append {network : Network} {first second : List Build.Call} :
    network.ArePossible (first ++ second) ↔
      network.ArePossible first ∧ (first.foldl Build.Call.after network).ArePossible second := by
  induction first generalizing network with
  | nil => exact (and_iff_right trivial).symm
  | cons call rest ih =>
      rw [List.cons_append, ArePossible, ArePossible, ih, and_assoc]
      rfl

/-- The composite node between the constants, before it is connected to the second one. -/
def halfWired : Network := (wiring.take 10).foldl Build.Call.after {}

theorem halfWiring_possible :
    ArePossible {} (wiring.take 10) ∧ halfWired.ArePossible (wiring.drop 10) := by
  refine arePossible_append.mp ?_
  rw [List.take_append_drop]
  exact wiring_possible

theorem halfWired_reachable : halfWired.Reachable := Reachable.empty.calls halfWiring_possible.1

theorem halfWired_completed : (wiring.drop 10).foldl Build.Call.after halfWired = wired := by
  rw [halfWired, ← List.foldl_append, List.take_append_drop]
  rfl

/-- Sockets of both graphs, one constant and one slot of the composite node twice. -/
def halfWiredSockets : List Socket := [⟨3, 0⟩, ⟨2, 0⟩, ⟨3, 0⟩, ⟨2, 0⟩, ⟨2, 1⟩, ⟨0, 0⟩]

/-- The first entry, resolved. -/
def halfWiredFirst (_ : Int) : Option Entry :=
  some { socket := ⟨3, 0⟩, outbound := some (.typed ⟨"PointMass", []⟩), status := .leaf }

theorem Reachable.schedule_inOrder_halfWired :
    halfWired.IsScheduled halfWiredSockets (halfWired.schedule halfWiredSockets [] []) ∧
      ((halfWired.schedule halfWiredSockets [] []).map fun entry =>
        entry.inbounds.map fun reference => reference.bind Reference.index?)
          = [[], [some 0], [], [some 2], [none], []] ∧
      halfWired.partner? ⟨2, 0⟩ = none ∧ wired.partner? ⟨2, 0⟩ = some ⟨4, 0⟩ ∧
      wired.checkOrder (halfWired.schedule halfWiredSockets [] []) = .ok () ∧
      ∃ entry, (halfWired.schedule halfWiredSockets [] [])[1]? = some entry ∧
        Resolver.arrivingTypes ⟨wired, {}⟩ entry 1 halfWiredFirst
          = .ok (entry.inbounds.map (Resolver.typeThrough halfWiredFirst)) := by
  have present : ∀ socket ∈ halfWiredSockets, halfWired.IsSocket socket := by
    have all : halfWiredSockets.all (fun socket =>
        decide (socket.slot < (halfWired.node socket.node).interfaces.length)) = true := by decide +kernel
    intro socket member
    have there := List.all_eq_true.mp all socket member
    rwa [decide_eq_true_eq] at there
  obtain ⟨scheduled, _, later⟩ := halfWired_reachable.schedule_inOrder present [] []
  obtain ⟨ordered, arrives⟩ := later (wiring.drop 10) halfWiring_possible.2
  rw [halfWired_completed] at ordered arrives
  have located : ∀ place : Nat, (halfWired.schedule halfWiredSockets [] [])[place]?.map Entry.socket
      = halfWiredSockets[place]? := by
    intro place
    rw [← List.getElem?_map, scheduled.sockets]
  obtain ⟨entry, atFirst, _⟩ := Option.map_eq_some_iff.mp (located 1)
  refine ⟨scheduled, by decide +kernel, by decide +kernel, by decide +kernel, ordered, entry, atFirst, ?_⟩
  refine arrives {} 1 entry halfWiredFirst atFirst fun earlier before other there => ?_
  obtain rfl : earlier = 0 := Nat.lt_one_iff.mp before
  have socket := located 0
  rw [there] at socket
  exact ⟨_, rfl, rfl, (Option.some.inj socket).symm⟩

end Network

end SumProduct
