/-
When resolution through nested inner schedules ends.

The inner schedule for a slot of a composite node may mention slots that have inner schedules themselves.
Resolution follows these, and ends if no slot is reached again on the way.  A schedule is accepted for a slot
without regard to that: as long as no accepted schedule leads back to the slot that it is for, the nesting is
well founded, and every schedule is resolved or refused within some depth.
-/

import Mathlib.Data.Finset.Union
import SumProduct.Proofs.Ownership
import SumProduct.Proofs.Resolution

set_option autoImplicit false

namespace SumProduct

namespace Network

variable {network other : Network}

/-- The inner schedule for a slot of a composite node. -/
def scheduleAt? (network : Network) (socket : Socket) : Option Schedule :=
  (network.node socket.node).innerSchedule? socket.slot

/-- The inner schedule for the one slot has an entry on the other. -/
def Mentions (network : Network) (outer inner : Socket) : Prop :=
  ∃ schedule, network.scheduleAt? outer = some schedule ∧ ∃ entry ∈ schedule, entry.socket = inner

/-- The inner schedule for the one slot has an entry on the other, which has an inner schedule as well. -/
def Nests (network : Network) (outer inner : Socket) : Prop :=
  network.Mentions outer inner ∧ (network.scheduleAt? inner).isSome = true

/-- No slot is reached again from its own inner schedule. -/
def NestsNoCircle (network : Network) : Prop :=
  ∀ socket, ¬ Relation.TransGen network.Nests socket socket

theorem Mentions.scheduled {outer inner : Socket} (mentions : network.Mentions outer inner) :
    (network.scheduleAt? outer).isSome = true := by
  obtain ⟨schedule, found, _⟩ := mentions
  rw [found]
  rfl

theorem nests_of_mentions {first last : Socket} (chain : Relation.TransGen network.Mentions first last)
    (scheduled : (network.scheduleAt? last).isSome = true) : Relation.TransGen network.Nests first last := by
  induction chain using Relation.TransGen.head_induction_on with
  | single mentions => exact .single ⟨mentions, scheduled⟩
  | head mentions later ih =>
      -- What mentions something further has an inner schedule.
      obtain ⟨next, onwards, _⟩ := Relation.TransGen.head'_iff.mp later
      exact .head ⟨mentions, onwards.scheduled⟩ ih

theorem nestsNoCircle_iff :
    network.NestsNoCircle ↔ ∀ socket, ¬ Relation.TransGen network.Mentions socket socket := by
  constructor
  · intro none socket circle
    obtain ⟨next, mentions, _⟩ := Relation.TransGen.head'_iff.mp circle
    exact none socket (nests_of_mentions circle mentions.scheduled)
  · intro none socket circle
    exact none socket (Relation.TransGen.mono (fun _ _ nests => nests.1) _ _ circle)

/-! ### Networks without a circle -/

theorem Sound.scheduled_bounds (sound : network.Sound) {socket : Socket} {schedule : Schedule}
    (found : network.scheduleAt? socket = some schedule) :
    socket.node < network.nodes.size ∧ socket.slot < (network.node socket.node).terminals.length := by
  have there : socket.node < network.nodes.size := by
    by_contra beyond
    rw [scheduleAt?, node_beyond (Nat.le_of_not_lt beyond)] at found
    cases found
  obtain ⟨terminal, _, behind, _⟩ := sound.serving socket.node there socket.slot schedule found
  exact ⟨there, (List.getElem?_eq_some_iff.mp behind).1⟩

theorem Sound.nests_wellFounded_iff (sound : network.Sound) :
    WellFounded (Function.swap network.Nests) ↔ network.NestsNoCircle := by
  constructor
  · intro founded socket
    exact no_circle_of_accessible (founded.apply socket) .refl
  · intro none
    constructor
    intro socket
    refine accessible_of_no_circle ((Finset.range network.nodes.size).biUnion fun key =>
      (Finset.range (network.node key).terminals.length).image (Socket.mk key)) (fun reached _ => none reached) ?_
    rintro reached next _ ⟨⟨schedule, found, _⟩, _⟩
    obtain ⟨there, slotted⟩ := sound.scheduled_bounds found
    rw [Finset.mem_biUnion]
    refine ⟨reached.node, Finset.mem_range.mpr there, Finset.mem_image.mpr ?_⟩
    exact ⟨reached.slot, Finset.mem_range.mpr slotted, rfl⟩

/-- Inner schedules have entries on nodes of the inner graph only. -/
def StaysInside (network : Network) : Prop :=
  ∀ outer inner, network.Mentions outer inner →
    (network.node outer.node).inner? = some (network.node inner.node).graph

theorem Sound.nestsNoCircle_of_staysInside (sound : network.Sound) (inside : network.StaysInside)
    (acyclic : network.IsAcyclic) : network.NestsNoCircle := by
  intro socket circle
  refine acyclic (network.node socket.node).graph
    (Relation.TransGen.lift (fun socket => (network.node socket.node).graph) ?_ _ _ circle)
  rintro outer inner ⟨mentions, _⟩
  have there : outer.node < network.nodes.size := by
    obtain ⟨schedule, found, _⟩ := mentions
    exact (sound.scheduled_bounds found).1
  exact sound.owns_iff.mpr ⟨outer.node, there, rfl, inside outer inner mentions⟩

/-! ### How circles come about -/

/-- The slots have the same inner schedules in both networks. -/
def SchedulesAs (network other : Network) : Prop :=
  ∀ socket, other.scheduleAt? socket = network.scheduleAt? socket

theorem SchedulesAs.of_nodes (same : other.nodes = network.nodes) : network.SchedulesAs other := by
  intro socket
  rw [scheduleAt?, scheduleAt?, node, node, same]

theorem SchedulesAs.withNode {graph : GraphKey} {ids : IdRegistry} {node : Node}
    (unscheduled : node.role.IsUnscheduled) : network.SchedulesAs (network.withNode graph ids node) := by
  intro socket
  rw [scheduleAt?, scheduleAt?, node_withNode]
  split
  · rename_i here
    rw [here, node_beyond (Nat.le_refl _), Node.innerSchedule?]
    cases role : node.role with
    | composite inner terminals schedules =>
        rw [role] at unscheduled
        cases unscheduled
        rfl
    | constant _ | terminal | factor | gain _ => rfl
  · rfl

theorem scheduleAt_withRole {key : NodeKey} {inner : Option GraphKey} {terminals : List NodeKey}
    {schedules : List (Nat × Schedule)} {slot : Nat} {schedule : Schedule} {socket : Socket}
    (composite : (network.node key).role = .composite inner terminals schedules)
    (elsewhere : socket ≠ ⟨key, slot⟩) :
    (network.withRole key (.composite inner terminals
      (Association.set slot schedule schedules))).scheduleAt? socket = network.scheduleAt? socket := by
  rw [scheduleAt?, scheduleAt?, node_withRole]
  split
  · rename_i here
    obtain ⟨rfl, _⟩ := here
    have different : socket.slot ≠ slot := by
      rintro rfl
      exact elsewhere rfl
    simp only [Node.innerSchedule?, composite, Association.lookup_set, if_neg different]
  · rfl

theorem SchedulesAs.joinSocket (network : Network) (socket : Socket) (edge : EdgeKey) :
    network.SchedulesAs (network.joinSocket socket edge) := by
  intro other
  obtain ⟨interfaces, _, same⟩ := network.shape_joinSocket socket edge other.node
  rw [scheduleAt?, same]
  rfl

end Network

namespace Build

variable {α β : Type} {build : Build α}

/-- The operation gives no slot another inner schedule, also when it fails. -/
def IsQuiet (build : Build α) : Prop :=
  ∀ network, Ensures build network (fun _ reached => network.SchedulesAs reached) network.SchedulesAs

theorem IsQuiet.bind {next : α → Build β} (quiet : build.IsQuiet)
    (onwards : ∀ value, (next value).IsQuiet) : (build >>= next).IsQuiet := by
  intro network
  rw [ensures_bind]
  refine (quiet network).imp ?_ (fun _ same => same)
  intro value between same
  refine (onwards value between).imp ?_ ?_
  · exact fun _ reached again socket => (again socket).trans (same socket)
  · exact fun reached again socket => (again socket).trans (same socket)

theorem IsQuiet.pure (value : α) : (Pure.pure value : Build α).IsQuiet := fun _ _ => rfl

theorem IsQuiet.get : (MonadState.get : Build Network).IsQuiet := fun _ _ => rfl

theorem IsQuiet.throw (fault : Fault) : (MonadExcept.throw fault : Build α).IsQuiet := fun _ _ => rfl

theorem IsQuiet.lift (result : Except Fault α) : (Build.lift result).IsQuiet := by
  intro network
  exact ensures_lift (fun _ _ _ => rfl) fun _ => rfl

theorem IsQuiet.ite {condition : Prop} [Decidable condition] {first second : Build α} (quiet : first.IsQuiet)
    (quietToo : second.IsQuiet) : (if condition then first else second).IsQuiet := by
  split
  · exact quiet
  · exact quietToo

theorem currentGraph_quiet : currentGraph.IsQuiet := by
  intro network
  simp only [currentGraph, ensures_bind, ensures_get]
  cases network.current with
  | some key => exact fun _ => rfl
  | none => exact fun _ => rfl

theorem addNode_quiet (kind : Value) (role : Role) (interfaces : List Key) (id : Option Key)
    (graph : Option GraphKey) (unscheduled : role.IsUnscheduled) :
    (addNode kind role interfaces id graph).IsQuiet := by
  have chosen : (chooseGraph graph).IsQuiet := by
    cases graph with
    | some key => exact .pure key
    | none => exact currentGraph_quiet
  refine chosen.bind fun key network => ?_
  simp only [register, ensures_bind, ensures_get]
  refine ensures_lift ?_ fun _ => rfl
  rintro ⟨name, ids⟩ _
  exact .withNode unscheduled

theorem checkTerminals_quiet (inner : Option GraphKey) (offered : List Offer) :
    (checkTerminals inner offered).IsQuiet := by
  induction offered with
  | nil => exact .pure []
  | cons offer rest ih =>
      cases offer with
      | other text => exact .throw _
      | node key =>
          exact IsQuiet.get.bind fun network => .ite (ih.bind fun terminals => .pure _) (.throw _)

theorem addComposite_quiet (inner : Option GraphKey) (offered : List Offer) (kind : Option Value)
    (id : Option Key) (graph : Option GraphKey) : (addComposite inner offered kind id graph).IsQuiet := by
  refine (checkTerminals_quiet inner offered).bind fun terminals => IsQuiet.get.bind fun network => ?_
  refine (addNode_quiet _ (.composite inner terminals []) _ id graph rfl).bind fun key =>
    IsQuiet.get.bind fun reached => ?_
  exact .ite ((IsQuiet.throw _).bind fun _ => .pure key) (.pure key)

theorem addVariable_quiet (graph : GraphKey) (id : Option Key) : (addVariable graph id).IsQuiet := by
  intro network
  simp only [addVariable, ensures_bind, ensures_get]
  refine ensures_lift ?_ fun _ => rfl
  rintro ⟨name, ids⟩ _
  exact .of_nodes rfl

theorem provide_quiet (graph : GraphKey) (request : CarryRequest) : (provide graph request).IsQuiet := by
  cases request with
  | anonymous => exact (addVariable_quiet graph none).bind fun key => .pure _
  | named id =>
      refine IsQuiet.get.bind fun network => ?_
      split
      · exact .pure _
      · exact (addVariable_quiet graph _).bind fun key => .pure _
  | given carried => exact .pure carried

theorem checkOwner_quiet (graph : GraphKey) (socket : Socket) : (checkOwner graph socket).IsQuiet :=
  IsQuiet.get.bind fun _ => .ite (.throw _) (.pure _)

theorem checkFree_quiet (socket : Socket) : (checkFree socket).IsQuiet :=
  IsQuiet.get.bind fun _ => .ite (.throw _) (.pure _)

theorem attach_quiet (key : EdgeKey) (carried : Carried) : (attach key carried).IsQuiet := by
  cases carried with
  | «variable» variableKey => exact fun network => .of_nodes rfl
  | stray value => exact .throw _

theorem connect_quiet (graph : GraphKey) (first second : Socket) (request : CarryRequest) :
    (connect graph first second request).IsQuiet := by
  refine (checkOwner_quiet graph first).bind fun _ => (checkOwner_quiet graph second).bind fun _ => ?_
  refine (provide_quiet graph request).bind fun carried => ?_
  have named : (generateEdgeId graph).IsQuiet := fun network => .of_nodes rfl
  refine named.bind fun id => ?_
  have joined : ∀ key, IsQuiet (modify fun network =>
      ({ network with edges := network.edges.push ⟨id, first, second, carried⟩ }.joinSocket first key)
        |>.joinSocket second key) := by
    intro key network socket
    exact (Network.SchedulesAs.joinSocket _ second key socket).trans
      (Network.SchedulesAs.joinSocket _ first key socket)
  have listed : ∀ key, IsQuiet (modify fun network => network.modifyGraph graph fun contents =>
      { contents with edges := contents.edges ++ [key] }) := fun key network => .of_nodes rfl
  have last := (checkFree_quiet first).bind fun _ => (checkFree_quiet second).bind fun _ =>
    IsQuiet.get.bind fun network => (joined network.edges.size).bind fun _ =>
      (attach_quiet network.edges.size carried).bind fun _ => (listed network.edges.size).bind fun _ =>
        IsQuiet.pure network.edges.size
  exact .ite (IsQuiet.get.bind fun network => (IsQuiet.throw _).bind fun _ => last) last

theorem bindOffered_quiet (graph : GraphKey) (offered : Offer) (buffer index : Value) :
    (bindOffered graph offered buffer index).IsQuiet := by
  cases offered with
  | other text => exact .throw _
  | node key =>
      have bound : IsQuiet (bindPlaceholder graph key buffer index) :=
        IsQuiet.get.bind fun network => .ite (fun _ => .of_nodes rfl) (.throw _)
      exact bound.bind fun _ => .pure key

/-- A schedule is defined for one slot, and no other slot gets another schedule. -/
theorem defineSchedule_elsewhere (key : NodeKey) (slot : Value) (schedule : Option Schedule)
    (network : Network) : ∃ source, ∀ socket, socket ≠ source →
      ((defineSchedule key slot schedule).after network).scheduleAt? socket = network.scheduleAt? socket := by
  refine ⟨⟨key, ((network.node key).slot slot).toOption.getD 0⟩, fun socket elsewhere => ?_⟩
  have same : Ensures (defineSchedule key slot schedule) network
      (fun _ reached => reached.scheduleAt? socket = network.scheduleAt? socket)
      (fun reached => reached.scheduleAt? socket = network.scheduleAt? socket) := by
    simp only [defineSchedule, ensures_bind, ensures_get]
    split
    · rename_i inner terminals schedules composite
      simp only [ensures_bind]
      refine ensures_lift ?_ rfl
      intro index located
      refine ensures_lift ?_ rfl
      intro computed _
      split
      · rw [located] at elsewhere
        exact Network.scheduleAt_withRole composite elsewhere
      · rfl
    · rfl
  exact same.after

theorem Call.scheduleAt_elsewhere (call : Call) (network : Network) : ∃ source, ∀ socket, socket ≠ source →
    (call.after network).scheduleAt? socket = network.scheduleAt? socket := by
  have unchanged : ∀ {α : Type} {build : Build α}, build.IsQuiet → ∃ source, ∀ socket, socket ≠ source →
      (build.after network).scheduleAt? socket = network.scheduleAt? socket :=
    fun quiet => ⟨default, fun socket _ => (quiet network).after socket⟩
  cases call with
  | newGraph name => exact unchanged fun _ _ => rfl
  | currentGraph => exact unchanged currentGraph_quiet
  | setCurrent graph => exact unchanged fun _ _ => rfl
  | addFactor kind id graph => exact unchanged (addNode_quiet _ .factor _ id graph trivial)
  | addConstant value id graph => exact unchanged (addNode_quiet _ (.constant value) _ id graph trivial)
  | addTerminal id graph => exact unchanged (addNode_quiet _ .terminal _ id graph trivial)
  | addGain gain id graph =>
      exact unchanged ((IsQuiet.lift _).bind fun held => addNode_quiet _ (.gain held) _ id graph trivial)
  | addComposite inner offered kind id graph =>
      exact unchanged (addComposite_quiet inner offered kind id graph)
  | addVariable graph id => exact unchanged (addVariable_quiet graph id)
  | connect graph first second request => exact unchanged (connect_quiet graph first second request)
  | bindPlaceholder graph offered buffer index =>
      exact unchanged (bindOffered_quiet graph offered buffer index)
  | defineSchedule node slot schedule => exact defineSchedule_elsewhere node slot schedule network

end Build

namespace Network

variable {network other : Network}

/-- Where a slot gets another schedule, the schedule does not lead back to the slot. -/
def LeadsNotBack (network other : Network) : Prop :=
  ∀ socket, other.scheduleAt? socket ≠ network.scheduleAt? socket →
    ∀ inner, other.Mentions socket inner → ¬ Relation.ReflTransGen network.Mentions inner socket

theorem NestsNoCircle.after {call : Build.Call} (none : network.NestsNoCircle)
    (onwards : network.LeadsNotBack (call.after network)) : (call.after network).NestsNoCircle := by
  obtain ⟨source, elsewhere⟩ := call.scheduleAt_elsewhere network
  generalize call.after network = other at onwards elsewhere
  rw [nestsNoCircle_iff] at none ⊢
  intro socket circle
  have links : Relation.TransGen (fun outer inner => network.Mentions outer inner ∨
      outer = source ∧ other.Mentions source inner ∧
        other.scheduleAt? source ≠ network.scheduleAt? source) socket socket := by
    refine Relation.TransGen.mono ?_ _ _ circle
    intro outer inner mentions
    by_cases kept : other.scheduleAt? outer = network.scheduleAt? outer
    · obtain ⟨schedule, found, mentioned⟩ := mentions
      exact .inl ⟨schedule, kept ▸ found, mentioned⟩
    · have here : outer = source := by
        by_contra different
        exact kept (elsewhere outer different)
      subst here
      exact .inr ⟨rfl, mentions, kept⟩
  -- A new circle runs through the slot that gets another schedule.
  rcases transGen_with_links links with old | ⟨toSource, inner, ⟨mentions, changed⟩, fromInner⟩
  · exact none socket old
  · exact onwards source changed inner mentions (fromInner.trans toSource)

/-- The network can be built by calls that give no slot a schedule that leads back to it. -/
inductive ReachableForward : Network → Prop
  | empty : ReachableForward {}
  | call {network : Network} {call : Build.Call} (reachable : ReachableForward network)
      (possible : call.IsPossible network) (forward : network.LeadsNotBack (call.after network)) :
      ReachableForward (call.after network)

theorem ReachableForward.nestsNoCircle (reachable : network.ReachableForward) : network.NestsNoCircle := by
  induction reachable with
  | empty =>
      rw [nestsNoCircle_iff]
      intro socket circle
      obtain ⟨_, ⟨schedule, impossible, _⟩, _⟩ := Relation.TransGen.head'_iff.mp circle
      cases impossible
  | call _ _ forward ih => exact ih.after forward

end Network

/-! ### Resolution -/

namespace Resolver

variable {resolver : Resolver}

/-- Resolution where `bottom` takes over what is nested deeper. -/
def resolveOver (resolver : Resolver) (bottom : LeafTypes → Schedule → Except Fault Schedule) :
    (depth : Nat) → LeafTypes → Schedule → Except Fault Schedule
  | 0, leafTypes, schedule => bottom leafTypes schedule
  | depth + 1, leafTypes, schedule =>
    match resolver.resolvePrefixWith (resolver.resolveOver bottom depth) leafTypes [] schedule with
    | (resolved, none) => .ok resolved
    | (_, some fault) => .error fault

theorem resolveAtDepth_eq_resolveOver (depth : Nat) : resolver.resolveAtDepth depth
    = resolver.resolveOver (fun _ _ => .error (.lapsed .nestedTooDeep)) depth := by
  induction depth with
  | zero => rfl
  | succ depth ih =>
      funext leafTypes schedule
      rw [resolveAtDepth, ih]
      rfl

theorem resolveOver_add (bottom : LeafTypes → Schedule → Except Fault Schedule) (depth more : Nat) :
    resolver.resolveOver bottom (depth + more) = resolver.resolveOver (resolver.resolveOver bottom more) depth := by
  induction depth with
  | zero =>
      rw [Nat.zero_add]
      rfl
  | succ depth ih =>
      funext leafTypes schedule
      rw [Nat.add_right_comm, resolveOver, resolveOver, ih]

/-- Resolution of the schedule never goes deeper, whatever types arrive. -/
def Fathoms (resolver : Resolver) (depth : Nat) (schedule : Schedule) : Prop :=
  ∀ leafTypes first second, resolver.resolveOver first depth leafTypes schedule
    = resolver.resolveOver second depth leafTypes schedule

theorem Fathoms.deeper {depth : Nat} {schedule : Schedule} (fathoms : resolver.Fathoms depth schedule)
    (more : Nat) : resolver.Fathoms (depth + more) schedule := by
  intro leafTypes first second
  rw [resolveOver_add, resolveOver_add]
  exact fathoms leafTypes _ _

theorem resolveEntryWith_congr {first second : LeafTypes → Schedule → Except Fault Schedule}
    {leafTypes : LeafTypes} {entry : Entry} {index : Int} {place : Key} {known : Int → Option Entry}
    (alike : ∀ inner, resolver.network.scheduleAt? entry.socket = some inner →
      ∀ types, first types inner = second types inner) :
    resolver.resolveEntryWith first leafTypes entry index place known
      = resolver.resolveEntryWith second leafTypes entry index place known := by
  have same : resolver.resolveArriving first leafTypes entry
      = resolver.resolveArriving second leafTypes entry := by
    funext arriving
    unfold resolveArriving
    simp only
    split
    · rfl
    · split
      · rename_i inner found
        rw [alike inner found]
      · rfl
  rw [resolveEntryWith_eq, resolveEntryWith_eq, same]

theorem resolvePrefixWith_congr {first second : LeafTypes → Schedule → Except Fault Schedule}
    {leafTypes : LeafTypes} {done rest : Schedule}
    (alike : ∀ entry ∈ rest, ∀ inner, resolver.network.scheduleAt? entry.socket = some inner →
      ∀ types, first types inner = second types inner) :
    resolver.resolvePrefixWith first leafTypes done rest
      = resolver.resolvePrefixWith second leafTypes done rest := by
  induction rest generalizing done with
  | nil => rfl
  | cons entry rest ih =>
      rw [resolvePrefixWith, resolvePrefixWith, resolveEntryWith_congr (alike entry List.mem_cons_self)]
      split
      · exact ih fun other member => alike other (List.mem_cons_of_mem entry member)
      · rfl

theorem resolvePrefixWith_error {resolveInner : LeafTypes → Schedule → Except Fault Schedule}
    {leafTypes : LeafTypes} {done rest : Schedule} {entry : Entry} {fault : Fault}
    (failed : resolver.resolveEntryWith resolveInner leafTypes entry done.length (.whole done.length)
      done.entry? = .error fault) :
    resolver.resolvePrefixWith resolveInner leafTypes done (entry :: rest) = (done, some fault) := by
  rw [resolvePrefixWith]
  split
  · rename_i result accepted
    cases failed.symm.trans accepted
  · rename_i other refused
    cases failed.symm.trans refused
    rfl

theorem fathoms_succ {depth : Nat} {schedule : Schedule}
    (each : ∀ entry ∈ schedule, ∀ inner, resolver.network.scheduleAt? entry.socket = some inner →
      resolver.Fathoms depth inner) : resolver.Fathoms (depth + 1) schedule := by
  intro leafTypes first second
  rw [resolveOver, resolveOver, resolvePrefixWith_congr]
  intro entry member inner found types
  exact each entry member inner found types first second

theorem exists_fathoms {schedule : Schedule}
    (each : ∀ entry ∈ schedule, ∀ inner, resolver.network.scheduleAt? entry.socket = some inner →
      ∃ depth, resolver.Fathoms depth inner) : ∃ depth, resolver.Fathoms depth schedule := by
  -- One depth for all entries: the sum of those that will do for each.
  suffices common : ∃ depth, ∀ entry ∈ schedule, ∀ inner,
      resolver.network.scheduleAt? entry.socket = some inner → resolver.Fathoms depth inner by
    obtain ⟨depth, all⟩ := common
    exact ⟨depth + 1, fathoms_succ all⟩
  induction schedule with
  | nil => exact ⟨0, fun entry impossible => nomatch impossible⟩
  | cons entry rest ih =>
      obtain ⟨depth, all⟩ := ih fun other member => each other (List.mem_cons_of_mem entry member)
      cases found : resolver.network.scheduleAt? entry.socket with
      | none =>
          refine ⟨depth, fun other member inner held => ?_⟩
          rcases List.mem_cons.mp member with rfl | later
          · rw [found] at held
            cases held
          · exact all other later inner held
      | some nested =>
          obtain ⟨more, fathoms⟩ := each entry List.mem_cons_self nested found
          refine ⟨depth + more, fun other member inner held => ?_⟩
          rcases List.mem_cons.mp member with rfl | later
          · rw [found] at held
            cases held
            rw [Nat.add_comm]
            exact fathoms.deeper depth
          · exact (all other later inner held).deeper more

theorem fathoms_of_accessible {socket : Socket}
    (accessible : Acc (Function.swap resolver.network.Nests) socket) {inner : Schedule}
    (found : resolver.network.scheduleAt? socket = some inner) : ∃ depth, resolver.Fathoms depth inner := by
  induction accessible generalizing inner with
  | intro socket _ ih =>
      apply exists_fathoms
      intro entry member nested held
      refine ih entry.socket ⟨⟨inner, found, entry, member, rfl⟩, ?_⟩ held
      rw [held]
      rfl

/-- Resolution of the schedule ends: from some depth on it makes no difference how deep it may go, nor what
would happen below. -/
def Ends (resolver : Resolver) (leafTypes : LeafTypes) (schedule : Schedule) : Prop :=
  ∃ depth outcome, ∀ bottom more, resolver.resolveOver bottom (depth + more) leafTypes schedule = outcome

theorem ends_of_accessible {schedule : Schedule}
    (accessible : ∀ entry ∈ schedule, Acc (Function.swap resolver.network.Nests) entry.socket)
    (leafTypes : LeafTypes) : resolver.Ends leafTypes schedule := by
  obtain ⟨depth, fathoms⟩ : ∃ depth, resolver.Fathoms depth schedule := by
    apply exists_fathoms
    intro entry member inner found
    exact fathoms_of_accessible (accessible entry member) found
  refine ⟨depth, resolver.resolveAtDepth depth leafTypes schedule, fun bottom more => ?_⟩
  rw [resolveOver_add, resolveAtDepth_eq_resolveOver]
  exact fathoms leafTypes _ _

theorem Ends.resolveAtDepth {leafTypes : LeafTypes} {schedule : Schedule}
    (ends : resolver.Ends leafTypes schedule) :
    ∃ depth outcome, ∀ more, resolver.resolveAtDepth (depth + more) leafTypes schedule = outcome := by
  obtain ⟨depth, outcome, settled⟩ := ends
  refine ⟨depth, outcome, fun more => ?_⟩
  rw [resolveAtDepth_eq_resolveOver]
  exact settled _ more

end Resolver

/-! ### Networks that can be built -/

namespace Network

variable {network : Network}

/-- In every network that can be built the nesting of inner schedules is well founded exactly if no slot is
reached again from its own schedule.  This is so if no accepted schedule led back to the slot that it was for, and
also if inner schedules stay inside and ownership has no circle.  Where the nesting is well founded, resolution of
every schedule ends, for every catalog and all types that may arrive. -/
theorem Reachable.nested_resolution_ends (reachable : network.Reachable) :
    (WellFounded (Function.swap network.Nests) ↔ network.NestsNoCircle) ∧
    (network.ReachableForward → network.NestsNoCircle) ∧
    (network.StaysInside → network.IsAcyclic → network.NestsNoCircle) ∧
    (WellFounded (Function.swap network.Nests) → ∀ (catalog : Catalog) leafTypes schedule,
      Resolver.Ends ⟨network, catalog⟩ leafTypes schedule ∧ ∃ depth outcome, ∀ more,
        Resolver.resolveAtDepth ⟨network, catalog⟩ (depth + more) leafTypes schedule = outcome) := by
  have sound := reachable.sound
  refine ⟨sound.nests_wellFounded_iff, ReachableForward.nestsNoCircle, sound.nestsNoCircle_of_staysInside, ?_⟩
  intro founded catalog leafTypes schedule
  have ends : Resolver.Ends ⟨network, catalog⟩ leafTypes schedule :=
    Resolver.ends_of_accessible (fun entry _ => founded.apply entry.socket) leafTypes
  exact ⟨ends, ends.resolveAtDepth⟩

/-- Composite nodes within a composite node.  The inner one has a schedule; the outer one is given a schedule
last. -/
def stacking (schedule : Schedule) : List Build.Call :=
  [.newGraph .absent, .newGraph .absent, .newGraph .absent, .addTerminal (some "a") (some 2),
    .addConstant (.whole 2) (some "k") (some 2), .connect 2 ⟨0, 0⟩ ⟨1, 0⟩ .anonymous,
    .addComposite (some 2) [.node 0] none (some "p") (some 1),
    .defineSchedule 2 (.whole 0) (some [{ socket := ⟨1, 0⟩ }]), .addTerminal (some "b") (some 1),
    .connect 1 ⟨3, 0⟩ ⟨2, 0⟩ .anonymous, .addComposite (some 1) [.node 3] none (some "q") (some 0),
    .defineSchedule 4 (.whole 0) (some schedule)]

def stacked (schedule : Schedule) : Network := (stacking schedule).foldl Build.Call.after {}

theorem stacked_reachable (schedule : Schedule) : (stacked schedule).Reachable := by
  have known : ∀ {graph size : Nat}, graph < size → ∀ key, some graph = some key → key < size := by
    rintro graph size there key ⟨⟩
    exact there
  have offered : ∀ {node size : Nat}, node < size → ∀ key, .node key ∈ [Offer.node node] → key < size := by
    intro node size there key member
    cases List.mem_singleton.mp member
    exact there
  apply Reachable.empty.calls
  refine ⟨trivial, trivial, trivial, known ?_, known ?_, ⟨?_, ?_, ?_, trivial⟩, ⟨known ?_, offered ?_⟩, ?_,
    known ?_, ⟨?_, ?_, ?_, trivial⟩, ⟨known ?_, offered ?_⟩, ?_, trivial⟩
  all_goals
    show (_ : Nat) < _
    decide +kernel

def straight : Schedule := [{ socket := ⟨2, 0⟩ }]

theorem stacked_nests_once {outer inner : Socket} (nests : (stacked straight).Nests outer inner) :
    outer = ⟨4, 0⟩ ∧ inner = ⟨2, 0⟩ := by
  have middle : (stacked straight).scheduleAt? ⟨2, 0⟩ = some [{ socket := ⟨1, 0⟩ }] := rfl
  have last : (stacked straight).scheduleAt? ⟨4, 0⟩ = some straight := rfl
  have unscheduled : (stacked straight).scheduleAt? ⟨1, 0⟩ = none := rfl
  have slots : ∀ key < (stacked straight).nodes.size, ∀ slot < ((stacked straight).node key).terminals.length,
      (key = 2 ∨ key = 4) ∧ slot = 0 := by decide +kernel
  obtain ⟨⟨schedule, found, entry, member, rfl⟩, scheduled⟩ := nests
  obtain ⟨there, slotted⟩ := (stacked_reachable straight).sound.scheduled_bounds found
  obtain ⟨key, slot⟩ := outer
  obtain ⟨rfl | rfl, rfl⟩ := slots key there slot slotted
  · rw [middle] at found
    cases found
    cases List.mem_singleton.mp member
    rw [unscheduled] at scheduled
    cases scheduled
  · rw [last] at found
    cases found
    cases List.mem_singleton.mp member
    exact ⟨rfl, rfl⟩

theorem Reachable.nested_resolution_ends_stacked :
    (stacked straight).Reachable ∧ (stacked straight).Nests ⟨4, 0⟩ ⟨2, 0⟩ ∧
      WellFounded (Function.swap (stacked straight).Nests) ∧
      Resolver.Ends ⟨stacked straight, {}⟩ [] [{ socket := ⟨4, 0⟩ }] := by
  have reachable := stacked_reachable straight
  obtain ⟨founded_iff, _, _, resolution⟩ := reachable.nested_resolution_ends
  have none : (stacked straight).NestsNoCircle := by
    intro socket circle
    obtain ⟨next, first, back⟩ := Relation.TransGen.head'_iff.mp circle
    obtain ⟨rfl, rfl⟩ := stacked_nests_once first
    rcases back.cases_head with impossible | ⟨other, second, _⟩
    · cases impossible
    · cases (stacked_nests_once second).1
  have founded := founded_iff.mpr none
  refine ⟨reachable, ⟨⟨straight, rfl, _, List.mem_cons_self, rfl⟩, rfl⟩, founded, ?_⟩
  exact (resolution founded {} [] [{ socket := ⟨4, 0⟩ }]).1

/-- The schedule is accepted, since it computes the message toward the terminal; but it leads back. -/
def circular : Schedule := [{ socket := ⟨4, 0⟩ }, { socket := ⟨2, 0⟩ }]

theorem circular_opened (catalog : Catalog) (leafTypes : LeafTypes) {lapse : Lapse}
    {resolveInner : LeafTypes → Schedule → Except Fault Schedule}
    (nested : ∀ types, resolveInner types circular = .error (.lapsed lapse)) :
    Resolver.resolvePrefixWith ⟨stacked circular, catalog⟩ resolveInner leafTypes [] circular
      = ([], some (.lapsed lapse)) := by
  have alone : (stacked circular).otherSockets ⟨4, 0⟩ = [] := by decide +kernel
  apply Resolver.resolvePrefixWith_error
  rw [Resolver.resolveEntryWith_eq, Resolver.arrivingTypes]
  simp only [alone]
  have opened : Resolver.resolveArriving ⟨stacked circular, catalog⟩ resolveInner leafTypes
      { socket := ⟨4, 0⟩ } [] = resolveInner [] circular >>= Resolver.resolveComposite
        ⟨stacked circular, catalog⟩ ((stacked circular).node 4) { socket := ⟨4, 0⟩ } [] := rfl
  change (Resolver.resolveArriving ⟨stacked circular, catalog⟩ resolveInner leafTypes
    { socket := ⟨4, 0⟩ } []).mapError _ = _
  rw [opened, nested]
  rfl

theorem circular_never_settles (catalog : Catalog) (lapse : Lapse) (depth : Nat) (leafTypes : LeafTypes) :
    Resolver.resolveOver ⟨stacked circular, catalog⟩ (fun _ _ => .error (.lapsed lapse)) depth leafTypes circular
      = .error (.lapsed lapse) := by
  induction depth generalizing leafTypes with
  | zero => rfl
  | succ depth ih => rw [Resolver.resolveOver, circular_opened catalog leafTypes ih]

/-- A schedule that leads back to its own slot is accepted, and then resolution does not end. -/
theorem accepted_schedule_nests_itself :
    (stacked circular).Reachable ∧
    (∃ reached, Build.defineSchedule 4 (.whole 0) (some circular)
      ((stacking circular).dropLast.foldl Build.Call.after {}) = .ok () reached) ∧
    (stacked circular).Nests ⟨4, 0⟩ ⟨4, 0⟩ ∧ ¬ WellFounded (Function.swap (stacked circular).Nests) ∧
    ∀ (catalog : Catalog) leafTypes, ¬ Resolver.Ends ⟨stacked circular, catalog⟩ leafTypes circular ∧
      Resolver.resolve ⟨stacked circular, catalog⟩ leafTypes circular = .error (.lapsed .nestedTooDeep) := by
  have nests : (stacked circular).Nests ⟨4, 0⟩ ⟨4, 0⟩ :=
    ⟨⟨circular, rfl, _, List.mem_cons_self, rfl⟩, rfl⟩
  refine ⟨stacked_reachable circular, ⟨_, rfl⟩, nests, ?_, fun catalog leafTypes => ⟨?_, ?_⟩⟩
  · intro founded
    exact no_circle_of_accessible (founded.apply ⟨4, 0⟩) .refl (.single nests)
  · rintro ⟨depth, outcome, settled⟩
    -- What happens below shows through, so that no depth is enough.
    have first := settled (fun _ _ => .error (.lapsed .nestedTooDeep)) 0
    have second := settled (fun _ _ => .error (.lapsed .outOfRange)) 0
    rw [circular_never_settles] at first second
    rw [← first] at second
    cases second
  · rw [Resolver.resolve, Resolver.resolveAtDepth_eq_resolveOver]
    exact circular_never_settles catalog .nestedTooDeep _ leafTypes

end Network

end SumProduct
