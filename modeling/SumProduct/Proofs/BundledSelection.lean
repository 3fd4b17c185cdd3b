/-
The bundled rules leave no choice and no gap.

Two bundled rules for one slot of one kind of node expect types of different families at some place, so at
most one of them fits what arrives.  A rule that fits gives every parameter of its outbound type a value:
what arrives carries it, or the matrix of a gain does.  So resolution over nodes with bundled rules may
find no rule, or a wrong pin, but neither several rules nor an open type.
-/

import SumProduct.Proofs.BundledRules
import SumProduct.Proofs.FirstFailure

set_option autoImplicit false

namespace SumProduct

/-! ### Registrations that leave no choice -/

/-- Nothing that arrives fits both patterns: their types belong to different families. -/
def Pattern.isApart : Pattern → Pattern → Bool
  | .typed type, .typed other => type.family != other.family
  | _, _ => false

theorem Pattern.Accepts.not_of_isApart {pattern other : Pattern} {assignment assignmentToo : Assignment}
    {arriving : Option Pattern} (accepts : pattern.Accepts assignment arriving)
    (apart : pattern.isApart other = true) : ¬ other.Accepts assignmentToo arriving := by
  intro acceptsToo
  cases pattern with
  | any | absent => cases apart
  | typed type =>
      cases other with
      | any | absent => cases apart
      | typed found =>
          have same : type.under assignment = found.under assignmentToo :=
            Pattern.typed.inj (Option.some.inj (accepts.symm.trans acceptsToo))
          have family : (type.under assignment).family = (found.under assignmentToo).family :=
            congrArg MessageType.family same
          exact bne_iff_ne.mp apart family

theorem AcceptsAll.not_of_isApart {patterns others : List Pattern} {assignment assignmentToo : Assignment}
    {arriving : List (Option Pattern)} (accepts : AcceptsAll assignment patterns arriving)
    (apart : (patterns.zip others).any (fun pair => pair.1.isApart pair.2) = true) :
    ¬ AcceptsAll assignmentToo others arriving := by
  intro acceptsToo
  induction accepts generalizing others with
  | nil => cases apart
  | cons here rest ih =>
      cases acceptsToo with
      | cons hereToo restToo =>
          rw [List.zip_cons_cons, List.any_cons, Bool.or_eq_true] at apart
          rcases apart with first | later
          · exact here.not_of_isApart first hereToo
          · exact ih later restToo

/-- The rules of the two calls are never candidates for one look-up. -/
def Registration.isApart (call other : Registration) : Bool :=
  !call.kind.same other.kind || !call.slot.same other.slot || call.category != other.category ||
    (call.inbound.zip other.inbound).any fun pair => pair.1.isApart pair.2

theorem Registration.not_applies_of_isApart {call other : Registration} (apart : call.isApart other = true)
    {type found : MessageType} {bucket : Bucket} {node : Node} {arriving : List (Option Pattern)}
    (filed : (call.rule type).bucket = .ok bucket) (filedToo : (other.rule found).bucket = .ok bucket)
    (applies : (call.rule type).Applies node arriving) : ¬ (other.rule found).Applies node arriving := by
  rintro ⟨assignmentToo, appliesToo⟩
  obtain ⟨assignment, applies⟩ := applies
  rw [Registration.bucket_rule] at filed filedToo
  obtain ⟨kind, slot, category⟩ := Bucket.mk.inj (Except.ok.inj (filed.trans filedToo.symm))
  rw [Registration.isApart, Key.same_iff.mpr kind, Key.same_iff.mpr slot, category] at apart
  have accepts := applies.accepts
  have acceptsToo := appliesToo.accepts
  rw [Registration.patterns_eq] at accepts acceptsToo
  exact accepts.not_of_isApart (by simpa using apart) acceptsToo

theorem Registration.rule?_inv {call : Registration} {rule : Rule} (added : call.rule? = some rule) :
    ∃ type, call.outbound = .typed type ∧ rule = call.rule type := by
  unfold Registration.rule? at added
  split at added
  · rename_i type checked
    exact ⟨type, Option.some.inj (Catalog.check_eq_ok_iff.mp checked).2.2, (Option.some.inj added).symm⟩
  · cases added

/-- The rules of registrations that are pairwise apart yield at most one candidate. -/
theorem Catalog.built_lookup {calls : List Registration}
    (distinct : calls.Pairwise fun call other => call.id.same other.id = false)
    (apart : calls.Pairwise fun call other => call.isApart other = true) (node : Node)
    {arriving : List (Option Pattern)} (concrete : ∀ type ∈ arriving, IsConcrete type) (bucket : Bucket)
    (asked : Option Method) :
    ∃ candidates, (Catalog.built calls).lookup bucket arriving asked (some node.facts) = .ok candidates ∧
      candidates.length ≤ 1 ∧
      ∀ candidate ∈ candidates, candidate.Fits node arriving ∧ candidate.rule.IsTyped ∧
        ∃ call ∈ calls, ∃ type, call.outbound = .typed type ∧ candidate.rule = call.rule type ∧
          (call.rule type).bucket = .ok bucket := by
  classical
  have coherent := Catalog.built_coherent calls
  obtain ⟨candidates, found, same, fit⟩ := coherent.lookup_eq node concrete bucket asked
  have applicable : ∀ rule ∈ candidates.map Candidate.rule, rule ∈ (Catalog.built calls).rules ∧
      rule.bucket = .ok bucket ∧ rule.Applies node arriving := by
    intro rule member
    rw [same, List.mem_filter, decide_eq_true_eq] at member
    exact ⟨member.1, member.2.1, member.2.2.2⟩
  refine ⟨candidates, found, ?_, fun candidate member => ⟨fit candidate member, ?_⟩⟩
  · -- No two rules in the bucket apply, so the candidates cannot be two.
    have exclusive : (Catalog.built calls).rules.Pairwise fun rule other =>
        rule.bucket = .ok bucket → rule.Applies node arriving →
        other.bucket = .ok bucket → ¬ other.Applies node arriving := by
      rw [Catalog.built_rules distinct, List.pairwise_filterMap]
      refine apart.imp fun different rule added other addedToo filed applies filedToo => ?_
      obtain ⟨type, _, rfl⟩ := Registration.rule?_inv added
      obtain ⟨found, _, rfl⟩ := Registration.rule?_inv addedToo
      exact Registration.not_applies_of_isApart different filed filedToo applies
    have kept := exclusive.filter fun rule => decide
      (rule.bucket = .ok bucket ∧ rule.offers asked = true ∧ rule.Applies node arriving)
    rw [← same] at kept
    match candidates with
    | [] => exact Nat.zero_le 1
    | [candidate] => exact Nat.le_refl 1
    | first :: second :: others =>
        obtain ⟨_, early, applies⟩ := applicable first.rule List.mem_cons_self
        obtain ⟨_, late, appliesToo⟩ := applicable second.rule
          (List.mem_cons_of_mem _ List.mem_cons_self)
        have never := (List.pairwise_cons.mp kept).1 second.rule List.mem_cons_self
        exact absurd appliesToo (never early applies late)
  · obtain ⟨there, filed, _⟩ := applicable candidate.rule (List.mem_map_of_mem member)
    refine ⟨coherent.typed _ there, ?_⟩
    rw [Catalog.built_rules distinct] at there
    obtain ⟨call, listed, added⟩ := List.mem_filterMap.mp there
    obtain ⟨type, outbound, same⟩ := Registration.rule?_inv added
    exact ⟨call, listed, type, outbound, same, same ▸ filed⟩

/-! ### Registrations that leave no gap -/

def Pattern.params : Pattern → List Param
  | .typed type => type.params
  | .any | .absent => []

/-- Every free outbound parameter occurs in an inbound pattern or is among the given ones. -/
def Registration.IsClosed (call : Registration) (own : List Param) : Prop :=
  ∀ param ∈ call.outbound.params, param.isFree = true →
    param ∈ own ∨ ∃ pattern ∈ call.inbound, param ∈ pattern.params

instance (call : Registration) (own : List Param) : Decidable (call.IsClosed own) :=
  inferInstanceAs (Decidable (∀ param ∈ call.outbound.params, param.isFree = true →
    param ∈ own ∨ ∃ pattern ∈ call.inbound, param ∈ pattern.params))

theorem Registration.IsClosed.isDetermined {call : Registration} {own : List Param}
    (closed : call.IsClosed own) {type : MessageType} (outbound : call.outbound = .typed type) {node : Node}
    (knows : ∀ name, .free name ∈ own → (node.static name).isSome = true) :
    (call.rule type).IsDetermined node := by
  intro name member
  rw [Registration.IsClosed, outbound] at closed
  rcases closed (.free name) member rfl with known | ⟨pattern, listed, mentioned⟩
  · exact Or.inr (knows name known)
  · refine Or.inl ⟨pattern, ?_, ?_⟩
    · rw [Registration.patterns_eq]
      exact listed
    · cases pattern with
      | any | absent => cases mentioned
      | typed found => exact ⟨found, rfl, mentioned⟩

/-- The outbound type of a candidate is known if every parameter of it has a value. -/
theorem Candidate.Fits.outbound_concrete {candidate : Candidate} {node : Node}
    {arriving : List (Option Pattern)} (fits : candidate.Fits node arriving)
    (typed : candidate.rule.IsTyped) (concrete : ∀ type ∈ arriving, IsConcrete type)
    (determined : candidate.rule.IsDetermined node) :
    ∃ type, candidate.outbound (some node.facts) = .ok type ∧ type.isConcrete = true := by
  cases computed : candidate.outbound (some node.facts) with
  | ok type => exact ⟨type, rfl, ((fits.outbound_eq_ok_iff typed concrete).mp computed).isConcrete⟩
  | error fault =>
      obtain ⟨name, member, unmentioned, unknown, _⟩ :=
        substitute_eq_error (fits.covers typed concrete).1 computed
      rcases determined name member with mentioned | known
      · exact absurd mentioned unmentioned
      · rw [unknown] at known
        cases known

/-! ### The bundled registrations -/

theorem Library.after_catalog (library : Library) (call : Registration) (implementation : Implementation) :
    (library.after call implementation).catalog = call.apply library.catalog := by
  unfold Library.after Library.add Registration.apply
  generalize library.catalog.register _ _ _ _ _ _ _ _ = outcome
  obtain ⟨_ | _, catalog⟩ := outcome <;> rfl

theorem Library.foldl_catalog {α : Type} {add : Library → α → Library} {call : α → Registration}
    (adds : ∀ library item, (add library item).catalog = (call item).apply library.catalog)
    (items : List α) (library : Library) :
    (items.foldl add library).catalog = (items.map call).foldl Registration.apply library.catalog := by
  rw [List.foldl_map]
  exact (List.foldl_hom Library.catalog fun library item => (adds library item).symm).symm

namespace Bundled

/-- The calls that register the bundled rules. -/
def registrations : List Registration :=
  gaussianSignatures.map Signature.registration ++ meanFieldSignatures.map meanFieldRegistration
    ++ (gainSignatures ++ additionSignatures ++ equalitySignatures).map Signature.registration

theorem library_catalog : library.catalog = Catalog.built registrations := by
  have exactRule : ∀ (library : Library) (entry : Signature),
      (addExact library entry).catalog = entry.registration.apply library.catalog := by
    intro library entry
    rw [addExact_eq, Library.after_catalog]
  have approximateRule : ∀ (library : Library) (entry : String × Implementation × Int × MessageType),
      (addMeanField library entry).catalog = (meanFieldRegistration entry).apply library.catalog :=
    fun library entry => Library.after_catalog library (meanFieldRegistration entry) entry.2.1
  rw [library, Library.foldl_catalog exactRule, Library.foldl_catalog approximateRule,
    Library.foldl_catalog exactRule, Catalog.built, registrations, List.foldl_append, List.foldl_append]

theorem registrations_distinct :
    registrations.Pairwise fun call other => call.id.same other.id = false := by decide +kernel

theorem registrations_apart :
    registrations.Pairwise fun call other => call.isApart other = true := by decide +kernel

/-- The parameters that nodes of a kind know by themselves: the extents of the matrix of a gain. -/
def ownParams (kind : Key) : List Param :=
  if kind = .text "FixedGainNode" then [.free "dims_n", .free "dims_m"] else []

theorem registrations_closed : ∀ call ∈ registrations, call.IsClosed (ownParams call.kind) := by
  decide +kernel

/-- The node belongs to one of the classes that the bundled rules are for. -/
inductive IsBundled (node : Node) : Prop
  | factor (kind : String) (named : node.kind = .text kind)
      (listed : kind ∈ ["GaussianNode", "AdditionNode", "EqualityNode"]) (role : node.role = .factor)
  | gain (gain : Gain) (named : node.kind = .text "FixedGainNode") (role : node.role = .gain gain)

theorem IsBundled.knows {node : Node} (bundled : IsBundled node) : ∃ kind, node.kind = .text kind ∧
    ∀ name, .free name ∈ ownParams (.text kind) → (node.static name).isSome = true := by
  cases bundled with
  | factor kind named listed role =>
      have nothing : ownParams (.text kind) = [] := by
        simp only [List.mem_cons, List.not_mem_nil, or_false] at listed
        rcases listed with rfl | rfl | rfl <;> rfl
      refine ⟨kind, named, fun name member => ?_⟩
      rw [nothing] at member
      cases member
  | gain gain named role =>
      refine ⟨"FixedGainNode", named, fun name member => ?_⟩
      have extents : ownParams (.text "FixedGainNode") = [.free "dims_n", .free "dims_m"] := rfl
      simp only [extents, List.mem_cons, Param.free.injEq, List.not_mem_nil, or_false] at member
      rcases member with rfl | rfl
      · rw [static_rows role]
        rfl
      · rw [static_cols role]
        rfl

/-- At most one bundled rule of a category is a candidate, and its outbound type has no open parameter. -/
theorem IsBundled.lookup {node : Node} (bundled : IsBundled node) (slot : Key) (category : Category)
    {arriving : List (Option Pattern)} (concrete : ∀ type ∈ arriving, IsConcrete type)
    (asked : Option Method) :
    ∃ candidates,
      (Bucket.of node.kind slot.toValue category >>= fun bucket =>
        library.catalog.lookup bucket arriving asked (some node.facts)) = .ok candidates ∧
      candidates.length ≤ 1 ∧ ∀ candidate ∈ candidates, ∃ type,
        candidate.outbound (some node.facts) = .ok type ∧ type.isConcrete = true := by
  obtain ⟨kind, named, knows⟩ := bundled.knows
  have bucketed : Bucket.of node.kind slot.toValue category = .ok ⟨.text kind, slot.normal, category⟩ := by
    rw [Bucket.of, named, Key.key_toValue]
    rfl
  obtain ⟨candidates, found, single, each⟩ := Catalog.built_lookup registrations_distinct
    registrations_apart node concrete ⟨.text kind, slot.normal, category⟩ asked
  refine ⟨candidates, ?_, single, fun candidate member => ?_⟩
  · rw [bucketed, Partial.ok_bind, library_catalog, found]
  · obtain ⟨fits, typed, call, listed, type, outbound, same, filed⟩ := each candidate member
    rw [Registration.bucket_rule] at filed
    have ofKind : call.kind = .text kind :=
      Key.normal_eq_text.mp (congrArg Bucket.kind (Except.ok.inj filed))
    have closed := registrations_closed call listed
    rw [ofKind] at closed
    exact fits.outbound_concrete typed concrete (same ▸ closed.isDetermined outbound knows)

/-! ### Resolution over bundled nodes -/

/-- Neither several rules nor an open parameter is the reason for the failure. -/
def IsDecided (family : CompileFamily) : Prop :=
  family ≠ .ambiguousRule ∧ family ≠ .unresolvedParameter

instance (family : CompileFamily) : Decidable (IsDecided family) :=
  inferInstanceAs (Decidable (family ≠ .ambiguousRule ∧ family ≠ .unresolvedParameter))

theorem objection_isDecided (resolver : Resolver) (entry : Entry) :
    IsDecided (resolver.objection entry).family := by
  have invalid : IsDecided .invalidPin := by decide
  have missing : IsDecided .noMatchingRule := by decide
  unfold Resolver.objection
  split
  · exact invalid
  · exact missing

/-- Every entry of the schedule, and of the schedules inside it, is for a leaf, for a node with bundled
rules or for a slot with an inner schedule. -/
def IsOver (network : Network) (schedule : Schedule) : Prop :=
  ∀ entry ∈ schedule, ∀ socket, Relation.ReflTransGen network.Mentions entry.socket socket →
    (network.node socket.node).isLeaf = true ∨ IsBundled (network.node socket.node) ∨
      (network.scheduleAt? socket).isSome = true

theorem IsOver.inside {network : Network} {schedule : Schedule} (covered : IsOver network schedule)
    {entry : Entry} (member : entry ∈ schedule) {inner : Schedule}
    (scheduled : network.scheduleAt? entry.socket = some inner) : IsOver network inner :=
  fun other within socket chain =>
    covered entry member socket (.head ⟨inner, scheduled, other, within, rfl⟩ chain)

section Resolution

variable {resolver : Resolver} {schedule : Schedule}

theorem IsBundled.decision_objects (bundledRules : resolver.catalog = library.catalog) {node : Node}
    (bundled : IsBundled node) (entry : Entry) {arriving : List (Option Pattern)}
    (concrete : ∀ type ∈ arriving, IsConcrete type) :
    Objects node.id IsDecided (resolver.decision node entry arriving) := by
  have matched : ∀ {category candidates}, resolver.matching node entry arriving category = .ok candidates →
      candidates.length ≤ 1 ∧ ∀ candidate ∈ candidates, ∃ type,
        candidate.outbound (some node.facts) = .ok type ∧ type.isConcrete = true := by
    intro category candidates found
    obtain ⟨others, again, facts⟩ := bundled.lookup (.whole entry.socket.slot) category concrete
      (if category = .exact then none else entry.approximation)
    rw [← bundledRules] at again
    cases found.symm.trans again
    exact facts
  have coherent : resolver.catalog.Coherent := by
    rw [bundledRules, library_catalog]
    exact Catalog.built_coherent registrations
  refine Resolver.decision_objects coherent (objection_isDecided resolver entry) ?_ ?_
  · intro category candidates found several
    exact absurd (matched found).1 (Nat.not_le_of_lt several)
  · intro category candidates candidate found member fault failed
    obtain ⟨type, computed, _⟩ := (matched found).2 candidate member
    cases computed.symm.trans failed

/-- However deep the schedules inside it are nested, a schedule over bundled nodes is decided. -/
theorem IsOver.isDecided (bundledRules : resolver.catalog = library.catalog)
    (covered : IsOver resolver.network schedule) {leafTypes : LeafTypes} (known : leafTypes.AreKnown)
    {depth : Nat} {fault : CompileFault}
    (failed : resolver.resolveAtDepth depth leafTypes schedule = .error (.compile fault)) :
    IsDecided fault.cause.family := by
  induction depth generalizing leafTypes schedule fault with
  | zero => cases failed
  | succ depth ih =>
      obtain ⟨_, entry, done, before, rfl, present, failing⟩ := Resolver.resolveAtDepth_error_iff.mp failed
      have member := List.mem_of_getElem? present
      have completes := Resolver.resolveAtDepth_completes (bundledRules.trans library_catalog) known before
      have concrete : ∀ {arriving}, resolver.arrivingTypes entry done.length done.entry? = .ok arriving →
          ∀ type ∈ arriving, IsConcrete type := by
        intro arriving arrives
        have taken : resolver.arrivingTypes entry done.length (Schedule.entry? (done.take done.length))
            = .ok arriving := by
          rw [List.take_length]
          exact arrives
        exact (Resolver.arrivingTypes_refers taken).2 fun _ _ _ there => completes.outbound there
      have decided : ∀ arriving,
          (resolver.network.node entry.socket.node).innerSchedule? entry.socket.slot = none →
          (resolver.network.node entry.socket.node).isLeaf = false →
          resolver.arrivingTypes entry done.length done.entry? = .ok arriving →
          Objects (resolver.network.node entry.socket.node).id IsDecided
            (resolver.decision (resolver.network.node entry.socket.node) entry arriving) := by
        intro arriving plain inward arrives
        rcases covered entry member entry.socket .refl with outward | bundled | scheduled
        · cases inward.symm.trans outward
        · exact bundled.decision_objects bundledRules entry (concrete arrives)
        · rw [Network.scheduleAt?, plain] at scheduled
          cases scheduled
      obtain ⟨raised, rfl, ⟨types, inner, enters, inside⟩ | ⟨_, objection⟩⟩ :=
        Resolver.resolveEntryWith_objects IsDecided (by decide) (by decide) decided failing
      · obtain ⟨_, scheduled, arriving, arrives, rfl⟩ := enters
        have family : IsDecided raised.cause.family := ih (covered.inside member scheduled)
          (Resolver.terminalTypes_known _ _ (concrete arrives)) inside
        exact family
      · exact objection.family

end Resolution

/-- At every node of a bundled class at most one rule of a category is found, and its outbound type has no
open parameter.  Hence resolution over such nodes never fails with an ambiguity or an open parameter. -/
theorem library_unambiguous :
    (∀ node, IsBundled node → ∀ (slot : Key) category (arriving : List (Option Pattern)) asked,
      (∀ type ∈ arriving, IsConcrete type) → ∃ candidates,
        (Bucket.of node.kind slot.toValue category >>= fun bucket =>
          library.catalog.lookup bucket arriving asked (some node.facts)) = .ok candidates ∧
        candidates.length ≤ 1 ∧ ∀ candidate ∈ candidates, ∃ type,
          candidate.outbound (some node.facts) = .ok type ∧ type.isConcrete = true) ∧
    ∀ network schedule, IsOver network schedule → ∀ leafTypes : LeafTypes, leafTypes.AreKnown →
      ∀ depth fault, Resolver.resolveAtDepth ⟨network, library.catalog⟩ depth leafTypes schedule
          = .error (.compile fault) →
        fault.cause.family ≠ .ambiguousRule ∧ fault.cause.family ≠ .unresolvedParameter := by
  constructor
  · intro node bundled slot category arriving asked concrete
    exact bundled.lookup slot category concrete asked
  · intro network schedule covered leafTypes known depth fault failed
    have holds : ∀ catalog, Resolver.catalog ⟨network, catalog⟩ = catalog := fun _ => rfl
    exact IsOver.isDecided (holds library.catalog) covered known failed

/-- Two terminals with an equality between them. -/
def merging : Network where
  nodes := #[
    { id := "e", graph := 0, kind := .text "EqualityNode", role := .factor,
      interfaces := [{ name := "a", edge := some 0 }, { name := "b", edge := some 1 }, { name := "c" }] },
    { id := "s", graph := 0, kind := .text "Terminal", role := .terminal,
      interfaces := [{ name := "out", edge := some 0 }] },
    { id := "t", graph := 0, kind := .text "Terminal", role := .terminal,
      interfaces := [{ name := "out", edge := some 1 }] }]
  edges := #[{ id := "f", first := ⟨0, 0⟩, second := ⟨1, 0⟩, carried := .stray .absent },
    { id := "g", first := ⟨0, 1⟩, second := ⟨2, 0⟩, carried := .stray .absent }]

/-- The product has the type of the point mass, so the pin of the last entry is wrong. -/
def mergingSchedule : Schedule :=
  [{ socket := ⟨1, 0⟩ }, { socket := ⟨2, 0⟩ },
    { socket := ⟨0, 2⟩, inbounds := [some (.entry 0), some (.entry 1)],
      pinned := some (.typed ⟨"MvGaussian", [.number 3]⟩) }]

def mergingTypes : LeafTypes :=
  [("s", some (.typed ⟨"MvGaussian", [.number 3]⟩)), ("t", some (.typed ⟨"MvPointMass", [.number 3]⟩))]

theorem merging_isBundled : IsBundled (merging.node 0) :=
  .factor "EqualityNode" rfl (by decide) rfl

theorem merging_isOver : IsOver merging mergingSchedule := by
  intro entry member socket chain
  have alone : entry.socket = socket := by
    rcases chain.cases_head with same | ⟨next, ⟨schedule, scheduled, _⟩, _⟩
    · exact same
    · simp only [mergingSchedule, List.mem_cons, List.not_mem_nil, or_false] at member
      rcases member with rfl | rfl | rfl <;> cases scheduled
  rw [← alone]
  simp only [mergingSchedule, List.mem_cons, List.not_mem_nil, or_false] at member
  rcases member with rfl | rfl | rfl
  · exact Or.inl rfl
  · exact Or.inl rfl
  · exact Or.inr (Or.inl merging_isBundled)

/-- The family of the failure to compile, if it is one. -/
def failure? : Except Fault Schedule → Option CompileFamily
  | .error (.compile fault) => some fault.cause.family
  | _ => none

theorem failure?_inv {outcome : Except Fault Schedule} {family : CompileFamily}
    (failed : failure? outcome = some family) :
    ∃ fault, outcome = .error (.compile fault) ∧ fault.cause.family = family := by
  unfold failure? at failed
  split at failed
  · rename_i fault
    exact ⟨fault, rfl, Option.some.inj failed⟩
  · cases failed

theorem library_unambiguous_merging :
    (∃ candidates,
      (Bucket.of (merging.node 0).kind (Key.whole 2).toValue .exact >>= fun bucket =>
        library.catalog.lookup bucket (mergingTypes.map Prod.snd) none (some (merging.node 0).facts))
          = .ok candidates ∧
      candidates.map (fun candidate => candidate.rule.id) = [.text "equality_c_sp_mvg_mvpm"] ∧
      ∀ candidate ∈ candidates, ∃ type,
        candidate.outbound (some (merging.node 0).facts) = .ok type ∧ type.isConcrete = true) ∧
    ∃ fault, Resolver.resolveAtDepth ⟨merging, library.catalog⟩ 1 mergingTypes mergingSchedule
        = .error (.compile fault) ∧
      fault.cause.family = .invalidPin ∧ fault.cause.family ≠ .ambiguousRule ∧
      fault.cause.family ≠ .unresolvedParameter := by
  have known : mergingTypes.AreKnown :=
    (LeafTypes.areKnown_nil.cons "t" ⟨_, rfl, rfl⟩).cons "s" ⟨_, rfl, rfl⟩
  have concrete : ∀ type ∈ mergingTypes.map Prod.snd, IsConcrete type := by
    intro type member
    simp only [mergingTypes, List.map_cons, List.map_nil, List.mem_cons, List.not_mem_nil, or_false]
      at member
    rcases member with rfl | rfl
    · exact IsKnown.isConcrete ⟨_, rfl, rfl⟩
    · exact IsKnown.isConcrete ⟨_, rfl, rfl⟩
  constructor
  · obtain ⟨candidates, found, _, each⟩ := library_unambiguous.1 (merging.node 0) merging_isBundled
      (.whole 2) .exact (mergingTypes.map Prod.snd) none concrete
    have computed : ((Bucket.of (merging.node 0).kind (Key.whole 2).toValue .exact >>= fun bucket =>
        library.catalog.lookup bucket (mergingTypes.map Prod.snd) none
          (some (merging.node 0).facts)).toOption.map
            fun candidates => candidates.map fun candidate => candidate.rule.id)
        = some [.text "equality_c_sp_mvg_mvpm"] := by decide +kernel
    refine ⟨candidates, found, ?_, each⟩
    rw [found] at computed
    exact Option.some.inj computed
  · have failing : failure? (Resolver.resolveAtDepth ⟨merging, library.catalog⟩ 1 mergingTypes
        mergingSchedule) = some .invalidPin := by decide +kernel
    obtain ⟨fault, failed, family⟩ := failure?_inv failing
    exact ⟨fault, failed, family, library_unambiguous.2 merging mergingSchedule merging_isOver mergingTypes
      known 1 fault failed⟩

end Bundled

end SumProduct
