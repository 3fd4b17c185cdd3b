/-
Which rule resolution selects for an entry.

The applicable rules of an entry are those filed for its node and slot that apply to what arrives and,
if the entry is pinned, produce the pin.  A single applicable exact rule is taken.  If there is none,
a single applicable approximate rule is taken.  Several are an ambiguity, and none at all is a failure.
A rule that is taken has to say every parameter of its outbound type.
-/

import SumProduct.Proofs.Registration
import SumProduct.Schedule.Resolution

set_option autoImplicit false

namespace SumProduct

open Partial (bind_eq_ok)

/-- Every outbound parameter is mentioned by the patterns or known to the node. -/
def Rule.IsDetermined (rule : Rule) (node : Node) : Prop :=
  ∀ name, .free name ∈ rule.outbound.params →
    MentionedIn rule.patterns name ∨ (node.static name).isSome

theorem Rule.Produces.isDetermined {rule : Rule} {node : Node} {arriving : List (Option Pattern)}
    {type : MessageType} (produced : rule.Produces node arriving type) : rule.IsDetermined node := by
  obtain ⟨assignment, _, _, yields⟩ := produced
  intro name member
  obtain ⟨result, _, yielded⟩ := Partial.exists_of_mem_left yields member
  rcases yielded with ⟨mentioned, _⟩ | ⟨_, own, known, _⟩
  · exact Or.inl mentioned
  · exact Or.inr (by rw [known]; rfl)

/-- The outbound type of a rule as failures show it. -/
def Rule.described (rule : Rule) (type : MessageType) : Described :=
  match rule.approximation with
  | some method => .approximate type method.text
  | none => .exact type

/-- The rule is filed for the entry in the given category.  Approximate rules have to offer the method
that the entry asks for. -/
def Rule.Serves (rule : Rule) (node : Node) (entry : Entry) (category : Category) : Prop :=
  rule.bucket = Bucket.of node.kind (.whole entry.socket.slot) category ∧
    (category = .approximate → rule.offers entry.approximation = true)

/-- The rule produces the pin, if there is one. -/
def Rule.HonoursPin (rule : Rule) (node : Node) (entry : Entry) (arriving : List (Option Pattern)) :
    Prop :=
  ∀ pin, entry.pinned = some pin → ∃ type, pin = .typed type ∧ rule.Produces node arriving type

open Classical in
/-- The applicable rules of an entry in order of registration. -/
noncomputable def Catalog.applicable (catalog : Catalog) (node : Node) (entry : Entry)
    (arriving : List (Option Pattern)) (category : Category) : List Rule :=
  catalog.rules.filter fun rule =>
    rule.Serves node entry category ∧ rule.Applies node arriving ∧ rule.HonoursPin node entry arriving

namespace Resolver

/-- The rule is taken over with the type it produces, or an outbound parameter without a value is
named. -/
structure Takes (node : Node) (entry : Entry) (arriving : List (Option Pattern)) (place : Key)
    (outcome : Except Fault Entry) (rule : Rule) (status : Status) : Prop where
  determined : rule.IsDetermined node → ∃ type, rule.Produces node arriving type ∧
    (∀ pin, entry.pinned = some pin → pin = .typed type) ∧
    outcome = .ok { entry with
      outbound := some (.typed type)
      rule := some rule.id.toValue
      approximation := rule.approximation
      status := status }
  undetermined : ¬ rule.IsDetermined node → ∃ name, .free name ∈ rule.outbound.params ∧
    ¬ MentionedIn rule.patterns name ∧ node.static name = none ∧
    outcome = .error (.compile {
      cause := .unboundParameter name rule.outbound
      entryIndex := some place
      nodeId := some node.id })

/-- The failure lists exactly the given rules, in their order and with their outbound types. -/
def Lists (resolver : Resolver) (node : Node) (entry : Entry) (arriving : List (Option Pattern))
    (place : Key) (outcome : Except Fault Entry) (rules : List Rule) : Prop :=
  ∃ listed hint,
    outcome = .error (.compile {
      cause := .ambiguous (resolver.network.placeText entry.socket) listed hint
      entryIndex := some place
      nodeId := some node.id
      inboundTypes := some arriving }) ∧
    List.Forall₂ (fun rule item => item.1 = rule.id.plain ∧
      ∀ type, rule.Produces node arriving type → item.2 = rule.described type) rules listed

/-- Nothing is applicable: the cause of the failure. -/
def objection (resolver : Resolver) (entry : Entry) : CompileCause :=
  match entry.pinned with
  | some pinned => .unproduciblePin pinned (resolver.network.placeText entry.socket)
  | none => .noRule (resolver.network.placeText entry.socket)

/-- The outcome is decided by the applicable rules of the entry. -/
structure Selects (resolver : Resolver) (node : Node) (entry : Entry)
    (arriving : List (Option Pattern)) (place : Key) (outcome : Except Fault Entry) : Prop where
  exactRule : ∀ rule, resolver.catalog.applicable node entry arriving .exact = [rule] →
    rule.approximation = none ∧ Takes node entry arriving place outcome rule .exact
  exactRules : 2 ≤ (resolver.catalog.applicable node entry arriving .exact).length →
    resolver.Lists node entry arriving place outcome
      (resolver.catalog.applicable node entry arriving .exact)
  approximateRule : resolver.catalog.applicable node entry arriving .exact = [] →
    ∀ rule, resolver.catalog.applicable node entry arriving .approximate = [rule] →
      rule.approximation.isSome ∧ Takes node entry arriving place outcome rule .approximate
  approximateRules : resolver.catalog.applicable node entry arriving .exact = [] →
    2 ≤ (resolver.catalog.applicable node entry arriving .approximate).length →
      resolver.Lists node entry arriving place outcome
        (resolver.catalog.applicable node entry arriving .approximate)
  noRule : resolver.catalog.applicable node entry arriving .exact = [] →
    resolver.catalog.applicable node entry arriving .approximate = [] →
      outcome = .error (.compile {
        cause := resolver.objection entry
        entryIndex := some place
        nodeId := some node.id
        inboundTypes := some arriving })

end Resolver

/-! ### Candidates that produce the pin -/

/-- The candidates that produce the pin; without a pin all of them. -/
def keepPinned (node : Node) (pinned : Option Pattern) (candidates : List Candidate) :
    List Candidate :=
  match pinned with
  | some pin => candidates.filter fun candidate => candidate.produces pin (some node.facts)
  | none => candidates

section Applicable

variable {catalog : Catalog} {node : Node} {entry : Entry} {arriving : List (Option Pattern)}
  {category : Category} {rule : Rule}

theorem Catalog.mem_applicable :
    rule ∈ catalog.applicable node entry arriving category ↔
      rule ∈ catalog.rules ∧ rule.Serves node entry category ∧ rule.Applies node arriving ∧
        rule.HonoursPin node entry arriving := by
  simp only [Catalog.applicable, List.mem_filter, decide_eq_true_eq]

theorem Rule.Serves.category_eq {kind : Key} (named : node.kind.key = .ok kind)
    (serves : rule.Serves node entry category) : rule.category = category := by
  have filed := serves.1
  rw [Rule.bucket, Bucket.of, Bucket.of, named] at filed
  obtain ⟨own, _, filed⟩ := bind_eq_ok.mp filed
  obtain ⟨slot, _, filed⟩ := bind_eq_ok.mp filed
  exact congrArg Bucket.category (Except.ok.inj filed)

end Applicable

section Candidates

variable {node : Node} {entry : Entry} {arriving : List (Option Pattern)} {candidate : Candidate}

theorem Candidate.Fits.produces_iff (fits : candidate.Fits node arriving)
    (typed : candidate.rule.IsTyped) (concrete : ∀ type ∈ arriving, IsConcrete type)
    {pin : Pattern} :
    candidate.produces pin (some node.facts) = true ↔
      ∃ type, pin = .typed type ∧ candidate.rule.Produces node arriving type := by
  rw [Candidate.produces]
  cases computed : candidate.outbound (some node.facts) with
  | error fault =>
      constructor
      · intro impossible
        cases impossible
      · rintro ⟨type, _, produced⟩
        rw [(fits.outbound_eq_ok_iff typed concrete).mpr produced] at computed
        cases computed
  | ok type =>
      have produced := (fits.outbound_eq_ok_iff typed concrete).mp computed
      rw [decide_eq_true_iff]
      constructor
      · rintro rfl
        exact ⟨type, rfl, produced⟩
      · rintro ⟨other, rfl, again⟩
        rw [(fits.outbound_eq_ok_iff typed concrete).mpr again] at computed
        cases computed
        rfl

theorem Candidate.Fits.produces_unique (fits : candidate.Fits node arriving)
    (typed : candidate.rule.IsTyped) (concrete : ∀ type ∈ arriving, IsConcrete type)
    {first second : MessageType} (early : candidate.rule.Produces node arriving first)
    (late : candidate.rule.Produces node arriving second) : first = second := by
  have computed := (fits.outbound_eq_ok_iff typed concrete).mpr early
  rw [(fits.outbound_eq_ok_iff typed concrete).mpr late] at computed
  cases computed
  rfl

theorem Candidate.Fits.describe_eq (fits : candidate.Fits node arriving)
    (typed : candidate.rule.IsTyped) (concrete : ∀ type ∈ arriving, IsConcrete type)
    {type : MessageType} (produced : candidate.rule.Produces node arriving type) :
    candidate.describe (some node.facts) = candidate.rule.described type := by
  have computed := (fits.outbound_eq_ok_iff typed concrete).mpr produced
  cases method : candidate.rule.approximation with
  | none => simp only [Candidate.describe, Rule.described, computed, method]
  | some named => simp only [Candidate.describe, Rule.described, computed, method]

theorem mem_of_mem_keepPinned {pinned : Option Pattern} {candidates : List Candidate}
    (member : candidate ∈ keepPinned node pinned candidates) : candidate ∈ candidates := by
  cases pinned with
  | none => exact member
  | some pin => exact (List.mem_filter.mp member).1

open Classical in
theorem keepPinned_rules {candidates : List Candidate} {holds : Rule → Prop}
    {_ : DecidablePred holds}
    {rules : List Rule} (same : candidates.map Candidate.rule = rules.filter fun rule => holds rule)
    (fit : ∀ candidate ∈ candidates, candidate.Fits node arriving)
    (typed : ∀ candidate ∈ candidates, candidate.rule.IsTyped)
    (concrete : ∀ type ∈ arriving, IsConcrete type) :
    (keepPinned node entry.pinned candidates).map Candidate.rule
      = rules.filter fun rule => holds rule ∧ rule.HonoursPin node entry arriving := by
  have kept : ∀ candidate ∈ candidates, ∀ pin, entry.pinned = some pin →
      (candidate.produces pin (some node.facts) = true ↔
        candidate.rule.HonoursPin node entry arriving) := by
    intro candidate member pin pinned
    rw [(fit candidate member).produces_iff (typed candidate member) concrete]
    constructor
    · intro produced other found
      rw [pinned] at found
      cases found
      exact produced
    · intro honours
      exact honours pin pinned
  have split : rules.filter (fun rule => holds rule ∧ rule.HonoursPin node entry arriving)
      = (candidates.map Candidate.rule).filter fun rule => rule.HonoursPin node entry arriving := by
    rw [same, List.filter_filter]
    apply List.filter_congr
    intro rule _
    rw [Bool.decide_and, Bool.and_comm]
  rw [split, List.filter_map]
  cases pinned : entry.pinned with
  | none =>
      have all : candidates.filter ((fun rule => decide (rule.HonoursPin node entry arriving)) ∘
          Candidate.rule) = candidates := by
        apply List.filter_eq_self.mpr
        intro candidate _
        refine decide_eq_true fun pin found => ?_
        rw [pinned] at found
        cases found
      rw [all, keepPinned]
  | some pin =>
      rw [keepPinned]
      congr 1
      apply List.filter_congr
      intro candidate member
      rw [Function.comp_apply, Bool.eq_iff_iff, decide_eq_true_iff]
      exact kept candidate member pin pinned

end Candidates

/-! ### The decision -/

namespace Resolver

section Decision

variable {resolver : Resolver} {node : Node} {entry : Entry} {arriving : List (Option Pattern)}
  {place : Key}

/-- The advice that goes with an ambiguity. -/
def advice (pinned : Option Pattern) (category : Category) : String :=
  match pinned, category with
  | none, .exact => "Please pin the outbound message type."
  | none, .approximate =>
    "Please pin the outbound message type and if required also an approximation method."
  | some _, .exact => "Several exact rules produce the pinned type."
  | some _, .approximate =>
    "Several approximate rules produce the pinned type; please pin an approximation method."

/-- The decision between one, none and several candidates. -/
def choose (resolver : Resolver) (node : Node) (entry : Entry) (arriving : List (Option Pattern))
    (category : Category) (status : Status) (otherwise : Except Fault Entry) :
    List Candidate → Except Fault Entry
  | [candidate] => accept node entry candidate status entry.pinned
  | [] => otherwise
  | several => .error
      (resolver.ambiguity node entry several arriving (advice entry.pinned category))

/-- The decision for an entry that neither is a leaf nor has an inner schedule. -/
def decision (resolver : Resolver) (node : Node) (entry : Entry) (arriving : List (Option Pattern)) :
    Except Fault Entry :=
  match entry.pinned with
  | some pinned => resolver.validatePin node entry arriving pinned
  | none => resolver.infer node entry arriving

/-- Pinned and unpinned entries are decided alike. -/
theorem decision_eq :
    resolver.decision node entry arriving
      = (do
        let exactOnes ← resolver.matching node entry arriving .exact
        resolver.choose node entry arriving .exact .exact
          (do
            let approximateOnes ← resolver.matching node entry arriving .approximate
            resolver.choose node entry arriving .approximate .approximate
              (.error (.compile { cause := resolver.objection entry, inboundTypes := some arriving }))
              (keepPinned node entry.pinned approximateOnes))
          (keepPinned node entry.pinned exactOnes)) := by
  unfold decision
  cases pinned : entry.pinned with
  | none =>
      simp only [infer, objection, keepPinned, pinned]
      congr 1
      funext exactOnes
      rcases exactOnes with _ | ⟨first, _ | ⟨second, others⟩⟩
      · simp only [choose]
        congr 1
        funext approximateOnes
        rcases approximateOnes with _ | ⟨first, _ | ⟨second, others⟩⟩ <;>
          simp only [pinned, advice] <;> rfl
      · simp only [choose, pinned]
      · simp only [choose, pinned, advice]
        rfl
  | some pin =>
      simp only [validatePin, objection, keepPinned, pinned]
      congr 1
      funext exactOnes
      generalize exactOnes.filter (fun candidate => candidate.produces pin (some node.facts)) = kept
      rcases kept with _ | ⟨first, _ | ⟨second, others⟩⟩
      · simp only [choose]
        congr 1
        funext approximateOnes
        generalize approximateOnes.filter
          (fun candidate => candidate.produces pin (some node.facts)) = left
        rcases left with _ | ⟨first, _ | ⟨second, others⟩⟩ <;>
          simp only [pinned, advice] <;> rfl
      · simp only [choose, pinned]
      · simp only [choose, pinned, advice]
        rfl

/-- Look-up followed by the pin finds exactly the applicable rules. -/
theorem matching_applicable (entry : Entry) (coherent : resolver.catalog.Coherent)
    (concrete : ∀ type ∈ arriving, IsConcrete type) {kind : Key} (named : node.kind.key = .ok kind)
    (category : Category) :
    ∃ candidates, resolver.matching node entry arriving category = .ok candidates ∧
      (keepPinned node entry.pinned candidates).map Candidate.rule
        = resolver.catalog.applicable node entry arriving category ∧
      ∀ candidate ∈ keepPinned node entry.pinned candidates, candidate.Fits node arriving := by
  have bucketed : Bucket.of node.kind (.whole entry.socket.slot) category
      = .ok ⟨kind.normal, (Key.whole entry.socket.slot).normal, category⟩ := by
    rw [Bucket.of, named]
    rfl
  obtain ⟨candidates, found, same, fit⟩ := coherent.lookup_eq node concrete
    ⟨kind.normal, (Key.whole entry.socket.slot).normal, category⟩
    (if category = .exact then none else entry.approximation)
  have listed : ∀ candidate ∈ candidates, candidate.rule ∈ resolver.catalog.rules := by
    intro candidate member
    have kept := List.mem_map_of_mem (f := Candidate.rule) member
    rw [same] at kept
    exact (List.mem_filter.mp kept).1
  refine ⟨candidates, ?_, ?_, fun candidate member => fit candidate (mem_of_mem_keepPinned member)⟩
  · rw [matching, bucketed, Partial.ok_bind, found]
  · rw [keepPinned_rules same fit
      (fun candidate member => coherent.typed _ (listed candidate member)) concrete,
      Catalog.applicable]
    apply List.filter_congr
    intro rule _
    have offered : rule.offers (if category = .exact then none else entry.approximation) = true ↔
        (category = .approximate → rule.offers entry.approximation = true) := by
      cases category with
      | exact => simp [Rule.offers]
      | approximate => simp
    rw [decide_eq_decide, Rule.Serves, bucketed, offered]
    simp only [and_assoc]

theorem accept_takes {candidate : Candidate} (fits : candidate.Fits node arriving)
    (typed : candidate.rule.IsTyped) (concrete : ∀ type ∈ arriving, IsConcrete type)
    (honours : candidate.rule.HonoursPin node entry arriving) (status : Status) :
    Takes node entry arriving place
      ((accept node entry candidate status entry.pinned).mapError
        (Fault.addContext (some place) (some node.id))) candidate.rule status := by
  cases computed : candidate.outbound (some node.facts) with
  | ok type =>
      have produced := (fits.outbound_eq_ok_iff typed concrete).mp computed
      have pinnedTo : ∀ pin, entry.pinned = some pin → pin = .typed type := by
        intro pin pinned
        obtain ⟨other, rfl, again⟩ := honours pin pinned
        rw [fits.produces_unique typed concrete again produced]
      constructor
      · intro _
        refine ⟨type, produced, pinnedTo, ?_⟩
        unfold accept
        split
        · rename_i pin pinned
          rw [pinnedTo pin pinned]
          rfl
        · rw [computed]
          rfl
      · intro undetermined
        exact (undetermined produced.isDetermined).elim
  | error fault =>
      obtain ⟨name, member, unmentioned, unknown, same⟩ :=
        substitute_eq_error (fits.covers typed concrete).1 computed
      have undetermined : ¬ candidate.rule.IsDetermined node := by
        intro determined
        rcases determined name member with mentioned | known
        · exact unmentioned mentioned
        · rw [unknown] at known
          cases known
      have unpinned : entry.pinned = none := by
        cases pinned : entry.pinned with
        | none => rfl
        | some pin =>
            obtain ⟨type, _, produced⟩ := honours pin pinned
            rw [(fits.outbound_eq_ok_iff typed concrete).mpr produced] at computed
            cases computed
      refine ⟨fun determined => (undetermined determined).elim, fun _ => ?_⟩
      refine ⟨name, member, unmentioned, unknown, ?_⟩
      rw [unpinned, accept, computed, same]
      rfl

theorem ambiguity_lists {candidates : List Candidate}
    (fit : ∀ candidate ∈ candidates, candidate.Fits node arriving)
    (typed : ∀ candidate ∈ candidates, candidate.rule.IsTyped)
    (concrete : ∀ type ∈ arriving, IsConcrete type) (hint : String) :
    resolver.Lists node entry arriving place
      ((Except.error (resolver.ambiguity node entry candidates arriving hint)).mapError
        (Fault.addContext (some place) (some node.id)))
      (candidates.map Candidate.rule) := by
  refine ⟨_, hint, rfl, ?_⟩
  rw [List.forall₂_map_left_iff, List.forall₂_map_right_iff, List.forall₂_same]
  intro candidate member
  exact ⟨rfl, fun type produced =>
    (fit candidate member).describe_eq (typed candidate member) concrete produced⟩

/-- One stage of the decision: a single candidate is taken, several are listed, and with none the
decision is left to the next stage. -/
theorem choose_cases (coherent : resolver.catalog.Coherent)
    (concrete : ∀ type ∈ arriving, IsConcrete type) {category : Category} {status : Status}
    {otherwise : Except Fault Entry} {candidates : List Candidate}
    (same : candidates.map Candidate.rule
      = resolver.catalog.applicable node entry arriving category)
    (fit : ∀ candidate ∈ candidates, candidate.Fits node arriving) {outcome : Except Fault Entry}
    (decided : outcome
      = (resolver.choose node entry arriving category status otherwise candidates).mapError
          (Fault.addContext (some place) (some node.id))) :
    (∀ rule, resolver.catalog.applicable node entry arriving category = [rule] →
      Takes node entry arriving place outcome rule status) ∧
    (2 ≤ (resolver.catalog.applicable node entry arriving category).length →
      resolver.Lists node entry arriving place outcome
        (resolver.catalog.applicable node entry arriving category)) ∧
    (resolver.catalog.applicable node entry arriving category = [] →
      outcome = otherwise.mapError (Fault.addContext (some place) (some node.id))) := by
  have applicable : ∀ candidate ∈ candidates,
      candidate.rule ∈ resolver.catalog.applicable node entry arriving category :=
    fun candidate member => same ▸ List.mem_map_of_mem member
  have typed : ∀ candidate ∈ candidates, candidate.rule.IsTyped := fun candidate member =>
    coherent.typed _ (Catalog.mem_applicable.mp (applicable candidate member)).1
  have honours : ∀ candidate ∈ candidates, candidate.rule.HonoursPin node entry arriving :=
    fun candidate member => (Catalog.mem_applicable.mp (applicable candidate member)).2.2.2
  rw [decided, ← same]
  rcases candidates with _ | ⟨first, _ | ⟨second, others⟩⟩
  · refine ⟨fun rule impossible => (nomatch impossible), fun many => ?_, fun _ => rfl⟩
    exact absurd many (by simp)
  · refine ⟨fun rule same => ?_, fun many => ?_, fun impossible => (nomatch impossible)⟩
    · cases same
      exact accept_takes (fit first List.mem_cons_self) (typed first List.mem_cons_self) concrete
        (honours first List.mem_cons_self) status
    · exact absurd many (by simp)
  · refine ⟨fun rule impossible => (nomatch impossible), fun _ => ?_,
      fun impossible => (nomatch impossible)⟩
    exact ambiguity_lists fit typed concrete _

end Decision

/-- Selection is decided by the applicable rules, for catalogs built by any registrations. -/
theorem resolveEntryWith_selects {resolver : Resolver} {calls : List Registration}
    (built : resolver.catalog = Catalog.built calls)
    (resolveInner : LeafTypes → Schedule → Except Fault Schedule) (leafTypes : LeafTypes)
    (entry : Entry) (index : Int) (place : Key) (resolved : Int → Option Entry) {kind : Key}
    (named : (resolver.network.node entry.socket.node).kind.key = .ok kind)
    (inward : (resolver.network.node entry.socket.node).isLeaf = false)
    (plain : (resolver.network.node entry.socket.node).innerSchedule? entry.socket.slot = none)
    {arriving : List (Option Pattern)}
    (checked : resolver.arrivingTypes entry index resolved = .ok arriving)
    (concrete : ∀ type ∈ arriving, IsConcrete type) :
    resolver.Selects (resolver.network.node entry.socket.node) entry arriving place
      (resolver.resolveEntryWith resolveInner leafTypes entry index place resolved) := by
  have coherent : resolver.catalog.Coherent := built ▸ Catalog.built_coherent calls
  have decided : resolver.resolveEntryWith resolveInner leafTypes entry index place resolved
      = (resolver.decision (resolver.network.node entry.socket.node) entry arriving).mapError
        (Fault.addContext (some place) (some (resolver.network.node entry.socket.node).id)) := by
    simp only [resolveEntryWith, checked, inward, plain, Partial.ok_bind, Bool.false_eq_true, if_false]
    rfl
  rw [decision_eq] at decided
  generalize resolver.network.node entry.socket.node = node at *
  obtain ⟨exactOnes, foundExact, sameExact, fitExact⟩ :=
    matching_applicable entry coherent concrete named .exact
  obtain ⟨approximateOnes, foundApproximate, sameApproximate, fitApproximate⟩ :=
    matching_applicable entry coherent concrete named .approximate
  rw [foundExact, Partial.ok_bind, foundApproximate, Partial.ok_bind] at decided
  obtain ⟨takesExact, listsExact, without⟩ := choose_cases coherent concrete sameExact fitExact decided
  have later := fun absent => choose_cases coherent concrete sameApproximate fitApproximate
    (without absent)
  have served : ∀ {category rule}, resolver.catalog.applicable node entry arriving category = [rule] →
      rule.IsTyped ∧ rule.category = category := by
    intro category rule single
    have member : rule ∈ resolver.catalog.applicable node entry arriving category := by
      rw [single]
      exact List.mem_singleton_self rule
    obtain ⟨listed, serves, _⟩ := Catalog.mem_applicable.mp member
    exact ⟨coherent.typed rule listed, serves.category_eq named⟩
  constructor
  · intro rule single
    obtain ⟨typed, category⟩ := served single
    refine ⟨?_, takesExact rule single⟩
    have unnamed := typed.method
    rw [category] at unnamed
    simpa using unnamed
  · exact listsExact
  · intro absent rule single
    obtain ⟨typed, category⟩ := served single
    exact ⟨typed.method.mp category, (later absent).1 rule single⟩
  · intro absent
    exact (later absent).2.1
  · intro absent none
    exact (later absent).2.2 none

def probed : Network where
  nodes := #[
    { id := "p", graph := 0, kind := .text "Probe", role := .composite (some 1) [2, 3] [],
      interfaces := [{ name := "x" }, { name := "y", edge := some 0 }] },
    { id := "t", graph := 0, kind := .text "Terminal", role := .terminal,
      interfaces := [{ name := "x", edge := some 0 }] }]
  edges := #[{ id := "e", first := ⟨0, 1⟩, second := ⟨1, 0⟩, carried := .stray .absent }]

def probedEntry : Entry where
  socket := ⟨0, 0⟩
  inbounds := [some (.entry 0)]
  approximation := some (.named "VMP")

def probedTerminal : Entry where
  socket := ⟨1, 0⟩
  outbound := some (.typed ⟨"MvGaussian", [.number 3]⟩)
  status := .leaf

def probing : List Registration :=
  [{ id := "scalar", kind := "Probe", slot := .whole 0,
     inbound := [.typed ⟨"Gaussian", []⟩], outbound := .typed ⟨"Gaussian", []⟩ },
   { id := "fields", kind := "Probe", slot := .whole 0,
     inbound := [.typed ⟨"MvGaussian", [.free "K"]⟩], outbound := .typed ⟨"MvGaussian", [.free "K"]⟩,
     category := .approximate, approximation := some (.named "VMP") },
   { id := "moments", kind := "Probe", slot := .whole 0, inbound := [.any],
     outbound := .typed ⟨"Gaussian", []⟩, category := .approximate,
     approximation := some (.named "EP") }]

theorem resolveEntryWith_selects_probed :
    (probed.node 0).kind.key = .ok (.text "Probe") ∧
    Resolver.arrivingTypes ⟨probed, Catalog.built probing⟩ probedEntry 1
      (fun index => [probedTerminal][index.toNat]?)
      = .ok [some (.typed ⟨"MvGaussian", [.number 3]⟩)] ∧
    Resolver.Selects ⟨probed, Catalog.built probing⟩ (probed.node 0) probedEntry
      [some (.typed ⟨"MvGaussian", [.number 3]⟩)] (.whole 1)
      (Resolver.resolveEntryWith ⟨probed, Catalog.built probing⟩ (fun _ _ => .ok []) [] probedEntry 1
        (.whole 1) (fun index => [probedTerminal][index.toNat]?)) := by
  have concrete : ∀ type ∈ [some (Pattern.typed ⟨"MvGaussian", [.number 3]⟩)], IsConcrete type := by
    intro type member pattern found
    rw [List.mem_singleton.mp member] at found
    cases found
    exact ⟨_, rfl, rfl⟩
  have arrives : Resolver.arrivingTypes ⟨probed, Catalog.built probing⟩ probedEntry 1
      (fun index => [probedTerminal][index.toNat]?)
      = .ok [some (.typed ⟨"MvGaussian", [.number 3]⟩)] := rfl
  exact ⟨rfl, arrives,
    resolveEntryWith_selects rfl _ [] probedEntry 1 (.whole 1) _ rfl rfl rfl arrives concrete⟩

def openEnded : List Registration :=
  [{ id := "open", kind := "Probe", slot := .whole 0, inbound := [.any],
     outbound := .typed ⟨"MvGaussian", [.free "K"]⟩ }]

def openRule : Rule :=
  { id := "open", kind := .text "Probe", slot := .whole 0, inbound := [some .any],
    outbound := ⟨"MvGaussian", [.free "K"]⟩ }

/-- A single applicable rule is not enough: its outbound parameter has to have a value. -/
theorem single_rule_with_open_parameter_fails :
    (∃ rule, (Catalog.built openEnded).applicable (probed.node 0) probedEntry
      [some (.typed ⟨"MvGaussian", [.number 3]⟩)] .exact = [rule]) ∧
    (Resolver.resolve ⟨probed, Catalog.built openEnded⟩
        [("t", some (.typed ⟨"MvGaussian", [.number 3]⟩))] [{ socket := ⟨1, 0⟩ }, probedEntry]).map
      (fun _ => ())
      = .error (.compile {
          cause := .unboundParameter "K" ⟨"MvGaussian", [.free "K"]⟩
          entryIndex := some (.whole 1)
          nodeId := some "p" }) := by
  constructor
  · refine ⟨openRule, ?_⟩
    have registered : (Catalog.built openEnded).rules = [openRule] := rfl
    have applies : openRule.Applies (probed.node 0) [some (.typed ⟨"MvGaussian", [.number 3]⟩)] :=
      ⟨fun _ => 0, .cons trivial .nil, fun _ _ _ known => (nomatch known),
        fun _ _ required => nomatch required⟩
    rw [Catalog.applicable, registered, List.filter_cons_of_pos]
    · rfl
    · simp only [decide_eq_true_eq]
      exact ⟨⟨rfl, fun other => (nomatch other)⟩, applies, fun _ pinned => (nomatch pinned)⟩
  · rfl

end Resolver

end SumProduct
