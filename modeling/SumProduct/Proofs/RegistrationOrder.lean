/-
The order of registration does not decide resolution.

Catalogs with the same rules in different orders look up the same candidates in different orders.
Resolution takes a candidate only if it is the only one, so it takes the same one from either catalog; and
where it fails, it fails at the same entry for the same reason.  At most the order in which an ambiguity
lists its candidates tells the catalogs apart.
-/

import SumProduct.Proofs.Identifiers
import SumProduct.Proofs.Resolution

set_option autoImplicit false

namespace SumProduct

/-! ### Computations with the same outcome -/

namespace Partial

variable {ε α β γ δ : Type} {faults : ε → ε → Prop}

/-- Both computations succeed with related answers, or both fail with related faults. -/
inductive Alike (faults : ε → ε → Prop) (answers : α → β → Prop) : Except ε α → Except ε β → Prop
  | ok {left : α} {right : β} (related : answers left right) :
      Alike faults answers (.ok left) (.ok right)
  | error {fault other : ε} (related : faults fault other) :
      Alike faults answers (.error fault) (.error other)

theorem Alike.refl (same : ∀ fault, faults fault fault) (outcome : Except ε α) :
    Alike faults Eq outcome outcome := by
  cases outcome with
  | ok value => exact .ok rfl
  | error fault => exact .error (same fault)

theorem Alike.bind {answers : α → β → Prop} {final : γ → δ → Prop} {first : Except ε α}
    {second : Except ε β} {next : α → Except ε γ} {other : β → Except ε δ}
    (alike : Alike faults answers first second)
    (onwards : ∀ left right, answers left right → Alike faults final (next left) (other right)) :
    Alike faults final (first >>= next) (second >>= other) := by
  cases alike with
  | ok related => exact onwards _ _ related
  | error related => exact .error related

theorem Alike.mapError {answers : α → β → Prop} {first : Except ε α} {second : Except ε β} {f : ε → ε}
    (alike : Alike faults answers first second)
    (kept : ∀ fault other, faults fault other → faults (f fault) (f other)) :
    Alike faults answers (first.mapError f) (second.mapError f) := by
  cases alike with
  | ok related => exact .ok related
  | error related => exact .error (kept _ _ related)

end Partial

open Partial (bind_eq_ok bind_eq_error Alike)

/-- The causes are the same, except for the order in which an ambiguity lists the candidates. -/
inductive CompileCause.SameUpToOrder : CompileCause → CompileCause → Prop
  | same (cause : CompileCause) : SameUpToOrder cause cause
  | listed (place hint : String) {candidates others : List (String × Described)}
      (permuted : candidates.Perm others) :
      SameUpToOrder (.ambiguous place candidates hint) (.ambiguous place others hint)

theorem CompileCause.SameUpToOrder.family_eq {cause other : CompileCause}
    (alike : cause.SameUpToOrder other) : other.family = cause.family := by
  cases alike with
  | same | listed => rfl

/-- The faults are the same, except for the order in which an ambiguity lists the candidates. -/
inductive Fault.SameUpToOrder : Fault → Fault → Prop
  | same (fault : Fault) : SameUpToOrder fault fault
  | compile {cause other : CompileCause} (alike : cause.SameUpToOrder other)
      (entryIndex nodeId : Option Key) (inboundTypes : Option (List (Option Pattern))) :
      SameUpToOrder (.compile ⟨cause, entryIndex, nodeId, inboundTypes⟩)
        (.compile ⟨other, entryIndex, nodeId, inboundTypes⟩)

theorem Fault.SameUpToOrder.addContext {fault other : Fault} (alike : fault.SameUpToOrder other)
    (entryIndex nodeId : Option Key) :
    (fault.addContext entryIndex nodeId).SameUpToOrder (other.addContext entryIndex nodeId) := by
  cases alike with
  | same => exact .same _
  | compile causes => exact .compile causes _ _ _

theorem Fault.SameUpToOrder.of_compile {fault : CompileFault} {other : Fault}
    (alike : (Fault.compile fault).SameUpToOrder other) :
    ∃ found : CompileFault, other = .compile found ∧ found.cause.family = fault.cause.family ∧
      found.entryIndex = fault.entryIndex ∧ found.nodeId = fault.nodeId := by
  cases alike with
  | same => exact ⟨fault, rfl, rfl, rfl, rfl⟩
  | compile causes => exact ⟨_, rfl, causes.family_eq, rfl, rfl⟩

/-! ### Catalogs from the same registrations -/

/-- The rule that a call adds to a catalog in which its identifier is new, unless it is refused. -/
def Registration.rule? (call : Registration) : Option Rule :=
  match Catalog.check {} call.id (some call.outbound) call.category call.approximation with
  | .ok type => some (call.rule type)
  | .error _ => none

theorem Registration.id_of_rule? {call : Registration} {rule : Rule} (added : call.rule? = some rule) :
    rule.id = call.id := by
  unfold Registration.rule? at added
  split at added
  · rw [← Option.some.inj added]
    rfl
  · cases added

/-- The objections to a rule with a new identifier do not depend on the catalog. -/
theorem Catalog.check_fresh {catalog : Catalog} {id : Key}
    (fresh : ∀ rule ∈ catalog.rules, rule.id.same id = false) (outbound : Option Pattern)
    (category : Category) (approximation : Option Method) :
    catalog.check id outbound category approximation
      = Catalog.check {} id outbound category approximation := by
  have absent : catalog.contains id = false := by
    rw [Catalog.contains, Catalog.find?, List.find?_eq_none.mpr fun rule member => by
      rw [fresh rule member]
      exact Bool.false_ne_true]
    rfl
  unfold Catalog.check
  rw [absent]
  rfl

theorem Registration.apply_fresh {catalog : Catalog} {call : Registration}
    (fresh : ∀ rule ∈ catalog.rules, rule.id.same call.id = false) :
    (call.apply catalog).rules = catalog.rules ++ call.rule?.toList := by
  have checked := Catalog.check_fresh fresh (some call.outbound) call.category call.approximation
  cases accepted : catalog.check call.id (some call.outbound) call.category call.approximation with
  | error fault =>
      rw [Registration.apply, Catalog.register, Registration.rule?, ← checked, accepted]
      exact (List.append_nil catalog.rules).symm
  | ok type =>
      have added : (call.apply catalog).rules = catalog.rules ++ [call.rule type] := by
        simp only [Registration.apply, Catalog.register, accepted]
        split
        · rename_i filed filing
          obtain ⟨_, _, same⟩ := bind_eq_ok.mp filing
          rw [← Except.ok.inj same]
          rfl
        · rfl
      rw [added, Registration.rule?, ← checked, accepted]
      rfl

/-- Registrations with distinct identifiers list their rules independently of each other. -/
theorem Catalog.built_rules {calls : List Registration}
    (distinct : calls.Pairwise fun call other => call.id.same other.id = false) :
    (Catalog.built calls).rules = calls.filterMap Registration.rule? := by
  have grown : ∀ catalog : Catalog,
      (∀ rule ∈ catalog.rules, ∀ call ∈ calls, rule.id.same call.id = false) →
      (calls.foldl Registration.apply catalog).rules
        = catalog.rules ++ calls.filterMap Registration.rule? := by
    induction calls with
    | nil => exact fun catalog _ => (List.append_nil catalog.rules).symm
    | cons call rest ih =>
        intro catalog fresh
        obtain ⟨apart, distinctRest⟩ := List.pairwise_cons.mp distinct
        have listed := Registration.apply_fresh fun rule member =>
          fresh rule member call List.mem_cons_self
        rw [List.foldl_cons, ih distinctRest, listed, List.append_assoc, List.filterMap_cons]
        · cases call.rule? with
          | none => rfl
          | some rule => rfl
        · intro rule member other later
          rw [listed] at member
          rcases List.mem_append.mp member with old | new
          · exact fresh rule old other (List.mem_cons_of_mem call later)
          · rw [Registration.id_of_rule? (Option.mem_toList.mp new)]
            exact apart other later
  exact grown {} fun _ impossible => (List.not_mem_nil impossible).elim

theorem Catalog.built_rules_perm {calls others : List Registration} (permuted : calls.Perm others)
    (distinct : calls.Pairwise fun call other => call.id.same other.id = false) :
    (Catalog.built calls).rules.Perm (Catalog.built others).rules := by
  have distinctToo : others.Pairwise fun call other => call.id.same other.id = false :=
    permuted.pairwise distinct fun apart => by rwa [Key.same_comm]
  rw [Catalog.built_rules distinct, Catalog.built_rules distinctToo]
  exact permuted.filterMap _

/-! ### Looking up in another order -/

theorem comparePattern_error {pattern arriving : Option Pattern} {bindings : Bindings} {fault : Fault}
    (failed : comparePattern pattern arriving bindings = .error fault) :
    fault = .lapsed .missingAttribute := by
  unfold comparePattern at failed
  split at failed
  · unfold Pattern.compare at failed
    split at failed
    · cases failed
    · cases failed
    · cases failed
    · split at failed
      · cases failed
      · cases failed
    · exact (Except.error.inj failed).symm
  · cases failed
  · exact (Except.error.inj failed).symm

theorem unifyFrom_error {patterns arriving : List (Option Pattern)} {bindings : Bindings} {fault : Fault}
    (failed : unifyFrom patterns arriving bindings = .error fault) :
    fault = .lapsed .missingAttribute := by
  induction patterns generalizing arriving bindings with
  | nil => cases arriving <;> cases failed
  | cons pattern patterns ih =>
      cases arriving with
      | nil => cases failed
      | cons type rest =>
          rw [unifyFrom] at failed
          split at failed
          · exact ih failed
          · cases failed
          · rename_i other compared
            rw [← Except.error.inj failed]
            exact comparePattern_error compared

section Trying

variable {arriving : List (Option Pattern)} {asked : Option Method} {node : Node}

/-- Trying a typed rule fails in one way only: where a type cannot be compared with what arrives. -/
theorem Catalog.tryRule_error {rule : Rule} (typed : rule.IsTyped) {fault : Fault}
    (failed : Catalog.tryRule arriving asked (some node.facts) rule = .error fault) :
    fault = .lapsed .missingAttribute := by
  unfold Catalog.tryRule at failed
  split at failed
  · cases failed
  · rcases bind_eq_error.mp failed with unmatched | ⟨found, _, failed⟩
    · unfold unify at unmatched
      split at unmatched
      · exact unifyFrom_error unmatched
      · cases unmatched
    · cases found with
      | none => cases failed
      | some bindings =>
          simp only [agreesWithNode_eq bindings node typed.requirements, Partial.ok_bind] at failed
          cases failed

/-- The candidate that a rule yields, if trying it does not fail. -/
def Catalog.candidate? (arriving : List (Option Pattern)) (asked : Option Method) (node : Node)
    (rule : Rule) : Option Candidate :=
  (Catalog.tryRule arriving asked (some node.facts) rule).toOption.join

theorem Catalog.tryRules_of_ok {rules : List Rule}
    (succeeds : ∀ rule ∈ rules, ∃ found,
      Catalog.tryRule arriving asked (some node.facts) rule = .ok found) :
    Catalog.tryRules arriving asked (some node.facts) rules
      = .ok (rules.filterMap (Catalog.candidate? arriving asked node)) := by
  apply Catalog.tryRules_eq_filterMap
  intro rule member
  obtain ⟨found, tried⟩ := succeeds rule member
  rw [Catalog.candidate?, tried]
  rfl

theorem Catalog.tryRules_of_error {rules : List Rule} (typed : ∀ rule ∈ rules, rule.IsTyped)
    (fails : ∃ rule ∈ rules, ∃ fault,
      Catalog.tryRule arriving asked (some node.facts) rule = .error fault) :
    Catalog.tryRules arriving asked (some node.facts) rules = .error (.lapsed .missingAttribute) := by
  induction rules with
  | nil =>
      obtain ⟨_, impossible, _⟩ := fails
      exact (List.not_mem_nil impossible).elim
  | cons rule rest ih =>
      rw [Catalog.tryRules]
      cases tried : Catalog.tryRule arriving asked (some node.facts) rule with
      | error fault =>
          rw [Catalog.tryRule_error (typed rule List.mem_cons_self) tried]
          rfl
      | ok found =>
          obtain ⟨other, member, fault, failed⟩ := fails
          rcases List.mem_cons.mp member with rfl | later
          · cases tried.symm.trans failed
          · rw [ih (fun other member => typed other (List.mem_cons_of_mem rule member))
              ⟨other, later, fault, failed⟩]
            rfl

/-- The same rules in another order yield the same candidates in another order, or fail alike. -/
theorem Catalog.tryRules_perm {rules others : List Rule} (permuted : rules.Perm others)
    (typed : ∀ rule ∈ rules, rule.IsTyped) :
    Alike Fault.SameUpToOrder List.Perm (Catalog.tryRules arriving asked (some node.facts) rules)
      (Catalog.tryRules arriving asked (some node.facts) others) := by
  by_cases fails : ∃ rule ∈ rules, ∃ fault,
      Catalog.tryRule arriving asked (some node.facts) rule = .error fault
  · have failsToo : ∃ rule ∈ others, ∃ fault,
        Catalog.tryRule arriving asked (some node.facts) rule = .error fault := by
      obtain ⟨rule, member, failed⟩ := fails
      exact ⟨rule, permuted.mem_iff.mp member, failed⟩
    rw [Catalog.tryRules_of_error typed fails,
      Catalog.tryRules_of_error (fun rule member => typed rule (permuted.mem_iff.mpr member)) failsToo]
    exact .error (.same _)
  · have succeeds : ∀ rule ∈ rules, ∃ found,
        Catalog.tryRule arriving asked (some node.facts) rule = .ok found := by
      intro rule member
      cases tried : Catalog.tryRule arriving asked (some node.facts) rule with
      | ok found => exact ⟨found, rfl⟩
      | error fault => exact (fails ⟨rule, member, fault, tried⟩).elim
    rw [Catalog.tryRules_of_ok succeeds,
      Catalog.tryRules_of_ok fun rule member => succeeds rule (permuted.mem_iff.mpr member)]
    exact .ok (permuted.filterMap _)

end Trying

theorem keepPinned_perm {node : Node} (pinned : Option Pattern) {candidates others : List Candidate}
    (permuted : candidates.Perm others) :
    (keepPinned node pinned candidates).Perm (keepPinned node pinned others) := by
  cases pinned with
  | none => exact permuted
  | some pin => exact permuted.filter _

/-! ### Resolution with the same rules in another order -/

/-- The same rules, filed by bucket, in orders that may differ. -/
structure Catalog.SameRules (catalog other : Catalog) : Prop where
  coherent : catalog.Coherent
  coherentOther : other.Coherent
  rules : catalog.rules.Perm other.rules

namespace Resolver

variable {network : Network} {catalog other : Catalog}

theorem matching_perm (same : catalog.SameRules other) (node : Node) (entry : Entry)
    (arriving : List (Option Pattern)) (category : Category) :
    Alike Fault.SameUpToOrder List.Perm
      (Resolver.matching ⟨network, catalog⟩ node entry arriving category)
      (Resolver.matching ⟨network, other⟩ node entry arriving category) := by
  refine (Alike.refl Fault.SameUpToOrder.same _).bind ?_
  rintro bucket _ rfl
  have filed : (catalog.bucketRules bucket).Perm (other.bucketRules bucket) := by
    rw [same.coherent.filed, same.coherentOther.filed]
    exact same.rules.filter _
  refine Catalog.tryRules_perm filed fun rule member => ?_
  rw [same.coherent.filed] at member
  exact same.coherent.typed rule (List.mem_filter.mp member).1

/-- Whether there is one candidate, and which one it is, does not depend on their order. -/
theorem choose_perm {node : Node} {entry : Entry} {arriving : List (Option Pattern)}
    {category : Category} {status : Status} {otherwise otherwiseToo : Except Fault Entry}
    (later : Alike Fault.SameUpToOrder Eq otherwise otherwiseToo)
    {candidates others : List Candidate} (permuted : candidates.Perm others) :
    Alike Fault.SameUpToOrder Eq
      (Resolver.choose ⟨network, catalog⟩ node entry arriving category status otherwise candidates)
      (Resolver.choose ⟨network, other⟩ node entry arriving category status otherwiseToo others) := by
  rcases candidates with _ | ⟨first, _ | ⟨second, rest⟩⟩
  · rw [List.nil_perm.mp permuted]
    exact later
  · cases List.singleton_perm.mp permuted
    exact .refl Fault.SameUpToOrder.same (accept node entry first status entry.pinned)
  · have several := permuted.length_eq
    rcases others with _ | ⟨head, _ | ⟨next, tail⟩⟩
    · cases several
    · cases several
    · exact .error (.compile (.listed _ _ (permuted.map _)) none none (some arriving))

theorem decision_perm (same : catalog.SameRules other) (node : Node) (entry : Entry)
    (arriving : List (Option Pattern)) :
    Alike Fault.SameUpToOrder Eq (Resolver.decision ⟨network, catalog⟩ node entry arriving)
      (Resolver.decision ⟨network, other⟩ node entry arriving) := by
  rw [decision_eq, decision_eq]
  refine (matching_perm same node entry arriving .exact).bind fun exactOnes exactOthers permuted => ?_
  refine choose_perm ?_ (keepPinned_perm entry.pinned permuted)
  refine (matching_perm same node entry arriving .approximate).bind
    fun approximateOnes approximateOthers permuted => ?_
  exact choose_perm (.error (.same _)) (keepPinned_perm entry.pinned permuted)

section Inner

variable {resolveInner resolveInnerToo : LeafTypes → Schedule → Except Fault Schedule}

theorem resolveEntryWith_perm (network : Network) (same : catalog.SameRules other)
    (inwards : ∀ types schedule,
      Alike Fault.SameUpToOrder Eq (resolveInner types schedule) (resolveInnerToo types schedule))
    (leafTypes : LeafTypes) (entry : Entry) (index : Int) (place : Key) (known : Int → Option Entry) :
    Alike Fault.SameUpToOrder Eq
      (Resolver.resolveEntryWith ⟨network, catalog⟩ resolveInner leafTypes entry index place known)
      (Resolver.resolveEntryWith ⟨network, other⟩ resolveInnerToo leafTypes entry index place known) := by
  rw [resolveEntryWith_eq, resolveEntryWith_eq]
  refine Alike.mapError ?_ fun fault found alike => alike.addContext _ _
  refine (Alike.refl Fault.SameUpToOrder.same _).bind ?_
  rintro arriving _ rfl
  unfold resolveArriving
  simp only
  split
  · exact .refl Fault.SameUpToOrder.same _
  · split
    · refine (inwards _ _).bind ?_
      rintro inner _ rfl
      exact .refl Fault.SameUpToOrder.same _
    · exact decision_perm same _ entry arriving

theorem resolvePrefixWith_perm (network : Network) (same : catalog.SameRules other)
    (inwards : ∀ types schedule,
      Alike Fault.SameUpToOrder Eq (resolveInner types schedule) (resolveInnerToo types schedule))
    (leafTypes : LeafTypes) (done rest : Schedule) :
    (Resolver.resolvePrefixWith ⟨network, catalog⟩ resolveInner leafTypes done rest).1
        = (Resolver.resolvePrefixWith ⟨network, other⟩ resolveInnerToo leafTypes done rest).1 ∧
      Option.Rel Fault.SameUpToOrder
        (Resolver.resolvePrefixWith ⟨network, catalog⟩ resolveInner leafTypes done rest).2
        (Resolver.resolvePrefixWith ⟨network, other⟩ resolveInnerToo leafTypes done rest).2 := by
  induction rest generalizing done with
  | nil => exact ⟨rfl, .none⟩
  | cons entry rest ih =>
      have here := resolveEntryWith_perm network same inwards leafTypes entry done.length
        (.whole done.length) fun index => if 0 ≤ index then done[index.toNat]? else none
      rw [resolvePrefixWith, resolvePrefixWith]
      generalize Resolver.resolveEntryWith ⟨network, catalog⟩ resolveInner leafTypes entry _ _ _ = first
        at here ⊢
      generalize Resolver.resolveEntryWith ⟨network, other⟩ resolveInnerToo leafTypes entry _ _ _ = second
        at here ⊢
      cases here with
      | error alike => exact ⟨rfl, .some alike⟩
      | ok equal =>
          cases equal
          exact ih _

end Inner

theorem resolveAtDepth_alike (network : Network) (same : catalog.SameRules other) (depth : Nat)
    (leafTypes : LeafTypes) (schedule : Schedule) :
    Alike Fault.SameUpToOrder Eq
      (Resolver.resolveAtDepth ⟨network, catalog⟩ depth leafTypes schedule)
      (Resolver.resolveAtDepth ⟨network, other⟩ depth leafTypes schedule) := by
  induction depth generalizing leafTypes schedule with
  | zero => exact .error (.same _)
  | succ depth ih =>
      obtain ⟨resolved, outcome⟩ := resolvePrefixWith_perm network same ih leafTypes [] schedule
      rw [resolveAtDepth, resolveAtDepth]
      generalize Resolver.resolvePrefixWith ⟨network, catalog⟩ _ leafTypes [] schedule = first
        at resolved outcome ⊢
      generalize Resolver.resolvePrefixWith ⟨network, other⟩ _ leafTypes [] schedule = second
        at resolved outcome ⊢
      obtain ⟨results, fault⟩ := first
      obtain ⟨resultsToo, faultToo⟩ := second
      cases outcome with
      | none => exact .ok resolved
      | some alike => exact .error alike

/-- Registrations with distinct identifiers can be made in any order.  Resolution returns the same schedule
after each order, and where it fails to compile, it fails at the same entry and node in the same way. -/
theorem resolveAtDepth_registrationOrder {calls others : List Registration}
    (permuted : calls.Perm others)
    (distinct : calls.Pairwise fun call other => call.id.same other.id = false) (network : Network)
    (depth : Nat) (leafTypes : LeafTypes) (schedule : Schedule) :
    (∀ resolved, resolveAtDepth ⟨network, Catalog.built calls⟩ depth leafTypes schedule = .ok resolved ↔
      resolveAtDepth ⟨network, Catalog.built others⟩ depth leafTypes schedule = .ok resolved) ∧
    ∀ fault, resolveAtDepth ⟨network, Catalog.built calls⟩ depth leafTypes schedule
        = .error (.compile fault) →
      ∃ found, resolveAtDepth ⟨network, Catalog.built others⟩ depth leafTypes schedule
          = .error (.compile found) ∧
        found.cause.family = fault.cause.family ∧ found.entryIndex = fault.entryIndex ∧
        found.nodeId = fault.nodeId := by
  have alike := resolveAtDepth_alike network
    ⟨Catalog.built_coherent calls, Catalog.built_coherent others, Catalog.built_rules_perm permuted distinct⟩
    depth leafTypes schedule
  generalize resolveAtDepth ⟨network, Catalog.built calls⟩ depth leafTypes schedule = first at alike ⊢
  generalize resolveAtDepth ⟨network, Catalog.built others⟩ depth leafTypes schedule = second at alike ⊢
  cases alike with
  | ok equal =>
      cases equal
      refine ⟨fun _ => Iff.rfl, ?_⟩
      intro fault impossible
      cases impossible
  | error same =>
      constructor
      · intro resolved
        constructor
        · intro impossible
          cases impossible
        · intro impossible
          cases impossible
      · intro fault failed
        cases failed
        obtain ⟨found, rfl, facts⟩ := same.of_compile
        exact ⟨found, rfl, facts⟩

/-- Asking for a method decides between two approximate rules; without that they are ambiguous. -/
theorem resolveAtDepth_registrationOrder_probing :
    (∃ resolved, resolveAtDepth ⟨probed, Catalog.built probing⟩ 1
        [("t", some (.typed ⟨"MvGaussian", [.number 3]⟩))] [{ socket := ⟨1, 0⟩ }, probedEntry]
        = .ok resolved ∧
      resolveAtDepth ⟨probed, Catalog.built probing.reverse⟩ 1
        [("t", some (.typed ⟨"MvGaussian", [.number 3]⟩))] [{ socket := ⟨1, 0⟩ }, probedEntry]
        = .ok resolved) ∧
    ∃ fault, resolveAtDepth ⟨probed, Catalog.built probing.reverse⟩ 1
        [("t", some (.typed ⟨"MvGaussian", [.number 3]⟩))]
        [{ socket := ⟨1, 0⟩ }, { probedEntry with approximation := none }] = .error (.compile fault) ∧
      fault.cause.family = .ambiguousRule ∧ fault.entryIndex = some (.whole 1) ∧
      fault.nodeId = some "p" := by
  have permuted : probing.Perm probing.reverse := (List.reverse_perm probing).symm
  have distinct : probing.Pairwise fun call other => call.id.same other.id = false := by decide
  have accepted : ∃ resolved, resolveAtDepth ⟨probed, Catalog.built probing⟩ 1
      [("t", some (.typed ⟨"MvGaussian", [.number 3]⟩))] [{ socket := ⟨1, 0⟩ }, probedEntry]
      = .ok resolved := ⟨_, rfl⟩
  have refused : ∃ fault, resolveAtDepth ⟨probed, Catalog.built probing⟩ 1
      [("t", some (.typed ⟨"MvGaussian", [.number 3]⟩))]
      [{ socket := ⟨1, 0⟩ }, { probedEntry with approximation := none }] = .error (.compile fault) ∧
      fault.cause.family = .ambiguousRule ∧ fault.entryIndex = some (.whole 1) ∧
      fault.nodeId = some "p" := ⟨_, rfl, rfl, rfl, rfl⟩
  obtain ⟨resolved, accepting⟩ := accepted
  obtain ⟨fault, failing, family, entryIndex, nodeId⟩ := refused
  constructor
  · exact ⟨resolved, accepting,
      ((resolveAtDepth_registrationOrder permuted distinct probed 1 _ _).1 resolved).mp accepting⟩
  · obtain ⟨found, failed, sameFamily, sameIndex, sameNode⟩ :=
      (resolveAtDepth_registrationOrder permuted distinct probed 1 _ _).2 fault failing
    exact ⟨found, failed, sameFamily.trans family, sameIndex.trans entryIndex, sameNode.trans nodeId⟩

end Resolver

end SumProduct
