/-
Catalogs that are built by registration, and what look-up finds in them.

A catalog keeps its rules twice: in order of registration, and filed by bucket.  Registration keeps
the two in step, so look-up in a bucket returns the applicable rules of that bucket in the order in
which they were registered.  A refused registration changes nothing.
-/

import SumProduct.Proofs.Applicability
import SumProduct.Proofs.Association

set_option autoImplicit false

namespace SumProduct

open Partial (bind_eq_ok)

theorem Key.key_toValue (key : Key) : key.toValue.key = .ok key := by
  cases key <;> rfl

/-! ### Trying rules -/

section Trying

variable {rule : Rule} {node : Node} {arriving : List (Option Pattern)} {asked : Option Method}

/-- The candidate is the rule with the bindings of a match that agrees with the node. -/
structure Candidate.Fits (candidate : Candidate) (node : Node) (arriving : List (Option Pattern)) :
    Prop where
  matched : unify candidate.rule.inbound arriving = .ok (some candidate.bindings)
  agrees : agreesWithNode candidate.bindings candidate.rule.requirements node.facts = .ok true

theorem Candidate.Fits.covers {candidate : Candidate} (fits : candidate.Fits node arriving)
    (typed : candidate.rule.IsTyped) (concrete : ∀ type ∈ arriving, IsConcrete type) :
    Bindings.Extends [] candidate.bindings (MentionedIn candidate.rule.patterns) ∧
      ∀ assignment, candidate.bindings.AgreesWith assignment →
        candidate.rule.AppliesUnder node arriving assignment := by
  have matched := fits.matched
  rw [typed.inbound] at matched
  obtain ⟨covers, accepts⟩ := unify_sound concrete matched
  obtain ⟨admitted, met⟩ := (agreesWithNode_iff typed.requirements).mp fits.agrees
  refine ⟨covers, fun assignment agrees => ⟨accepts assignment agrees, ?_, met⟩⟩
  intro name mentioned own known
  obtain ⟨value, found⟩ := Option.isSome_iff_exists.mp ((covers.bound name).mpr (Or.inr mentioned))
  have assigned := agrees name value found
  have stated := admitted name value (Bindings.mem_of_lookup found) own known
  rw [assigned] at stated
  exact (Param.number.inj stated).symm

theorem Candidate.Fits.agreesWith {candidate : Candidate} (fits : candidate.Fits node arriving)
    (typed : candidate.rule.IsTyped) {assignment : Assignment}
    (applies : candidate.rule.AppliesUnder node arriving assignment) :
    candidate.bindings.AgreesWith assignment := by
  obtain ⟨bindings, matched, agrees⟩ := unify_complete applies.accepts
  rw [← typed.inbound, fits.matched] at matched
  cases matched
  exact agrees

theorem Candidate.Fits.applies {candidate : Candidate} (fits : candidate.Fits node arriving)
    (typed : candidate.rule.IsTyped) (concrete : ∀ type ∈ arriving, IsConcrete type) :
    candidate.rule.Applies node arriving := by
  obtain ⟨covers, applies⟩ := fits.covers typed concrete
  exact ⟨_, applies _ covers.proper.agreesWith_assignment⟩

theorem Candidate.Fits.outbound_eq_ok_iff {candidate : Candidate} (fits : candidate.Fits node arriving)
    (typed : candidate.rule.IsTyped) (concrete : ∀ type ∈ arriving, IsConcrete type)
    {type : MessageType} :
    candidate.outbound (some node.facts) = .ok type ↔ candidate.rule.Produces node arriving type := by
  obtain ⟨covers, applies⟩ := fits.covers typed concrete
  constructor
  · intro computed
    have agrees := covers.proper.agreesWith_assignment
    exact ⟨_, applies _ agrees, (substitute_eq_ok_iff covers agrees).mp computed⟩
  · rintro ⟨assignment, under, yields⟩
    exact (substitute_eq_ok_iff covers (fits.agreesWith typed under)).mpr yields

/-- A rule that offers what is asked is tried with success exactly when it applies. -/
theorem Catalog.tryRule_eq (node : Node) (asked : Option Method) (typed : rule.IsTyped)
    (concrete : ∀ type ∈ arriving, IsConcrete type) :
    ∃ found, Catalog.tryRule arriving asked (some node.facts) rule = .ok found ∧
      (found.isSome ↔ rule.offers asked = true ∧ rule.Applies node arriving) ∧
      ∀ candidate, found = some candidate → candidate.rule = rule ∧ candidate.Fits node arriving := by
  rw [Catalog.tryRule]
  cases offered : rule.offers asked with
  | false => exact ⟨none, rfl, by simp, fun _ impossible => by cases impossible⟩
  | true =>
      obtain ⟨answer, matched⟩ := unify_total rule.patterns concrete
      rw [← typed.inbound] at matched
      rw [matched]
      simp only [Bool.not_true, Bool.false_eq_true, if_false, Partial.ok_bind, true_and]
      cases answer with
      | none =>
          refine ⟨none, rfl, ?_, fun _ impossible => by cases impossible⟩
          constructor
          · intro impossible
            cases impossible
          · rintro ⟨assignment, applies⟩
            obtain ⟨bindings, found, _⟩ := unify_complete applies.accepts
            rw [← typed.inbound, matched] at found
            cases found
      | some bindings =>
          have decided := agreesWithNode_eq bindings node typed.requirements
          cases agreed : bindings.all node.admits &&
              rule.requirements.all (Requirement.isMet node) with
          | false =>
              rw [agreed] at decided
              refine ⟨none, by simp [decided], ?_, fun _ impossible => by cases impossible⟩
              constructor
              · intro impossible
                cases impossible
              · rintro ⟨assignment, applies⟩
                obtain ⟨found, again, agrees⟩ := unify_complete applies.accepts
                rw [← typed.inbound, matched] at again
                cases again
                obtain ⟨covers, _⟩ := unify_sound concrete (typed.inbound ▸ matched)
                have accepted : agreesWithNode bindings rule.requirements node.facts = .ok true := by
                  refine (agreesWithNode_iff typed.requirements).mpr ⟨?_, applies.meets⟩
                  intro name value member own known
                  have bound := covers.proper.single name value member
                  have mentioned : MentionedIn rule.patterns name := by
                    have somewhere := (covers.bound name).mp (by rw [bound]; rfl)
                    simpa using somewhere
                  rw [agrees name value bound, applies.agrees name mentioned own known]
                rw [decided] at accepted
                cases accepted
          | true =>
              rw [agreed] at decided
              have fits : Candidate.Fits ⟨rule, bindings⟩ node arriving := ⟨matched, decided⟩
              refine ⟨some ⟨rule, bindings⟩, by simp [decided], ?_, ?_⟩
              · exact ⟨fun _ => fits.applies typed concrete, fun _ => rfl⟩
              · rintro candidate ⟨⟩
                exact ⟨rfl, fits⟩

/-- Trying rules one after the other collects what trying each of them finds. -/
theorem Catalog.tryRules_eq_filterMap {facts : Option NodeFacts} {rules : List Rule}
    {found : Rule → Option Candidate}
    (tried : ∀ rule ∈ rules, Catalog.tryRule arriving asked facts rule = .ok (found rule)) :
    Catalog.tryRules arriving asked facts rules = .ok (rules.filterMap found) := by
  induction rules with
  | nil => rfl
  | cons rule rest ih =>
      rw [Catalog.tryRules, tried rule List.mem_cons_self, Partial.ok_bind,
        ih fun other member => tried other (List.mem_cons_of_mem rule member), Partial.ok_bind,
        List.filterMap_cons]
      cases found rule with
      | none => rfl
      | some candidate => rfl

open Classical in
/-- Trying rules one after the other finds the applicable ones in their order. -/
theorem Catalog.tryRules_eq (node : Node) (asked : Option Method) {rules : List Rule}
    (typed : ∀ rule ∈ rules, rule.IsTyped)
    (concrete : ∀ type ∈ arriving, IsConcrete type) :
    ∃ candidates, Catalog.tryRules arriving asked (some node.facts) rules = .ok candidates ∧
      candidates.map Candidate.rule
        = rules.filter (fun rule => rule.offers asked = true ∧ rule.Applies node arriving) ∧
      ∀ candidate ∈ candidates, candidate.Fits node arriving := by
  induction rules with
  | nil => exact ⟨[], rfl, rfl, fun _ member => (List.not_mem_nil member).elim⟩
  | cons rule rest ih =>
      obtain ⟨others, triedRest, sameRest, fitRest⟩ :=
        ih fun other member => typed other (List.mem_cons_of_mem rule member)
      obtain ⟨found, tried, present, fit⟩ :=
        tryRule_eq node asked (typed rule List.mem_cons_self) concrete
      refine ⟨found.toList ++ others, ?_, ?_, ?_⟩
      · simp only [Catalog.tryRules, tried, triedRest, Partial.ok_bind, Partial.pure_eq_ok]
      · rw [List.map_append, sameRest, List.filter_cons]
        cases found with
        | none =>
            have inapplicable : ¬ (rule.offers asked = true ∧ rule.Applies node arriving) :=
              fun applicable => by cases present.mpr applicable
            rw [if_neg (by simpa using inapplicable)]
            rfl
        | some candidate =>
            have applicable := present.mp rfl
            rw [if_pos (by simpa using applicable), ← (fit candidate rfl).1]
            rfl
      · intro candidate member
        rcases List.mem_append.mp member with here | later
        · exact (fit candidate (Option.mem_toList.mp here)).2
        · exact fitRest candidate later

end Trying

/-! ### Registration -/

/-- A call that registers a rule. -/
structure Registration where
  id : Key
  kind : Key
  slot : Key
  inbound : List Pattern
  outbound : Pattern
  category : Category := .exact
  approximation : Option Method := none
  requires : List (String × Int) := []

/-- The rule that the call asks for. -/
def Registration.rule (call : Registration) (outbound : MessageType) : Rule :=
  ⟨call.id, call.kind.toValue, call.slot.toValue, call.inbound.map some, outbound, call.category,
    call.approximation, call.requires.map fun pair => .parameter pair.1 pair.2⟩

/-- The answer to the call, and the catalog after it. -/
def Registration.registered (catalog : Catalog) (call : Registration) : Except Fault Rule × Catalog :=
  catalog.register call.id call.kind.toValue call.slot.toValue (call.inbound.map some)
    (some call.outbound) call.category call.approximation
    (call.requires.map fun pair => .parameter pair.1 pair.2)

/-- The catalog after the call, whether or not it was refused. -/
def Registration.apply (catalog : Catalog) (call : Registration) : Catalog :=
  (catalog.register call.id call.kind.toValue call.slot.toValue (call.inbound.map some)
    (some call.outbound) call.category call.approximation
    (call.requires.map fun pair => .parameter pair.1 pair.2)).2

def Catalog.built (calls : List Registration) : Catalog := calls.foldl Registration.apply {}

/-- The rules are typed, and every bucket holds its rules in order of registration. -/
structure Catalog.Coherent (catalog : Catalog) : Prop where
  typed : ∀ rule ∈ catalog.rules, rule.IsTyped
  filed : ∀ bucket,
    catalog.bucketRules bucket = catalog.rules.filter fun rule => decide (rule.bucket = .ok bucket)

theorem Registration.bucket_rule (call : Registration) (type : MessageType) :
    (call.rule type).bucket = .ok ⟨call.kind.normal, call.slot.normal, call.category⟩ := by
  simp only [Rule.bucket, Registration.rule, Bucket.of, Key.key_toValue, Partial.ok_bind,
    Partial.pure_eq_ok]

/-- What registration answers and does: nothing changes if it is refused, and otherwise there is one
more rule, filed where it belongs. -/
theorem Registration.registered_cases (catalog : Catalog) (call : Registration) :
    (∃ fault, catalog.check call.id (some call.outbound) call.category call.approximation = .error fault ∧
        call.registered catalog = (.error fault, catalog)) ∨
      ∃ type bucket, catalog.check call.id (some call.outbound) call.category call.approximation = .ok type ∧
        (call.rule type).bucket = .ok bucket ∧
        call.registered catalog = (.ok (call.rule type), ⟨catalog.rules ++ [call.rule type],
          Association.set bucket (catalog.bucketRules bucket ++ [call.rule type]) catalog.filed⟩) := by
  cases checked : catalog.check call.id (some call.outbound) call.category call.approximation with
  | error fault =>
      refine Or.inl ⟨fault, rfl, ?_⟩
      simp only [Registration.registered, Catalog.register, checked]
  | ok type =>
      refine Or.inr ⟨type, ⟨call.kind.normal, call.slot.normal, call.category⟩, rfl, ?_⟩
      have bucketed := call.bucket_rule type
      refine ⟨bucketed, ?_⟩
      rw [Registration.rule] at bucketed
      simp only [Registration.registered, Registration.rule, Catalog.register, checked, Catalog.file,
        bucketed, Partial.ok_bind, Partial.pure_eq_ok]
      rfl

theorem Registration.apply_cases (catalog : Catalog) (call : Registration) :
    call.apply catalog = catalog ∨
      ∃ type bucket, catalog.check call.id (some call.outbound) call.category call.approximation = .ok type ∧
        (call.rule type).bucket = .ok bucket ∧
        call.apply catalog = ⟨catalog.rules ++ [call.rule type],
          Association.set bucket (catalog.bucketRules bucket ++ [call.rule type]) catalog.filed⟩ := by
  have applied : call.apply catalog = (call.registered catalog).2 := rfl
  rcases call.registered_cases catalog with ⟨fault, _, refused⟩ | ⟨type, bucket, checked, here, done⟩
  · rw [refused] at applied
    exact Or.inl applied
  · rw [done] at applied
    exact Or.inr ⟨type, bucket, checked, here, applied⟩

theorem Catalog.contains_eq_false_iff {catalog : Catalog} {id : Key} :
    catalog.contains id = false ↔ ∀ rule ∈ catalog.rules, rule.id.same id = false := by
  rw [Catalog.contains, Option.isSome_eq_false_iff, Option.isNone_iff_eq_none, Catalog.find?,
    List.find?_eq_none]
  simp only [Bool.not_eq_true]

theorem Category.names_method_iff (category : Category) (approximation : Option Method) :
    (category = .approximate ↔ approximation.isSome) ↔
      ¬ (category = .approximate ∧ approximation.isNone) ∧
        ¬ (category = .exact ∧ approximation.isSome) := by
  cases category with
  | exact =>
      cases approximation with
      | none => simp
      | some method => simp
  | approximate =>
      cases approximation with
      | none => simp
      | some method => simp

/-- A rule passes the check if its name is new, if it names a method just when it is approximate, and
if what it sends is a message type. -/
theorem Catalog.check_eq_ok_iff {catalog : Catalog} {id : Key} {outbound : Option Pattern}
    {category : Category} {approximation : Option Method} {type : MessageType} :
    catalog.check id outbound category approximation = .ok type ↔
      (∀ rule ∈ catalog.rules, rule.id.same id = false) ∧
        (category = .approximate ↔ approximation.isSome) ∧ outbound = some (.typed type) := by
  rw [← Catalog.contains_eq_false_iff, Category.names_method_iff]
  constructor
  · intro checked
    unfold Catalog.check at checked
    split at checked
    · cases checked
    · rename_i unused
      split at checked
      · cases checked
      · rename_i named
        split at checked
        · cases checked
        · rename_i unnamed
          split at checked
          · cases checked
            exact ⟨Bool.eq_false_iff.mpr unused, ⟨named, unnamed⟩, rfl⟩
          · cases checked
  · rintro ⟨unused, ⟨named, unnamed⟩, rfl⟩
    unfold Catalog.check
    rw [if_neg (Bool.eq_false_iff.mp unused), if_neg named, if_neg unnamed]

theorem Registration.patterns_eq (call : Registration) (type : MessageType) :
    (call.rule type).patterns = call.inbound := by
  change (call.inbound.map some).filterMap (fun pattern => pattern) = call.inbound
  rw [List.filterMap_map]
  exact List.filterMap_some

theorem Registration.rule_isTyped {call : Registration} {type : MessageType}
    (method : call.category = .approximate ↔ call.approximation.isSome) :
    (call.rule type).IsTyped := by
  refine ⟨?_, ?_, method⟩
  · rw [call.patterns_eq]
    rfl
  · intro requirement stated
    obtain ⟨pair, _, rfl⟩ := List.mem_map.mp stated
    exact ⟨pair.1, pair.2, rfl⟩

theorem Catalog.Coherent.apply {catalog : Catalog} (coherent : catalog.Coherent)
    (call : Registration) : (call.apply catalog).Coherent := by
  rcases call.apply_cases catalog with same | ⟨type, bucket, checked, here, result⟩
  · rw [same]
    exact coherent
  · rw [result]
    constructor
    · intro rule member
      rcases List.mem_append.mp member with old | new
      · exact coherent.typed rule old
      · rw [List.mem_singleton.mp new]
        exact Registration.rule_isTyped (Catalog.check_eq_ok_iff.mp checked).2.1
    · intro other
      rw [Catalog.bucketRules, Association.lookup_set, List.filter_append, List.filter_singleton]
      by_cases same : other = bucket
      · subst same
        rw [if_pos rfl, Option.getD_some, coherent.filed, decide_eq_true here]
        rfl
      · have different : decide (Except.ok bucket = (Except.ok other : Except Fault Bucket)) = false :=
          decide_eq_false fun equal => same (Except.ok.inj equal).symm
        rw [if_neg same, here, different, ← coherent.filed]
        simp [Catalog.bucketRules]

theorem Catalog.built_coherent (calls : List Registration) : (Catalog.built calls).Coherent := by
  have empty : Catalog.Coherent {} := ⟨fun _ member => (List.not_mem_nil member).elim, fun _ => rfl⟩
  exact List.foldlRecOn calls Registration.apply empty fun _ coherent call _ => coherent.apply call

open Classical in
/-- Look-up scans the rules in order of registration. -/
theorem Catalog.Coherent.lookup_eq {catalog : Catalog} (coherent : catalog.Coherent) (node : Node)
    {arriving : List (Option Pattern)} (concrete : ∀ type ∈ arriving, IsConcrete type)
    (bucket : Bucket) (asked : Option Method) :
    ∃ candidates, catalog.lookup bucket arriving asked (some node.facts) = .ok candidates ∧
      candidates.map Candidate.rule = catalog.rules.filter (fun rule =>
        rule.bucket = .ok bucket ∧ rule.offers asked = true ∧ rule.Applies node arriving) ∧
      ∀ candidate ∈ candidates, candidate.Fits node arriving := by
  have typed : ∀ rule ∈ catalog.bucketRules bucket, rule.IsTyped := by
    intro rule member
    rw [coherent.filed] at member
    exact coherent.typed rule (List.mem_filter.mp member).1
  obtain ⟨candidates, found, same, fit⟩ :=
    Catalog.tryRules_eq node asked typed concrete
  refine ⟨candidates, found, ?_, fit⟩
  rw [same, coherent.filed, List.filter_filter]
  apply List.filter_congr
  intro rule _
  simp only [Bool.decide_and, Bool.and_comm]

end SumProduct
