/-
When a rule applies at a node.

A rule applies if some assignment makes its patterns accept what arrives, agrees with every parameter
that the node knows by itself, and the node meets the requirements of the rule.  Trying a rule finds
this out, and the outbound type it computes is the one that such an assignment yields.
-/

import SumProduct.Proofs.Matching
import SumProduct.Rules.Catalog

set_option autoImplicit false

namespace SumProduct

open Partial (bind_eq_ok map_eq_ok mapM_eq_ok mapM_congr)

namespace Rule

/-- The patterns of a rule, without those that were left out. -/
def patterns (rule : Rule) : List Pattern := rule.inbound.reduceOption

/-- No pattern is left out, requirements are about parameters, and exactly the approximate rules name
a method. -/
structure IsTyped (rule : Rule) : Prop where
  inbound : rule.inbound = rule.patterns.map some
  requirements : ∀ requirement ∈ rule.requirements,
    ∃ name value, requirement = .parameter name value
  method : rule.category = .approximate ↔ rule.approximation.isSome

/-- The rule applies with the given values of its parameters. -/
structure AppliesUnder (rule : Rule) (node : Node) (arriving : List (Option Pattern))
    (assignment : Assignment) : Prop where
  accepts : AcceptsAll assignment rule.patterns arriving
  agrees : ∀ name, MentionedIn rule.patterns name →
    ∀ own, node.static name = some own → own = assignment name
  meets : ∀ name value, .parameter name value ∈ rule.requirements → node.static name = some value

def Applies (rule : Rule) (node : Node) (arriving : List (Option Pattern)) : Prop :=
  ∃ assignment, rule.AppliesUnder node arriving assignment

/-- The value of an outbound parameter: the assigned one if the patterns mention it, or else what the
node knows. -/
def YieldsParam (rule : Rule) (node : Node) (assignment : Assignment) : Param → Param → Prop
  | .number value, result => result = .number value
  | .free name, result =>
    MentionedIn rule.patterns name ∧ result = .number (assignment name) ∨
      ¬ MentionedIn rule.patterns name ∧ ∃ own, node.static name = some own ∧ result = .number own

def Yields (rule : Rule) (node : Node) (assignment : Assignment) (type : MessageType) : Prop :=
  type.family = rule.outbound.family ∧
    List.Forall₂ (rule.YieldsParam node assignment) rule.outbound.params type.params

/-- The rule applies and its outbound type is the given one. -/
def Produces (rule : Rule) (node : Node) (arriving : List (Option Pattern)) (type : MessageType) :
    Prop :=
  ∃ assignment, rule.AppliesUnder node arriving assignment ∧ rule.Yields node assignment type

end Rule

/-! ### Agreement with a node -/

theorem allM_eq_ok {α : Type} {f : α → Except Fault Bool} {test : α → Bool} {items : List α}
    (each : ∀ item ∈ items, f item = .ok (test item)) : items.allM f = .ok (items.all test) := by
  induction items with
  | nil => rfl
  | cons item rest ih =>
      rw [List.allM, List.all_cons, each item List.mem_cons_self, Partial.ok_bind]
      cases test item with
      | false => rfl
      | true => exact ih fun other member => each other (List.mem_cons_of_mem item member)

/-- A binding that does not contradict what the node knows. -/
def Node.admits (node : Node) (binding : String × Param) : Bool :=
  ((node.static binding.1).map fun value => Param.number value == binding.2).getD true

theorem Node.admits_iff {node : Node} {name : String} {value : Param} :
    node.admits (name, value) = true ↔
      ∀ own, node.static name = some own → value = .number own := by
  rw [Node.admits]
  cases known : node.static name with
  | none => simp
  | some own =>
      rw [Option.map_some, Option.getD_some, beq_iff_eq]
      constructor
      · intro same other found
        cases found
        exact same.symm
      · intro same
        exact (same own rfl).symm

def Requirement.isMet (node : Node) : Requirement → Bool
  | parameter name value => node.static name == some value
  | stated _ => false

/-- A match agrees with a node exactly when no binding contradicts what the node knows and every
required value is the node's own. -/
theorem agreesWithNode_eq (bindings : Bindings) {requirements : List Requirement} (node : Node)
    (typed : ∀ requirement ∈ requirements, ∃ name value, requirement = .parameter name value) :
    agreesWithNode bindings requirements node.facts
      = .ok (bindings.all node.admits && requirements.all (Requirement.isMet node)) := by
  have held : requirements.allM (Requirement.holds node.facts)
      = .ok (requirements.all (Requirement.isMet node)) := by
    apply allM_eq_ok
    intro requirement member
    obtain ⟨name, value, rfl⟩ := typed requirement member
    rfl
  have fitting : (bindings.allM fun binding => do
      return ((← node.facts.static binding.1).map fun value =>
        Param.number value == binding.2).getD true : Except Fault Bool)
      = .ok (bindings.all node.admits) :=
    allM_eq_ok fun _ _ => rfl
  rw [agreesWithNode, fitting, Partial.ok_bind, held]
  cases bindings.all node.admits with
  | false => rfl
  | true => rfl

theorem agreesWithNode_iff {bindings : Bindings} {requirements : List Requirement} {node : Node}
    (typed : ∀ requirement ∈ requirements, ∃ name value, requirement = .parameter name value) :
    agreesWithNode bindings requirements node.facts = .ok true ↔
      (∀ name value, (name, value) ∈ bindings →
        ∀ own, node.static name = some own → value = .number own) ∧
      ∀ name value, .parameter name value ∈ requirements → node.static name = some value := by
  rw [agreesWithNode_eq bindings node typed, Except.ok.injEq, Bool.and_eq_true, List.all_eq_true,
    List.all_eq_true]
  refine and_congr ⟨fun all name value member => ?_, ?_⟩ ⟨fun all name value member => ?_, ?_⟩
  · exact Node.admits_iff.mp (all (name, value) member)
  · rintro all ⟨name, value⟩ member
    exact Node.admits_iff.mpr (all name value member)
  · exact beq_iff_eq.mp (all (.parameter name value) member)
  · intro all requirement member
    obtain ⟨name, value, rfl⟩ := typed requirement member
    exact beq_iff_eq.mpr (all name value member)

/-! ### Outbound types -/

/-- Substitution looks at every parameter; a type without free ones comes out as it is. -/
theorem MessageType.substitute_eq (outbound : MessageType) (bindings : Bindings)
    (node : Option NodeFacts) :
    outbound.substitute bindings node
      = (outbound.params.mapM (substituteParam outbound bindings node)).map fun params =>
          ⟨outbound.family, params⟩ := by
  rw [MessageType.substitute]
  split
  · rename_i concrete
    have numbers := MessageType.isConcrete_iff.mp concrete
    have unchanged : outbound.params.mapM (substituteParam outbound bindings node)
        = .ok outbound.params := by
      rw [mapM_eq_ok, List.forall₂_same]
      intro param member
      obtain ⟨value, rfl⟩ := numbers param member
      rfl
    rw [unchanged]
    rfl
  · rfl

theorem substituteParam_free (outbound : MessageType) (bindings : Bindings) (node : Node)
    (name : String) :
    substituteParam outbound bindings (some node.facts) (.free name)
      = match bindings.lookup name, node.static name with
        | some value, _ => .ok value
        | none, some own => .ok (.number own)
        | none, none => .error (.compile
            { cause := .unboundParameter name outbound, nodeId := some node.id }) := by
  rw [substituteParam]
  cases bindings.lookup name with
  | some value => rfl
  | none =>
      have asked : (some node.facts).bindM (fun facts => facts.static name)
          = (.ok (node.static name) : Except Fault (Option Int)) := rfl
      simp only [asked, Partial.ok_bind]
      cases node.static name with
      | some own => rfl
      | none => rfl

section Candidate

variable {rule : Rule} {node : Node} {arriving : List (Option Pattern)} {bindings : Bindings}
  {assignment : Assignment}

theorem YieldsParam_iff (covers : Bindings.Extends [] bindings (MentionedIn rule.patterns))
    (agrees : bindings.AgreesWith assignment) {param result : Param} :
    substituteParam rule.outbound bindings (some node.facts) param = .ok result ↔
      rule.YieldsParam node assignment param result := by
  cases param with
  | number value => simp [substituteParam, Rule.YieldsParam, eq_comm]
  | free name =>
      rw [substituteParam_free, Rule.YieldsParam]
      have mentioned := covers.bound name
      cases found : bindings.lookup name with
      | some value =>
          have here : MentionedIn rule.patterns name := by simpa [found] using mentioned
          simp [here, agrees name value found, eq_comm]
      | none =>
          have nowhere : ¬ MentionedIn rule.patterns name := by simpa [found] using mentioned
          cases node.static name with
          | some own => simp [nowhere, eq_comm]
          | none => simp [nowhere]

/-- Substituting the bindings of a match yields the outbound type of any assignment that agrees with
them. -/
theorem substitute_eq_ok_iff (covers : Bindings.Extends [] bindings (MentionedIn rule.patterns))
    (agrees : bindings.AgreesWith assignment) {type : MessageType} :
    rule.outbound.substitute bindings (some node.facts) = .ok type ↔
      rule.Yields node assignment type := by
  rw [MessageType.substitute_eq, map_eq_ok, Rule.Yields]
  cases type with
  | mk family params =>
      constructor
      · rintro ⟨values, computed, same⟩
        cases same
        exact ⟨rfl, (mapM_eq_ok.mp computed).imp fun _ _ => (YieldsParam_iff covers agrees).mp⟩
      · rintro ⟨sameFamily, yields⟩
        have pointwise : ∀ param result, rule.YieldsParam node assignment param result →
            substituteParam rule.outbound bindings (some node.facts) param = .ok result :=
          fun _ _ => (YieldsParam_iff covers agrees).mpr
        have computed := mapM_eq_ok.mpr (yields.imp pointwise)
        exact ⟨params, computed, by rw [← sameFamily]⟩

/-- Where substitution fails, it names an outbound parameter that neither the patterns nor the node
give a value. -/
theorem substitute_eq_error (covers : Bindings.Extends [] bindings (MentionedIn rule.patterns))
    {fault : Fault} (failed : rule.outbound.substitute bindings (some node.facts) = .error fault) :
    ∃ name, .free name ∈ rule.outbound.params ∧ ¬ MentionedIn rule.patterns name ∧
      node.static name = none ∧
      fault = .compile { cause := .unboundParameter name rule.outbound, nodeId := some node.id } := by
  rw [MessageType.substitute_eq, Partial.map_eq_error] at failed
  obtain ⟨param, member, here⟩ := Partial.mapM_eq_error failed
  cases param with
  | number value => cases here
  | free name =>
      rw [substituteParam_free] at here
      have mentioned := covers.bound name
      cases found : bindings.lookup name with
      | some value =>
          rw [found] at here
          cases here
      | none =>
          rw [found] at here
          cases known : node.static name with
          | some own =>
              rw [known] at here
              cases here
          | none =>
              rw [known] at here
              refine ⟨name, member, ?_, known, (Except.error.inj here).symm⟩
              simpa [found] using mentioned

end Candidate

end SumProduct
