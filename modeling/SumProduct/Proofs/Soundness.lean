/-
Sound rules and libraries.

A rule is sound with what it computes if messages of the types that it was chosen for yield a message
of the outbound type.  An exact rule may fail only for numeric reasons; nothing is said about the
failures of an approximation, which reads marginals besides.  A library is fitted if each of its rules
is sound with the implementation under the name of the rule.
-/

import SumProduct.Proofs.Identifiers
import SumProduct.Proofs.Moments
import SumProduct.Proofs.Registration
import SumProduct.Rules.Library

set_option autoImplicit false

namespace SumProduct

namespace Value

/-- The value is a message of the given type. -/
def HasType (value : Value) (type : Option Pattern) : Prop :=
  ∃ message found, value = .message message ∧ Distribution.messageType message = .ok found ∧
    type = some (.typed found)

/-- A message of the type that arrives, or nothing where nothing arrives. -/
def Fills (value : Value) (type : Option Pattern) : Prop :=
  value.HasType type ∨ value = .absent ∧ type = none

theorem hasType_message {message : Message} {type : MessageType} (typed : message.IsTyped type) :
    (Value.message message).HasType (some (.typed type)) :=
  ⟨message, type, rfl, Message.messageType_eq_ok_iff.mpr typed, rfl⟩

theorem HasType.present {value : Value} {type : Option Pattern} (typed : value.HasType type) :
    value ≠ .absent := by
  obtain ⟨message, _, rfl, _⟩ := typed
  exact fun impossible => by cases impossible

theorem HasType.typed_inv {value : Value} {type : MessageType}
    (typed : value.HasType (some (.typed type))) :
    ∃ message, value = .message message ∧ message.IsTyped type := by
  obtain ⟨message, found, rfl, computed, same⟩ := typed
  cases same
  exact ⟨message, rfl, Message.messageType_eq_ok_iff.mp computed⟩

theorem Fills.isConcrete {value : Value} {type : Option Pattern} (fills : value.Fills type) :
    IsConcrete type := by
  intro pattern same
  subst same
  rcases fills with ⟨message, found, _, computed, same⟩ | ⟨_, impossible⟩
  · cases same
    exact ⟨found, rfl, (Message.messageType_eq_ok_iff.mp computed).isConcrete⟩
  · cases impossible

end Value

/-- The outcome is a message of the type, or a numeric failure. -/
def Delivers (type : MessageType) (outcome : Except Fault Value) : Prop :=
  Safely (fun value => value.HasType (some (.typed type))) outcome

theorem delivers_message {type : MessageType} {outcome : Except Fault Message}
    (safe : Safely (fun message => Message.IsTyped message type) outcome) :
    Delivers type (outcome.map .message) :=
  safe.map fun _ typed => Value.hasType_message typed

/-! ### Chosen rules -/

theorem MessageType.under_congr {first second : Assignment} {type : MessageType}
    (same : ∀ name, .free name ∈ type.params → first name = second name) :
    type.under first = type.under second := by
  have params : type.params.map (Param.under first) = type.params.map (Param.under second) := by
    apply List.map_congr_left
    intro param member
    cases param with
    | number value => rfl
    | free name => rw [Param.under, Param.under, same name member]
  rw [MessageType.under, MessageType.under, params]

theorem MessageType.under_closed {assignment : Assignment} {type : MessageType}
    (closed : type.params = []) : type.under assignment = type := by
  rw [MessageType.under, closed, List.map_nil, ← closed]

theorem AcceptsAll.congr {first second : Assignment} {patterns : List Pattern}
    {arriving : List (Option Pattern)} (accepts : AcceptsAll first patterns arriving)
    (same : ∀ name, MentionedIn patterns name → first name = second name) :
    AcceptsAll second patterns arriving := by
  induction accepts with
  | nil => exact .nil
  | @cons pattern type patterns arriving here rest ih =>
      refine .cons ?_ (ih fun name mentioned => same name ?_)
      · cases pattern with
        | any => trivial
        | absent => exact here
        | typed wanted =>
            have equal : wanted.under first = wanted.under second :=
              MessageType.under_congr fun name member =>
                same name ⟨.typed wanted, List.mem_cons_self, wanted, rfl, member⟩
            rw [Pattern.Accepts, ← equal]
            exact here
      · obtain ⟨other, member, mentions⟩ := mentioned
        exact ⟨other, List.mem_cons_of_mem pattern member, mentions⟩

/-- The rule is chosen at the node for what arrives.  The assignment covers the parameters of the
arriving types and those that the node knows. -/
structure Rule.ChosenUnder (rule : Rule) (node : Node) (arriving : List (Option Pattern))
    (type : MessageType) (assignment : Assignment) : Prop where
  accepts : AcceptsAll assignment rule.patterns arriving
  knows : ∀ name own, node.static name = some own → own = assignment name
  meets : ∀ name value, .parameter name value ∈ rule.requirements → node.static name = some value
  yields : type = rule.outbound.under assignment
  supplied : ∀ name, .free name ∈ rule.outbound.params →
    MentionedIn rule.patterns name ∨ ∃ own, node.static name = some own

open Classical in
theorem Rule.Produces.chosenUnder {rule : Rule} {node : Node} {arriving : List (Option Pattern)}
    {type : MessageType} (produces : rule.Produces node arriving type) :
    ∃ assignment, rule.ChosenUnder node arriving type assignment := by
  obtain ⟨assignment, applies, family, params⟩ := produces
  -- Names that no pattern mentions take the values that the node knows.
  let total : Assignment := fun name =>
    if MentionedIn rule.patterns name then assignment name else (node.static name).getD 0
  have mentioned : ∀ name, MentionedIn rule.patterns name → assignment name = total name :=
    fun name here => (if_pos here).symm
  have unmentioned : ∀ name own, ¬ MentionedIn rule.patterns name → node.static name = some own →
      own = total name := by
    intro name own nowhere known
    simp only [total, if_neg nowhere, known, Option.getD_some]
  have each : ∀ param result, rule.YieldsParam node assignment param result →
      param.under total = result := by
    intro param result yielded
    cases param with
    | number value => exact yielded.symm
    | free name =>
        rcases yielded with ⟨here, same⟩ | ⟨nowhere, own, known, same⟩
        · rw [same, Param.under, mentioned name here]
        · rw [same, Param.under, unmentioned name own nowhere known]
  refine ⟨total, applies.accepts.congr mentioned, ?_, applies.meets, ?_, ?_⟩
  · intro name own known
    by_cases here : MentionedIn rule.patterns name
    · rw [applies.agrees name here own known, mentioned name here]
    · exact unmentioned name own here known
  · have same : type.params = rule.outbound.params.map (Param.under total) := by
      have related := List.forall₂_map_left_iff.mpr (params.imp fun _ _ => each _ _)
      exact (List.forall₂_eq_eq_eq ▸ related).symm
    rw [MessageType.under, ← family, ← same]
  · intro name member
    obtain ⟨result, _, yielded⟩ := Partial.exists_of_mem_left params member
    rcases yielded with ⟨here, _⟩ | ⟨_, own, known, _⟩
    · exact Or.inl here
    · exact Or.inr ⟨own, known⟩

/-! ### Sound rules -/

/-- Messages of the types that the rule was chosen for yield a message of the outbound type; an exact
rule fails only for numeric reasons. -/
def Rule.IsSound (rule : Rule) (implementation : Implementation) : Prop :=
  ∀ network key assignment arriving type values marginals,
    rule.ChosenUnder (network.node key) arriving type assignment →
    List.Forall₂ Value.Fills values arriving →
    Option.isSome marginals = rule.approximation.isSome →
    (∀ value, implementation ⟨network, some key⟩ values marginals = .ok value →
      value.HasType (some (.typed type))) ∧
    (rule.approximation = none →
      ∀ fault, implementation ⟨network, some key⟩ values marginals = .error fault → fault.IsNumeric)

theorem typed_messages {assignment : Assignment} {types : List MessageType}
    {arriving : List (Option Pattern)} {values : List Value}
    (accepts : AcceptsAll assignment (types.map .typed) arriving)
    (fills : List.Forall₂ Value.Fills values arriving) :
    ∃ messages : List Message, values = messages.map .message ∧
      List.Forall₂ Message.IsTyped messages (types.map (MessageType.under assignment)) := by
  induction types generalizing arriving values with
  | nil =>
      cases accepts
      cases fills
      exact ⟨[], rfl, .nil⟩
  | cons type types ih =>
      rw [List.map_cons] at accepts
      cases accepts with
      | cons here rest =>
          cases fills with
          | cons first others =>
              obtain ⟨messages, rfl, typed⟩ := ih rest others
              have arrived : _ = some (Pattern.typed (type.under assignment)) := here
              subst arrived
              rcases first with held | ⟨_, impossible⟩
              · obtain ⟨message, rfl, head⟩ := held.typed_inv
                exact ⟨message :: messages, rfl, .cons head typed⟩
              · cases impossible

/-! ### Fitted libraries -/

/-- Every rule of the catalog is sound with the implementation under its name. -/
structure Library.Fitted (library : Library) : Prop where
  coherent : library.catalog.Coherent
  sound : ∀ rule ∈ library.catalog.rules, ∃ implementation,
    library.implementations.get? rule.id = some implementation ∧ rule.IsSound implementation

/-- The library after a rule was added by a call that registers it. -/
def Library.after (library : Library) (call : Registration) (implementation : Implementation) :
    Library :=
  (library.add call.id implementation call.kind.toValue call.slot.toValue (call.inbound.map some)
    (some call.outbound) call.category call.approximation
    (call.requires.map fun pair => .parameter pair.1 pair.2)).2

/-- The answer to such a call, and the library after it. -/
def Library.added (library : Library) (call : Registration) (implementation : Implementation) :
    Except Fault Rule × Library :=
  library.add call.id implementation call.kind.toValue call.slot.toValue (call.inbound.map some)
    (some call.outbound) call.category call.approximation
    (call.requires.map fun pair => .parameter pair.1 pair.2)

theorem Library.added_eq (library : Library) (call : Registration) (implementation : Implementation) :
    library.added call implementation = match call.registered library.catalog with
      | (.ok rule, catalog) =>
          (.ok rule, ⟨catalog, Table.put call.id implementation library.implementations⟩)
      | (.error fault, catalog) => (.error fault, { library with catalog := catalog }) := rfl

theorem Library.Fitted.after {library : Library} (fitted : library.Fitted) {call : Registration}
    {implementation : Implementation}
    (sound : ∀ type, call.outbound = .typed type → (call.rule type).IsSound implementation) :
    (library.after call implementation).Fitted := by
  have coherent := fitted.coherent.apply call
  have applied : call.apply library.catalog = (call.registered library.catalog).2 := rfl
  change (library.added call implementation).2.Fitted
  rw [Library.added_eq]
  rcases call.registered_cases library.catalog with ⟨fault, _, refused⟩ | ⟨type, bucket, checked, _, done⟩
  · rw [refused]
    exact fitted
  · rw [applied, done] at coherent
    rw [done]
    obtain ⟨fresh, _, outbound⟩ := Catalog.check_eq_ok_iff.mp checked
    refine ⟨coherent, fun rule member => ?_⟩
    rcases List.mem_append.mp member with old | new
    · obtain ⟨other, found, same⟩ := fitted.sound rule old
      refine ⟨other, ?_, same⟩
      have different : ¬ call.id.same rule.id = true := by
        intro equal
        have known := fresh rule old
        rw [Key.same_iff.mpr (Key.same_iff.mp equal).symm] at known
        cases known
      rw [Table.get?_put, if_neg different]
      exact found
    · rw [List.mem_singleton.mp new]
      refine ⟨implementation, ?_, sound type (Option.some.inj outbound)⟩
      rw [Table.get?_put]
      exact if_pos (Key.same_iff.mpr rfl)

end SumProduct
