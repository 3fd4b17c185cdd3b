/-
What matching decides.

An assignment gives an integer to every parameter name.  Patterns fit arriving types exactly when
some assignment turns every pattern into the type that arrives there; the bindings that matching
returns are the part of such an assignment that the patterns mention.

The statements are about arriving types without free parameters, which is what messages have.
-/

import SumProduct.Network.Basic
import SumProduct.Proofs.Partial

set_option autoImplicit false

namespace SumProduct

open Partial (bind_eq_ok)

/-- Integers for the names of parameters. -/
abbrev Assignment := String → Int

def Param.under (assignment : Assignment) : Param → Param
  | .number value => .number value
  | .free name => .number (assignment name)

/-- The type that a pattern with named parameters becomes under an assignment. -/
def MessageType.under (assignment : Assignment) (type : MessageType) : MessageType :=
  ⟨type.family, type.params.map (Param.under assignment)⟩

/-- What a pattern accepts under an assignment; nothing arriving is accepted as such. -/
def Pattern.Accepts (assignment : Assignment) : Pattern → Option Pattern → Prop
  | .any, _ => True
  | .absent, arriving => arriving = none
  | .typed type, arriving => arriving = some (.typed (type.under assignment))

/-- A name that occurs as a parameter of a pattern. -/
def Pattern.Mentions (pattern : Pattern) (name : String) : Prop :=
  ∃ type, pattern = .typed type ∧ Param.free name ∈ type.params

/-- Nothing arrives, or a message type without free parameters. -/
def IsConcrete (arriving : Option Pattern) : Prop :=
  ∀ pattern, arriving = some pattern → ∃ type, pattern = .typed type ∧ type.isConcrete = true

/-- Nothing arrives, or a message type. -/
def IsMessageType (arriving : Option Pattern) : Prop :=
  ∀ pattern, arriving = some pattern → ∃ type, pattern = .typed type

theorem IsConcrete.isMessageType {arriving : Option Pattern} (concrete : IsConcrete arriving) :
    IsMessageType arriving := by
  intro pattern same
  obtain ⟨type, typed, _⟩ := concrete pattern same
  exact ⟨type, typed⟩

theorem MessageType.isConcrete_iff {type : MessageType} :
    type.isConcrete = true ↔ ∀ param ∈ type.params, ∃ value, param = .number value := by
  constructor
  · intro concrete param member
    cases param with
    | number value => exact ⟨value, rfl⟩
    | free name =>
        have somewhere : type.params.any Param.isFree = true :=
          List.any_eq_true.mpr ⟨.free name, member, rfl⟩
        rw [MessageType.isConcrete, somewhere] at concrete
        cases concrete
  · intro numbers
    have nowhere : type.params.any Param.isFree = false := by
      rw [List.any_eq_false]
      intro param member
      obtain ⟨value, rfl⟩ := numbers param member
      exact Bool.false_ne_true
    rw [MessageType.isConcrete, nowhere]
    rfl

/-! ### Bindings as partial assignments -/

namespace Bindings

/-- The assignment gives every bound name the value it is bound to. -/
def AgreesWith (bindings : Bindings) (assignment : Assignment) : Prop :=
  ∀ name value, bindings.lookup name = some value → value = .number (assignment name)

/-- Every name is bound once, and to an integer. -/
structure Proper (bindings : Bindings) : Prop where
  single : ∀ name value, (name, value) ∈ bindings → bindings.lookup name = some value
  numeric : ∀ name value, (name, value) ∈ bindings → ∃ number, value = .number number

/-- The assignment that gives unbound names zero. -/
def assignment (bindings : Bindings) : Assignment := fun name =>
  match bindings.lookup name with
  | some (.number value) => value
  | _ => 0

theorem mem_of_lookup {bindings : Bindings} {name : String} {value : Param}
    (found : bindings.lookup name = some value) : (name, value) ∈ bindings := by
  obtain ⟨before, after, split, _⟩ := List.lookup_eq_some_iff.mp found
  rw [split]
  simp

theorem Proper.agreesWith_assignment {bindings : Bindings} (proper : bindings.Proper) :
    bindings.AgreesWith bindings.assignment := by
  intro name value found
  obtain ⟨number, rfl⟩ := proper.numeric name value (mem_of_lookup found)
  rw [assignment, found]

theorem proper_nil : Proper [] :=
  ⟨fun _ _ member => (List.not_mem_nil member).elim, fun _ _ member => (List.not_mem_nil member).elim⟩

theorem lookup_append_single (bindings : Bindings) (name other : String) (value : Param) :
    (bindings ++ [(name, value)]).lookup other
      = (bindings.lookup other).or (if other = name then some value else none) := by
  rw [List.lookup_append, List.lookup_cons, List.lookup_nil]
  by_cases same : other = name
  · rw [if_pos same, beq_iff_eq.mpr same]
  · rw [if_neg same, beq_eq_false_iff_ne.mpr same]

theorem Proper.append {bindings : Bindings} (proper : bindings.Proper) {name : String}
    (fresh : bindings.lookup name = none) (number : Int) :
    Proper (bindings ++ [(name, .number number)]) := by
  constructor
  · intro other value member
    rw [lookup_append_single]
    rcases List.mem_append.mp member with old | new
    · rw [proper.single other value old, Option.some_or]
    · cases List.mem_singleton.mp new
      rw [fresh, if_pos rfl, Option.none_or]
  · intro other value member
    rcases List.mem_append.mp member with old | new
    · exact proper.numeric other value old
    · cases List.mem_singleton.mp new
      exact ⟨number, rfl⟩

/-- Bindings that grew by exactly the names that were mentioned. -/
structure Extends (before after : Bindings) (mentioned : String → Prop) : Prop where
  proper : after.Proper
  keeps : ∀ name value, before.lookup name = some value → after.lookup name = some value
  bound : ∀ name, (after.lookup name).isSome ↔ (before.lookup name).isSome ∨ mentioned name

theorem Extends.refl {bindings : Bindings} (proper : bindings.Proper) {mentioned : String → Prop}
    (nothing : ∀ name, ¬ mentioned name) : Extends bindings bindings mentioned :=
  ⟨proper, fun _ _ found => found, fun name => by simp [nothing name]⟩

theorem Extends.trans {first second third : Bindings} {early late : String → Prop}
    (start : Extends first second early) (rest : Extends second third late) :
    Extends first third fun name => early name ∨ late name :=
  ⟨rest.proper, fun name value found => rest.keeps name value (start.keeps name value found),
    fun name => by rw [rest.bound, start.bound, or_assoc]⟩

theorem Extends.congr {before after : Bindings} {left right : String → Prop}
    (extension : Extends before after left) (same : ∀ name, left name ↔ right name) :
    Extends before after right :=
  ⟨extension.proper, extension.keeps, fun name => by rw [extension.bound, same]⟩

theorem Extends.agreesWith {before after : Bindings} {mentioned : String → Prop}
    (extension : Extends before after mentioned) {assignment : Assignment}
    (agrees : after.AgreesWith assignment) : before.AgreesWith assignment :=
  fun name value found => agrees name value (extension.keeps name value found)

end Bindings

/-! ### Parameters, position by position -/

/-- Successful comparison of parameters: the bindings grow by the names that are met, and every
assignment that agrees with them turns the wanted parameters into the arriving ones. -/
theorem bindParams_sound {wanted arriving : List Param} {before after : Bindings}
    (proper : before.Proper) (lengths : wanted.length = arriving.length)
    (numbers : ∀ param ∈ arriving, ∃ value, param = .number value)
    (compared : bindParams wanted arriving before = (true, after)) :
    before.Extends after (fun name => .free name ∈ wanted) ∧
      ∀ assignment, after.AgreesWith assignment →
        wanted.map (Param.under assignment) = arriving := by
  induction wanted generalizing arriving before with
  | nil =>
      cases arriving with
      | nil =>
          cases compared
          exact ⟨.refl proper fun _ member => List.not_mem_nil member, fun _ _ => rfl⟩
      | cons value rest => cases lengths
  | cons param wanted ih =>
      cases arriving with
      | nil => cases lengths
      | cons value rest =>
          have restLengths : wanted.length = rest.length := Nat.succ.inj lengths
          have restNumbers : ∀ param ∈ rest, ∃ value, param = .number value :=
            fun other member => numbers other (List.mem_cons_of_mem value member)
          obtain ⟨number, rfl⟩ := numbers value List.mem_cons_self
          cases param with
          | number own =>
              simp only [bindParams] at compared
              split at compared
              · rename_i same
                obtain ⟨extension, turned⟩ := ih proper restLengths restNumbers compared
                refine ⟨extension.congr fun name => by simp, fun assignment agrees => ?_⟩
                rw [List.map_cons, turned assignment agrees, same]
                rfl
              · cases compared
          | free name =>
              simp only [bindParams] at compared
              cases found : before.lookup name with
              | none =>
                  rw [found] at compared
                  have extended := proper.append found number
                  obtain ⟨extension, turned⟩ := ih extended restLengths restNumbers compared
                  have start : before.Extends (before ++ [(name, .number number)])
                      (fun other => other = name) := by
                    refine ⟨extended, fun other bound atOther => ?_, fun other => ?_⟩
                    · rw [Bindings.lookup_append_single, atOther, Option.some_or]
                    · rw [Bindings.lookup_append_single]
                      by_cases same : other = name <;> simp [same]
                  refine ⟨(start.trans extension).congr fun other => by simp, ?_⟩
                  intro assignment agrees
                  have here : (before ++ [(name, Param.number number)]).lookup name
                      = some (.number number) := by
                    rw [Bindings.lookup_append_single, found, if_pos rfl, Option.none_or]
                  have value := agrees name _ (extension.keeps name _ here)
                  rw [List.map_cons, turned assignment agrees, Param.under, value]
              | some bound =>
                  rw [found] at compared
                  simp only at compared
                  split at compared
                  · rename_i same
                    subst same
                    obtain ⟨extension, turned⟩ := ih proper restLengths restNumbers compared
                    constructor
                    · refine ⟨extension.proper, extension.keeps, fun other => ?_⟩
                      rw [extension.bound, List.mem_cons]
                      constructor
                      · exact Or.imp_right Or.inr
                      · rintro (old | head | later)
                        · exact Or.inl old
                        · cases head
                          exact Or.inl (by rw [found]; rfl)
                        · exact Or.inr later
                    · intro assignment agrees
                      have value := agrees name _ (extension.keeps name _ found)
                      rw [List.map_cons, turned assignment agrees, Param.under, value]
                  · cases compared

/-- Parameters that an assignment turns into the arriving ones are compared with success, and the
assignment agrees with the bindings found. -/
theorem bindParams_complete (wanted : List Param) {before : Bindings} {assignment : Assignment}
    (agrees : before.AgreesWith assignment) :
    ∃ after, bindParams wanted (wanted.map (Param.under assignment)) before = (true, after) ∧
      after.AgreesWith assignment := by
  induction wanted generalizing before with
  | nil => exact ⟨before, rfl, agrees⟩
  | cons param wanted ih =>
      cases param with
      | number own =>
          simp only [List.map_cons, bindParams, Param.under, if_pos]
          exact ih agrees
      | free name =>
          simp only [List.map_cons, bindParams, Param.under]
          cases found : before.lookup name with
          | none =>
              refine ih fun other value atOther => ?_
              rw [Bindings.lookup_append_single] at atOther
              by_cases same : other = name
              · subst same
                rw [found, if_pos rfl, Option.none_or] at atOther
                exact (Option.some.inj atOther).symm
              · rw [if_neg same, Option.or_none] at atOther
                exact agrees other value atOther
          | some bound =>
              have value := agrees name bound found
              simp only [value, if_pos]
              exact ih agrees

/-! ### Patterns -/

theorem MessageType.under_inj {assignment : Assignment} {wanted found : MessageType} :
    found = wanted.under assignment ↔
      wanted.family = found.family ∧ wanted.params.map (Param.under assignment) = found.params := by
  cases found with
  | mk family params =>
      simp [MessageType.under, eq_comm]

theorem Pattern.compare_sound {pattern : Pattern} {arriving : Option Pattern}
    {before after : Bindings} (proper : before.Proper) (concrete : IsConcrete arriving)
    (compared : pattern.compare arriving before = .ok (true, after)) :
    before.Extends after pattern.Mentions ∧
      ∀ assignment, after.AgreesWith assignment → pattern.Accepts assignment arriving := by
  have silent : ∀ {pattern : Pattern}, (∀ type, pattern ≠ .typed type) →
      before.Extends before pattern.Mentions := fun other =>
    .refl proper fun _ mentions => other _ mentions.choose_spec.1
  cases pattern with
  | any =>
      cases compared
      exact ⟨silent (fun _ same => by cases same), fun _ _ => trivial⟩
  | absent =>
      cases arriving with
      | none =>
          cases compared
          exact ⟨silent (fun _ same => by cases same), fun _ _ => rfl⟩
      | some found => cases compared
  | typed wanted =>
      cases arriving with
      | none => cases compared
      | some pattern =>
          obtain ⟨found, rfl, numbers⟩ := concrete pattern rfl
          simp only [Pattern.compare] at compared
          split at compared
          · rename_i same
            obtain ⟨extension, turned⟩ := bindParams_sound proper same.2
              (MessageType.isConcrete_iff.mp numbers) (Except.ok.inj compared)
            refine ⟨extension.congr fun name => ?_, fun assignment agrees => ?_⟩
            · simp [Pattern.Mentions]
            · have equal := MessageType.under_inj.mpr ⟨same.1, turned assignment agrees⟩
              rw [Pattern.Accepts, equal]
          · cases compared

theorem Pattern.compare_complete {pattern : Pattern} {arriving : Option Pattern}
    {before : Bindings} {assignment : Assignment} (agrees : before.AgreesWith assignment)
    (accepts : pattern.Accepts assignment arriving) :
    ∃ after, pattern.compare arriving before = .ok (true, after) ∧
      after.AgreesWith assignment := by
  cases pattern with
  | any => exact ⟨before, rfl, agrees⟩
  | absent =>
      cases accepts
      exact ⟨before, rfl, agrees⟩
  | typed wanted =>
      cases accepts
      obtain ⟨after, compared, agreesAfter⟩ := bindParams_complete wanted.params agrees
      refine ⟨after, ?_, agreesAfter⟩
      simp [Pattern.compare, MessageType.under, compared]

theorem Pattern.compare_total (pattern : Pattern) {arriving : Option Pattern}
    (typed : IsMessageType arriving) (before : Bindings) :
    ∃ answer, pattern.compare arriving before = .ok answer := by
  cases pattern with
  | any => exact ⟨_, rfl⟩
  | absent => exact ⟨_, rfl⟩
  | typed wanted =>
      cases arriving with
      | none => exact ⟨_, rfl⟩
      | some pattern =>
          obtain ⟨found, rfl⟩ := typed pattern rfl
          simp only [Pattern.compare]
          split
          · exact ⟨_, rfl⟩
          · exact ⟨_, rfl⟩

/-! ### All patterns of a rule -/

/-- Every pattern accepts what arrives at its place; there are as many patterns as places. -/
def AcceptsAll (assignment : Assignment) (patterns : List Pattern) (arriving : List (Option Pattern)) :
    Prop :=
  List.Forall₂ (Pattern.Accepts assignment) patterns arriving

/-- A name that occurs in one of the patterns. -/
def MentionedIn (patterns : List Pattern) (name : String) : Prop :=
  ∃ pattern ∈ patterns, pattern.Mentions name

theorem unifyFrom_sound {patterns : List Pattern} {arriving : List (Option Pattern)}
    {before after : Bindings} (proper : before.Proper)
    (concrete : ∀ type ∈ arriving, IsConcrete type)
    (matched : unifyFrom (patterns.map some) arriving before = .ok (some after)) :
    before.Extends after (MentionedIn patterns) ∧
      ∀ assignment, after.AgreesWith assignment → AcceptsAll assignment patterns arriving := by
  induction patterns generalizing arriving before with
  | nil =>
      cases arriving with
      | nil =>
          cases matched
          exact ⟨.refl proper fun _ mentions => by simp [MentionedIn] at mentions, fun _ _ => .nil⟩
      | cons type rest => cases matched
  | cons pattern patterns ih =>
      cases arriving with
      | nil => cases matched
      | cons type rest =>
          obtain ⟨⟨fits, middle⟩, compared⟩ :=
            pattern.compare_total (concrete type List.mem_cons_self).isMessageType before
          simp only [List.map_cons, unifyFrom, comparePattern, compared] at matched
          cases fits with
          | false => cases matched
          | true =>
              obtain ⟨start, accepts⟩ :=
                Pattern.compare_sound proper (concrete type List.mem_cons_self) compared
              obtain ⟨extension, acceptsRest⟩ := ih start.proper
                (fun other member => concrete other (List.mem_cons_of_mem type member)) matched
              refine ⟨(start.trans extension).congr fun name => ?_, fun assignment agrees => ?_⟩
              · simp [MentionedIn]
              · exact .cons (accepts assignment (extension.agreesWith agrees))
                  (acceptsRest assignment agrees)

theorem unifyFrom_complete {patterns : List Pattern} {arriving : List (Option Pattern)}
    {before : Bindings} {assignment : Assignment} (agrees : before.AgreesWith assignment)
    (accepts : AcceptsAll assignment patterns arriving) :
    ∃ after, unifyFrom (patterns.map some) arriving before = .ok (some after) ∧
      after.AgreesWith assignment := by
  induction patterns generalizing arriving before with
  | nil =>
      cases accepts
      exact ⟨before, rfl, agrees⟩
  | cons pattern patterns ih =>
      cases accepts with
      | cons here later =>
          obtain ⟨middle, compared, agreesMiddle⟩ := Pattern.compare_complete agrees here
          obtain ⟨after, matched, agreesAfter⟩ := ih agreesMiddle later
          refine ⟨after, ?_, agreesAfter⟩
          simp only [List.map_cons, unifyFrom, comparePattern, compared, matched]

theorem unifyFrom_total (patterns : List Pattern) {arriving : List (Option Pattern)}
    (typed : ∀ type ∈ arriving, IsMessageType type) (before : Bindings) :
    ∃ answer, unifyFrom (patterns.map some) arriving before = .ok answer := by
  induction patterns generalizing arriving before with
  | nil =>
      cases arriving with
      | nil => exact ⟨_, rfl⟩
      | cons type rest => exact ⟨_, rfl⟩
  | cons pattern patterns ih =>
      cases arriving with
      | nil => exact ⟨_, rfl⟩
      | cons type rest =>
          obtain ⟨⟨fits, middle⟩, compared⟩ :=
            pattern.compare_total (typed type List.mem_cons_self) before
          simp only [List.map_cons, unifyFrom, comparePattern, compared]
          cases fits with
          | false => exact ⟨_, rfl⟩
          | true => exact ih (fun other member => typed other (List.mem_cons_of_mem type member)) _

/-- Bindings that matching finds cover exactly the names that the patterns mention, and an assignment
that agrees with them makes all patterns accept. -/
theorem unify_sound {patterns : List Pattern} {arriving : List (Option Pattern)}
    {bindings : Bindings} (concrete : ∀ type ∈ arriving, IsConcrete type)
    (matched : unify (patterns.map some) arriving = .ok (some bindings)) :
    Bindings.Extends [] bindings (MentionedIn patterns) ∧
      ∀ assignment, bindings.AgreesWith assignment → AcceptsAll assignment patterns arriving := by
  rw [unify] at matched
  split at matched
  · exact unifyFrom_sound Bindings.proper_nil concrete matched
  · cases matched

theorem unify_complete {patterns : List Pattern} {arriving : List (Option Pattern)}
    {assignment : Assignment} (accepts : AcceptsAll assignment patterns arriving) :
    ∃ bindings, unify (patterns.map some) arriving = .ok (some bindings) ∧
      bindings.AgreesWith assignment := by
  have lengths : (patterns.map some).length = arriving.length := by
    rw [List.length_map, List.Forall₂.length_eq accepts]
  rw [unify, if_pos lengths]
  exact unifyFrom_complete (fun _ _ found => by cases found) accepts

/-- Matching fails for want of an answer only where something arrives that is no message type. -/
theorem unify_answers (patterns : List Pattern) {arriving : List (Option Pattern)}
    (typed : ∀ type ∈ arriving, IsMessageType type) :
    ∃ answer, unify (patterns.map some) arriving = .ok answer := by
  rw [unify]
  split
  · exact unifyFrom_total patterns typed []
  · exact ⟨_, rfl⟩

theorem unify_total (patterns : List Pattern) {arriving : List (Option Pattern)}
    (concrete : ∀ type ∈ arriving, IsConcrete type) :
    ∃ answer, unify (patterns.map some) arriving = .ok answer :=
  unify_answers patterns fun type member => (concrete type member).isMessageType

end SumProduct
