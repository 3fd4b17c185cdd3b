/-
The catalog of message update rules.

A rule applies to one outbound slot of one kind of node; its patterns speak about the messages
arriving at the other slots.  Look-up goes to the bucket of the node kind, slot and category and
returns every rule that matches, in the order of registration.  Deciding between none, one and
several is left to resolution.
-/

import SumProduct.Association
import SumProduct.Matching
import SumProduct.Method
import SumProduct.Value.Key

set_option autoImplicit false

namespace SumProduct

inductive Category where
  | exact
  | approximate
  deriving DecidableEq, Repr, Inhabited

def Category.text : Category → String
  | exact => "exact"
  | approximate => "approximate"

def Category.ofText? (name : String) : Option Category :=
  [exact, approximate].find? fun category => category.text = name

/-- A rule; a pattern may be left out, and any value may be given for the kind and the slot. -/
structure Rule where
  id : Key
  kind : Value
  slot : Value
  inbound : List (Option Pattern)
  outbound : MessageType
  category : Category := .exact
  approximation : Option Method := none
  requirements : List Requirement := []
  deriving Inhabited

/-- Without a method asked for every rule may be used, otherwise only rules of that method. -/
def Rule.offers (rule : Rule) (asked : Option Method) : Bool :=
  match asked with
  | none => true
  | some method => rule.approximation.any method.agrees

/-- A rule that matched, with the bindings of the match. -/
structure Candidate where
  rule : Rule
  bindings : Bindings

namespace Candidate

/-- The outbound type; the node supplies parameters that no arriving message carries. -/
def outbound (candidate : Candidate) (node : Option NodeFacts) : Except Fault MessageType :=
  candidate.rule.outbound.substitute candidate.bindings node

def produces (candidate : Candidate) (type : Pattern) (node : Option NodeFacts) : Bool :=
  match candidate.outbound node with
  | .ok outbound => decide (Pattern.typed outbound = type)
  | .error _ => false

/-- The outbound type for diagnostics; parameters that stay unbound are shown as free. -/
def describe (candidate : Candidate) (node : Option NodeFacts) : Described :=
  let outbound := match candidate.outbound node with
    | .ok outbound => outbound
    | .error _ => candidate.rule.outbound.substituteKnown candidate.bindings
  match candidate.rule.approximation with
  | some method => .approximate outbound method.text
  | none => .exact outbound

end Candidate

structure Bucket where
  kind : Key
  slot : Key
  category : Category
  deriving DecidableEq, Repr

/-- The bucket for a kind of node, a slot and a category; only keys have one. -/
def Bucket.of (kind slot : Value) (category : Category) : Except Fault Bucket := do
  return ⟨(← kind.key).normal, (← slot.key).normal, category⟩

def Rule.bucket (rule : Rule) : Except Fault Bucket :=
  Bucket.of rule.kind rule.slot rule.category

/-- Rules in order of registration, and the same rules filed by bucket. -/
structure Catalog where
  rules : List Rule := []
  filed : List (Bucket × List Rule) := []
  deriving Inhabited

/-- A pattern in the form in which objections show it. -/
def Pattern.literal : Option Pattern → String
  | none => "None"
  | some .any => "Wildcard()"
  | some .absent => "Absent()"
  | some (.typed type) => type.text

namespace Catalog

def find? (catalog : Catalog) (id : Key) : Option Rule :=
  catalog.rules.find? fun rule => rule.id.same id

def contains (catalog : Catalog) (id : Key) : Bool := (catalog.find? id).isSome

def bucketRules (catalog : Catalog) (bucket : Bucket) : List Rule :=
  (catalog.filed.lookup bucket).getD []

def file (catalog : Catalog) (rule : Rule) : Except Fault Catalog := do
  let bucket ← rule.bucket
  return { catalog with
    filed := Association.set bucket (catalog.bucketRules bucket ++ [rule]) catalog.filed }

/-- The objection to a rule, if there is one: identifiers are used once, approximate rules name their
method, exact rules have none, and the outbound pattern is a message type. -/
def check (catalog : Catalog) (id : Key) (outbound : Option Pattern) (category : Category)
    (approximation : Option Method) : Except Fault MessageType :=
  if catalog.contains id then .error (.refused (.ruleRegistered id))
  else if category = .approximate ∧ approximation.isNone then .error (.refused (.methodMissing id))
  else if category = .exact ∧ approximation.isSome then .error (.refused (.methodNotAllowed id))
  else
    match outbound with
    | some (.typed type) => .ok type
    | other => .error (.refused (.outboundNotAType id (Pattern.literal other)))

/-- Adds a rule, and returns the catalog also when that fails.  A rule that cannot be filed is listed
nevertheless. -/
def register (catalog : Catalog) (id : Key) (kind slot : Value) (inbound : List (Option Pattern))
    (outbound : Option Pattern) (category : Category) (approximation : Option Method)
    (requirements : List Requirement) : Except Fault Rule × Catalog :=
  match catalog.check id outbound category approximation with
  | .error fault => (.error fault, catalog)
  | .ok type =>
    let rule : Rule := ⟨id, kind, slot, inbound, type, category, approximation, requirements⟩
    let listed : Catalog := { catalog with rules := catalog.rules ++ [rule] }
    match listed.file rule with
    | .ok filed => (.ok rule, filed)
    | .error fault => (.error fault, listed)

/-- Whether a rule matches, and with which bindings. -/
def tryRule (arriving : List (Option Pattern)) (asked : Option Method)
    (node : Option NodeFacts) (rule : Rule) : Except Fault (Option Candidate) :=
  if !rule.offers asked then .ok none
  else do
    match ← unify rule.inbound arriving with
    | none => return none
    | some bindings =>
      let agrees ← match node with
        | some facts => agreesWithNode bindings rule.requirements facts
        | none => pure true
      return if agrees then some ⟨rule, bindings⟩ else none

/-- The matching rules among those given, in their order. -/
def tryRules (arriving : List (Option Pattern)) (asked : Option Method)
    (node : Option NodeFacts) : List Rule → Except Fault (List Candidate)
  | [] => .ok []
  | rule :: rest => do
    let found ← tryRule arriving asked node rule
    let others ← tryRules arriving asked node rest
    return found.toList ++ others

/-- All rules that match a call, in order of registration. -/
def lookup (catalog : Catalog) (bucket : Bucket) (arriving : List (Option Pattern))
    (asked : Option Method) (node : Option NodeFacts) : Except Fault (List Candidate) :=
  tryRules arriving asked node (catalog.bucketRules bucket)

def rulesFor (catalog : Catalog) (kind : Value) : List Rule :=
  catalog.rules.filter fun rule => (rule.kind.same kind).toOption.getD false

def text (catalog : Catalog) : String :=
  "RuleRegistry(rules=" ++ Number.integerText catalog.rules.length ++ ")"

end Catalog

/-! ### Readable rule names -/

def familyTags : List (String × String) :=
  [("PointMass", "pm"), ("MvPointMass", "mvpm"), ("MatrixPointMass", "mxpm"), ("Gaussian", "g"),
   ("MvGaussian", "mvg"), ("Gamma", "gam"), ("InverseGamma", "ig"), ("StudentsT", "st")]

def Pattern.tag : Pattern → String
  | .any => "any"
  | .absent => "none"
  | .typed type => (familyTags.lookup type.family).getD (Text.lower type.family)

/-- A rule name made of a stem and the tags of the arriving patterns. -/
def ruleName (stem : String) (inbound : List Pattern) : String :=
  Text.joinWith "_" (stem :: inbound.map Pattern.tag)

end SumProduct
