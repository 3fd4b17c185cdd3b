/-
Looking up in the index is going through all rules.

A library keeps what it was given three times: the rules in order of registration, the same rules filed
by bucket, and the implementations by name.  Whatever calls were made, also those that were refused, the
three belong together.  A look-up therefore finds what a scan of the granted rules finds, in the same
order.  The scan asks of each rule whether it is for the kind, slot and category, offers the method,
matches and agrees with the node; it never speaks about buckets.
-/

import SumProduct.Proofs.Soundness

set_option autoImplicit false

namespace SumProduct

/-! ### Scanning rules -/

structure Inquiry where
  kind : Key
  slot : Key
  types : List (Option MessageType)
  category : Category
  asked : Option Method := none
  node : Option Node := none

namespace Inquiry

def arriving (inquiry : Inquiry) : List (Option Pattern) :=
  inquiry.types.map fun type => type.map Pattern.typed

/-- No binding contradicts the node, and the node meets the requirements; without a node there is
nothing to contradict. -/
def agrees (inquiry : Inquiry) (rule : Rule) (bindings : Bindings) : Bool :=
  inquiry.node.all fun node => bindings.all node.admits && rule.requirements.all (Requirement.isMet node)

/-- The candidate that a rule for the kind, slot and category yields, if there is one. -/
def candidate? (inquiry : Inquiry) (rule : Rule) : Option Candidate :=
  if rule.offers inquiry.asked then
    (unify rule.inbound inquiry.arriving).toOption.join.bind fun bindings =>
      if inquiry.agrees rule bindings then some ⟨rule, bindings⟩ else none
  else none

/-- Asks the index of a catalog. -/
def lookup (inquiry : Inquiry) (catalog : Catalog) : Except Fault (List Candidate) := do
  let bucket ← Bucket.of inquiry.kind.toValue inquiry.slot.toValue inquiry.category
  catalog.lookup bucket inquiry.arriving inquiry.asked (inquiry.node.map Node.facts)

theorem arriving_isMessageType (inquiry : Inquiry) : ∀ type ∈ inquiry.arriving, IsMessageType type := by
  intro type member pattern same
  obtain ⟨given, _, rfl⟩ := List.mem_map.mp member
  obtain ⟨own, _, rfl⟩ := Option.map_eq_some_iff.mp same
  exact ⟨own, rfl⟩

/-- Trying a typed rule on message types always has an answer. -/
theorem tryRule_eq (inquiry : Inquiry) {rule : Rule} (typed : rule.IsTyped) :
    Catalog.tryRule inquiry.arriving inquiry.asked (inquiry.node.map Node.facts) rule
      = .ok (inquiry.candidate? rule) := by
  rw [Catalog.tryRule, candidate?]
  cases offered : rule.offers inquiry.asked with
  | false => rfl
  | true =>
      obtain ⟨answer, matched⟩ := unify_answers rule.patterns inquiry.arriving_isMessageType
      rw [← typed.inbound] at matched
      rw [matched]
      cases answer with
      | none => rfl
      | some bindings =>
          cases given : inquiry.node with
          | none =>
              have agreeing : inquiry.agrees rule bindings = true := by rw [agrees, given]; rfl
              simp [agreeing, Except.toOption]
          | some node =>
              have decided : agreesWithNode bindings rule.requirements node.facts
                  = .ok (inquiry.agrees rule bindings) := by
                rw [agreesWithNode_eq bindings node typed.requirements, agrees, given]
                rfl
              simp only [Bool.not_true, Bool.false_eq_true, if_false, if_true, Except.toOption,
                Option.join_some, Option.bind_some, Option.map_some, decided, Partial.ok_bind,
                Partial.pure_eq_ok]

end Inquiry

/-! ### Filling a library -/

namespace Library

/-- A call of a library, or of its catalog where there is no implementation. -/
structure Request where
  call : Registration
  implementation : Option Implementation := none

namespace Request

def answered (library : Library) (request : Request) : Except Fault Rule × Library :=
  match request.implementation with
  | none => ((request.call.registered library.catalog).1,
      { library with catalog := (request.call.registered library.catalog).2 })
  | some implementation => library.added request.call implementation

def recorded (request : Request) (implementations : Implementations) : Implementations :=
  match request.implementation with
  | none => implementations
  | some implementation => Table.put request.call.id implementation implementations

/-- A request that does not pass the check is refused and changes nothing; otherwise its rule is listed
and filed and its implementation recorded. -/
theorem answered_cases (library : Library) (request : Request) :
    (∃ fault,
        library.catalog.check request.call.id (some request.call.outbound) request.call.category
          request.call.approximation = .error fault ∧
        request.answered library = (.error fault, library)) ∨
      ∃ type bucket,
        library.catalog.check request.call.id (some request.call.outbound) request.call.category
          request.call.approximation = .ok type ∧
        (request.call.rule type).bucket = .ok bucket ∧
        request.call.apply library.catalog = ⟨library.catalog.rules ++ [request.call.rule type],
          Association.set bucket (library.catalog.bucketRules bucket ++ [request.call.rule type])
            library.catalog.filed⟩ ∧
        request.answered library = (.ok (request.call.rule type),
          ⟨request.call.apply library.catalog, request.recorded library.implementations⟩) := by
  have applied : request.call.apply library.catalog = (request.call.registered library.catalog).2 := rfl
  obtain ⟨call, implementation⟩ := request
  rcases call.registered_cases library.catalog with
    ⟨fault, failed, refused⟩ | ⟨type, bucket, checked, here, done⟩
  · refine Or.inl ⟨fault, failed, ?_⟩
    cases implementation with
    | none => simp only [answered, refused]
    | some implementation => simp only [answered, added_eq, refused]
  · rw [done] at applied
    refine Or.inr ⟨type, bucket, checked, here, applied, ?_⟩
    rw [applied]
    cases implementation with
    | none => simp only [answered, recorded, done]
    | some implementation => simp only [answered, recorded, added_eq, done]

end Request

/-- A rule that was registered, with the implementation that came with it. -/
structure Grant where
  rule : Rule
  implementation : Option Implementation

def Grant.named? (grant : Grant) : Option (Key × Implementation) :=
  grant.implementation.map fun implementation => (grant.rule.id, implementation)

/-- The library holds what has been granted, and nothing else. -/
structure Keeps (library : Library) (granted : List Grant) : Prop where
  coherent : library.catalog.Coherent
  listed : library.catalog.rules = granted.map Grant.rule
  distinct : library.catalog.rules.Pairwise fun rule other => rule.id.same other.id = false
  separate : (library.catalog.filed.map Prod.fst).Nodup
  filed : (library.catalog.filed.flatMap Prod.snd).Perm library.catalog.rules
  placed : ∀ entry ∈ library.catalog.filed, ∀ rule ∈ entry.2, rule.bucket = .ok entry.1
  implemented : library.implementations = granted.filterMap Grant.named?

theorem Keeps.recorded {library : Library} {granted : List Grant} (keeps : library.Keeps granted)
    {request : Request} {type : MessageType}
    (fresh : ∀ rule ∈ library.catalog.rules, rule.id.same request.call.id = false) :
    request.recorded library.implementations
      = (granted ++ [Grant.mk (request.call.rule type) request.implementation]).filterMap Grant.named? := by
  rw [List.filterMap_append, Request.recorded, keeps.implemented]
  cases given : request.implementation with
  | none => exact (List.append_nil _).symm
  | some implementation =>
      -- a name under which something is recorded is the name of a listed rule, so this one is new
      apply Table.put_fresh
      intro entry member
      obtain ⟨grant, before, made⟩ := List.mem_filterMap.mp member
      obtain ⟨own, _, rfl⟩ := Option.map_eq_some_iff.mp made
      apply fresh grant.rule
      rw [keeps.listed]
      exact List.mem_map.mpr ⟨grant, before, rfl⟩

theorem Keeps.grant {library : Library} {granted : List Grant} (keeps : library.Keeps granted)
    {request : Request} {type : MessageType} {bucket : Bucket}
    (fresh : ∀ rule ∈ library.catalog.rules, rule.id.same request.call.id = false)
    (here : (request.call.rule type).bucket = .ok bucket)
    (applied : request.call.apply library.catalog
      = ⟨library.catalog.rules ++ [request.call.rule type],
          Association.set bucket (library.catalog.bucketRules bucket ++ [request.call.rule type])
            library.catalog.filed⟩) :
    Keeps ⟨request.call.apply library.catalog, request.recorded library.implementations⟩
      (granted ++ [⟨request.call.rule type, request.implementation⟩]) := by
  have coherent := keeps.coherent.apply request.call
  rw [applied] at coherent ⊢
  constructor
  case coherent => exact coherent
  case listed =>
      rw [List.map_append, ← keeps.listed]
      rfl
  case distinct => exact pairwise_fresh keeps.distinct fresh
  case separate => exact Association.nodup_set bucket _ keeps.separate
  case filed =>
      exact (Association.flatMap_set_append bucket _ library.catalog.filed).trans
        (keeps.filed.append_right _)
  case placed =>
      intro entry member rule listed
      -- the changed bucket held rules of its own before, and the new rule belongs there too
      rcases Association.mem_set member with rfl | old
      · rcases List.mem_append.mp listed with before | new
        · rw [keeps.coherent.filed] at before
          exact of_decide_eq_true (List.mem_filter.mp before).2
        · rw [List.mem_singleton.mp new]
          exact here
      · exact keeps.placed entry old rule listed
  case implemented => exact keeps.recorded fresh

/-- A library with what it has granted so far, in order. -/
structure History where
  library : Library := {}
  granted : List Grant := []

namespace History

def after (history : History) (request : Request) : History :=
  match request.answered history.library with
  | (.ok rule, library) => ⟨library, history.granted ++ [⟨rule, request.implementation⟩]⟩
  | (.error _, library) => ⟨library, history.granted⟩

/-- What becomes of a library that is empty at first. -/
def of (requests : List Request) : History := requests.foldl after {}

theorem keeps_after {history : History} (keeps : history.library.Keeps history.granted)
    (request : Request) :
    (history.after request).library.Keeps (history.after request).granted := by
  rw [History.after]
  rcases request.answered_cases history.library with
    ⟨fault, _, refused⟩ | ⟨type, bucket, checked, here, applied, done⟩
  · rw [refused]
    exact keeps
  · rw [done]
    exact keeps.grant (Catalog.check_eq_ok_iff.mp checked).1 here applied

theorem of_keeps (requests : List Request) :
    (History.of requests).library.Keeps (History.of requests).granted := by
  apply List.foldlRecOn requests after (motive := fun history => history.library.Keeps history.granted)
  · exact ⟨Catalog.built_coherent [], rfl, List.Pairwise.nil, List.nodup_nil, .nil,
      fun _ impossible => (List.not_mem_nil impossible).elim, rfl⟩
  · exact fun _ keeps request _ => keeps_after keeps request

end History

end Library

end SumProduct
