/-
The message that every entry of a resolved schedule stands for.

The message of an entry is said directly, by the role of its node and the messages of the entries it
refers to, without instructions and without a store.  A leaf has the message in its buffer, or its held
value; a rule is looked up by its name and carried out on what arrives.  A composite entry evaluates its
inner schedule as a whole, on data overlaid by what arrives at the terminals, and takes the message that
arrives at the terminal behind its slot: the one of the last inner entry for that message.

Nothing here is left to the machine.  Where it looks something up in its own way, a lemma says that it
finds what the evaluation means.
-/

import SumProduct.Program.Emission
import SumProduct.Program.Machine
import SumProduct.Proofs.Latest
import SumProduct.Proofs.Partial

set_option autoImplicit false

namespace SumProduct

open Partial (bind_eq_ok map_eq_ok)

/-- The place of the entry that a reference points to, which has to be an integer. -/
def Reference.place (reference : Reference) : Except Fault Nat :=
  match reference.toValue.toIndex? with
  | some (.ofNat place) => .ok place
  | _ => .error (.lapsed .wrongType)

theorem Reference.place_eq_ok {reference : Reference} {place : Nat} :
    reference.place = .ok place ↔ reference.toValue.toIndex? = some (place : Int) := by
  unfold Reference.place
  constructor
  · intro placed
    split at placed
    · rename_i found same
      cases placed
      exact same
    · cases placed
  · intro known
    rw [known]

/-! ### What is looked up -/

theorem Table.get?_eq_find? {β : Type} (table : Table β) (key : Key) :
    table.get? key = (table.find? fun entry => entry.1.normal = key.normal).map Prod.snd := rfl

namespace Machine

/-- What stands under the name of a buffer, or the item of it at an index. -/
def contents (data : Buffers) (buffer index : Value) : Except Fault Value := do
  let name ← buffer.key
  match data.find? fun entry => entry.1.normal = name.normal with
  | none => throw (.refused (.bufferNotFound buffer.literal))
  | some (_, whole) => if index.isAbsent then return whole else whole.item index

/-- What a buffer holds, as a message. -/
def delivered (data : Buffers) (buffer index : Value) : Except Fault Value := do
  return .message (← (← contents data buffer index).toMessage)

theorem read_eq (data : Buffers) (buffer index : Value) :
    data.read buffer index = contents data buffer index := by
  unfold Buffers.read contents
  cases buffer.key with
  | error fault => cases index <;> rfl
  | ok name =>
      simp only [Partial.ok_bind, Table.get?_eq_find?]
      cases data.find? fun entry => entry.1.normal = name.normal with
      | none => cases index <;> rfl
      | some entry => cases index <;> rfl

theorem observe_eq (data : Buffers) (buffer index : Value) :
    (data.observe buffer index).map .message = delivered data buffer index := by
  rw [Buffers.observe, read_eq, delivered]
  cases contents data buffer index with
  | error fault => rfl
  | ok value => rfl

/-- The buffer that a constant is fed from, if its graph names one for it. -/
def source? (network : Network) (node : Node) : Option Placeholder :=
  ((network.graph node.graph).placeholders.find? fun entry =>
    entry.1.normal = node.id.normal).map Prod.snd

theorem placeholder?_eq (network : Network) (key : NodeKey) :
    network.placeholder? key = source? network (network.node key) := Table.get?_eq_find? _ _

/-- The implementation that stands under the name of a rule. -/
def ruleNamed (machine : Machine) (rule : Value) : Except Fault Implementation := do
  let name ← rule.key
  match machine.implementations.find? fun entry => entry.1.normal = name.normal with
  | none => throw (.refused (.noImplementation rule.literal))
  | some (_, implementation) => return implementation

theorem implementation_eq (machine : Machine) (rule : Value) :
    machine.implementation rule = machine.ruleNamed rule := by
  unfold implementation ruleNamed
  cases rule.key with
  | error fault => rfl
  | ok name =>
      simp only [Partial.ok_bind, Table.get?_eq_find?]
      cases machine.implementations.find? fun entry => entry.1.normal = name.normal with
      | none => rfl
      | some entry => rfl

/-- The place of the inner entry whose message a composite entry has: the last one that computes the
message toward the terminal behind the slot. -/
def resultPlace? (network : Network) (entry : Entry) : Option Nat := do
  let terminal ← (network.node entry.socket.node).terminals[entry.socket.slot]?
  let partner ← network.partner? ⟨terminal, 0⟩
  Schedule.lastPlace (entry.inner.getD []) partner

theorem resultPlace?_eq_some {network : Network} {entry : Entry} {inner : Schedule} {result : Nat}
    (held : entry.inner = some inner)
    (located : Resolver.resultIndex? network (network.node entry.socket.node) entry.socket.slot inner
      = some result) : resultPlace? network entry = some result := by
  have searched : Schedule.lastPlace inner = Schedule.indexOf inner :=
    funext fun socket => Schedule.lastPlace_eq inner socket
  rw [resultPlace?, held, Option.getD_some, searched]
  exact located

/-! ### What an entry stands for -/

/-- What arrives through a reference; nothing arrives without one. -/
def arrival (earlier : Reference → Except Fault Value) : Option Reference → Except Fault Value
  | none => .ok .absent
  | some reference => earlier reference

def feed (network : Network) (earlier : Reference → Except Fault Value) (buffers : Buffers) :
    NodeKey × Option Reference → Except Fault Buffers
  | (_, none) => .ok buffers
  | (terminal, some reference) => do
    return Table.put (network.node terminal).id (← earlier reference) buffers

def overlaid (machine : Machine) (earlier : Reference → Except Fault Value) (data : Buffers)
    (entry : Entry) : Except Fault Buffers :=
  (((machine.network.node entry.socket.node).terminals.eraseIdx entry.socket.slot).zip
    entry.inbounds).foldlM (feed machine.network earlier) data

/-- The message of a composite entry: the one that its inner schedule sends to the terminal behind
the slot. -/
def evaluateInner (machine : Machine) (earlier : Reference → Except Fault Value)
    (inner : Buffers → Except Fault (List Value)) (data : Buffers) (entry : Entry) :
    Except Fault Value := do
  let messages ← inner (← machine.overlaid earlier data entry)
  match (resultPlace? machine.network entry).bind fun place => messages[place]? with
  | some message => return message
  | none => throw (.lapsed .wrongType)

/-- The message that the rule of an entry computes; only approximations are given the marginals. -/
def evaluateRule (machine : Machine) (prior : Marginals) (earlier : Reference → Except Fault Value)
    (entry : Entry) : Except Fault Value := do
  let implementation ← machine.ruleNamed (entry.rule.getD .absent)
  let arriving ← entry.inbounds.mapM (arrival earlier)
  implementation ⟨machine.network, some entry.socket.node⟩ arriving
    (if entry.approximation.isSome then some prior else none)

/-- The message of an entry, given those of earlier entries and how inner schedules are evaluated. -/
def evaluateEntry (machine : Machine) (prior : Marginals) (earlier : Reference → Except Fault Value)
    (inner : Buffers → Except Fault (List Value)) (data : Buffers) (entry : Entry) :
    Except Fault Value :=
  let node := machine.network.node entry.socket.node
  match node.role with
  | .terminal => delivered data node.id.toValue .absent
  | .constant held =>
    match source? machine.network node with
    | some binding => delivered data binding.buffer binding.index
    | none => held.toMessage.map .message
  | _ =>
    match node.innerSchedule? entry.socket.slot with
    | some _ => machine.evaluateInner earlier inner data entry
    | none => machine.evaluateRule prior earlier entry

theorem sizeOf_inner_lt {schedule inner : Schedule} {index : Nat} {entry : Entry}
    (present : schedule[index]? = some entry) (held : entry.inner = some inner) :
    sizeOf inner < sizeOf schedule := by
  have smaller := List.sizeOf_lt_of_mem (List.mem_of_getElem? present)
  cases entry with
  | mk socket inbounds outbound approximation rule status content pinned =>
      cases held
      simp only [Entry.mk.sizeOf_spec, Option.some.sizeOf_spec] at smaller
      omega

def message (machine : Machine) (prior : Marginals) (data : Buffers) (schedule : Schedule)
    (index : Nat) : Except Fault Value :=
  match _present : schedule[index]? with
  | none => .error (.lapsed .outOfRange)
  | some entry =>
    machine.evaluateEntry prior
      (fun reference => do
        let place ← reference.place
        if _before : place < index then machine.message prior data schedule place
        else throw (.lapsed .outOfRange))
      (fun buffers => match _held : entry.inner with
        | none => .error (.lapsed .wrongType)
        | some inner =>
          (List.range inner.length).mapM fun place => machine.message prior buffers inner place)
      data entry
termination_by (sizeOf schedule, index)
decreasing_by
  · exact Prod.Lex.right _ _before
  · exact Prod.Lex.left _ _ (sizeOf_inner_lt _present _held)

def messages (machine : Machine) (prior : Marginals) (data : Buffers) (schedule : Schedule) :
    Except Fault (List Value) :=
  (List.range schedule.length).mapM (machine.message prior data schedule)

/-- The message that leaves a socket: the one of the last entry that computes it. -/
def sent (schedule : Schedule) (values : List Value) (socket : Socket) : Except Fault Value :=
  match (schedule.lastPlace socket).bind fun place => values[place]? with
  | some value => .ok value
  | none => .error (.lapsed .outOfRange)

theorem sent_eq {schedule : Schedule} {values : List Value} {socket : Socket} {place : Nat} {value : Value}
    (located : schedule.indexOf socket = some place) (held : values[place]? = some value) :
    sent schedule values socket = .ok value := by
  rw [sent, Schedule.lastPlace_eq, located, Option.bind_some, held]

def combined (machine : Machine) (schedule : Schedule) (values : List Value) (edge : Edge) :
    Except Fault Value := do
  machine.product (← sent schedule values edge.first) (← sent schedule values edge.second)

/-- The marginal of a variable, from its first edge. -/
def marginal (machine : Machine) (schedule : Schedule) (values : List Value) (target : VariableKey) :
    Except Fault Value :=
  match (machine.network.var target).edges with
  | [] => .error (.lapsed .outOfRange)
  | key :: _ => machine.combined schedule values (machine.network.edge key)

/-- The marginals of the targets in order, up to the first failure. -/
def conclude (machine : Machine) (schedule : Schedule) (values : List Value) :
    Marginals → List VariableKey → Outcome
  | marginals, [] => ⟨marginals, .ok values⟩
  | marginals, target :: rest =>
    match machine.marginal schedule values target with
    | .ok marginal => machine.conclude schedule values
        (Table.put (machine.network.var target).id marginal marginals) rest
    | .error fault => ⟨marginals, .error fault⟩

/-- All messages of a schedule, and the marginals of the targets. -/
def evaluation (machine : Machine) (schedule : Schedule) (targets : List VariableKey)
    (data : Buffers) (prior : Marginals) : Outcome :=
  match machine.messages prior data schedule with
  | .ok values => machine.conclude schedule values prior targets
  | .error fault => ⟨prior, .error fault⟩

def arrivingMessage (machine : Machine) (prior : Marginals) (data : Buffers) (schedule : Schedule)
    (index : Nat) (reference : Reference) : Except Fault Value := do
  let place ← reference.place
  if place < index then machine.message prior data schedule place else throw (.lapsed .outOfRange)

def innerMessages (machine : Machine) (prior : Marginals) (entry : Entry) (buffers : Buffers) :
    Except Fault (List Value) :=
  match entry.inner with
  | none => .error (.lapsed .wrongType)
  | some inner => machine.messages prior buffers inner

section Message

variable {machine : Machine} {prior : Marginals} {data : Buffers} {schedule : Schedule} {index : Nat}
  {entry : Entry} {value : Value}

theorem message_eq (present : schedule[index]? = some entry) :
    machine.message prior data schedule index
      = machine.evaluateEntry prior (machine.arrivingMessage prior data schedule index)
          (machine.innerMessages prior entry) data entry := by
  rw [message]
  split
  · rename_i missing
    rw [present] at missing
    cases missing
  · rename_i other found
    rw [present] at found
    cases found
    congr 1
    funext buffers
    unfold innerMessages messages
    split
    · rename_i nothing
      rw [nothing]
    · rename_i inner held
      rw [held]

theorem evaluateEntry_inner {earlier : Reference → Except Fault Value}
    {inner : Buffers → Except Fault (List Value)}
    (inward : (machine.network.node entry.socket.node).isLeaf = false)
    (scheduled : ((machine.network.node entry.socket.node).innerSchedule?
      entry.socket.slot).isSome = true) :
    machine.evaluateEntry prior earlier inner data entry
      = machine.evaluateInner earlier inner data entry := by
  obtain ⟨template, found⟩ := Option.isSome_iff_exists.mp scheduled
  unfold evaluateEntry
  cases role : (machine.network.node entry.socket.node).role with
  | terminal | constant _ =>
      simp only [Node.isLeaf, role] at inward
      cases inward
  | factor | gain _ | composite _ _ _ => simp only [role, found]

theorem evaluateEntry_rule {earlier : Reference → Except Fault Value}
    {inner : Buffers → Except Fault (List Value)}
    (inward : (machine.network.node entry.socket.node).isLeaf = false)
    (plain : (machine.network.node entry.socket.node).innerSchedule? entry.socket.slot = none) :
    machine.evaluateEntry prior earlier inner data entry
      = machine.evaluateRule prior earlier entry := by
  unfold evaluateEntry
  cases role : (machine.network.node entry.socket.node).role with
  | terminal | constant _ =>
      simp only [Node.isLeaf, role] at inward
      cases inward
  | factor | gain _ | composite _ _ _ => simp only [role, plain]

/-- No implementation answers with an absent value. -/
def AlwaysAnswers (machine : Machine) : Prop :=
  ∀ name implementation, (name, implementation) ∈ machine.implementations →
    ∀ site arriving marginals, implementation site arriving marginals ≠ .ok .absent

theorem implementation_mem {rule : Value} {implementation : Implementation}
    (found : machine.ruleNamed rule = .ok implementation) :
    ∃ name, (name, implementation) ∈ machine.implementations := by
  obtain ⟨key, _, found⟩ := bind_eq_ok.mp found
  split at found
  · cases found
  · rename_i name other present
    cases found
    exact ⟨name, List.mem_of_find?_eq_some present⟩

theorem message_is_present {source : Except Fault Message}
    (mapped : source.map Value.message = .ok value) : value ≠ .absent := by
  intro absent
  obtain ⟨held, _, same⟩ := map_eq_ok.mp mapped
  rw [absent] at same
  cases same

theorem delivered_present {buffer place : Value} (made : delivered data buffer place = .ok value) :
    value ≠ .absent := message_is_present ((observe_eq data buffer place).trans made)

/-- A leaf has a message. -/
theorem evaluateEntry_leaf {earlier : Reference → Except Fault Value}
    {inner : Buffers → Except Fault (List Value)}
    (outward : (machine.network.node entry.socket.node).isLeaf = true)
    (evaluated : machine.evaluateEntry prior earlier inner data entry = .ok value) :
    value ≠ .absent := by
  unfold evaluateEntry at evaluated
  cases role : (machine.network.node entry.socket.node).role with
  | terminal =>
      simp only [role] at evaluated
      exact delivered_present evaluated
  | constant held =>
      simp only [role] at evaluated
      split at evaluated
      · exact delivered_present evaluated
      · exact message_is_present evaluated
  | factor | gain _ | composite _ _ _ =>
      simp only [Node.isLeaf, role] at outward
      cases outward

theorem evaluateEntry_present (answers : machine.AlwaysAnswers)
    {earlier : Reference → Except Fault Value} {inner : Buffers → Except Fault (List Value)}
    (inwards : ∀ buffers values, inner buffers = .ok values → .absent ∉ values)
    (evaluated : machine.evaluateEntry prior earlier inner data entry = .ok value) :
    value ≠ .absent := by
  cases outward : (machine.network.node entry.socket.node).isLeaf with
  | true => exact evaluateEntry_leaf outward evaluated
  | false =>
      cases scheduled : (machine.network.node entry.socket.node).innerSchedule? entry.socket.slot with
      | some template =>
          rw [evaluateEntry_inner outward (by rw [scheduled]; rfl)] at evaluated
          obtain ⟨buffers, _, evaluated⟩ := bind_eq_ok.mp evaluated
          obtain ⟨values, within, evaluated⟩ := bind_eq_ok.mp evaluated
          split at evaluated
          · rename_i found
            cases evaluated
            obtain ⟨place, _, here⟩ := Option.bind_eq_some_iff.mp found
            intro absent
            rw [absent] at here
            exact inwards buffers values within (List.mem_of_getElem? here)
          · cases evaluated
      | none =>
          rw [evaluateEntry_rule outward scheduled] at evaluated
          obtain ⟨implementation, found, evaluated⟩ := bind_eq_ok.mp evaluated
          obtain ⟨arriving, _, evaluated⟩ := bind_eq_ok.mp evaluated
          obtain ⟨name, member⟩ := implementation_mem found
          intro absent
          rw [absent] at evaluated
          exact answers name implementation member _ _ _ evaluated

theorem message_present (answers : machine.AlwaysAnswers)
    (evaluated : machine.message prior data schedule index = .ok value) : value ≠ .absent := by
  induction measured : sizeOf schedule using Nat.strongRecOn generalizing data schedule index value with
  | ind size ih =>
      cases present : schedule[index]? with
      | none =>
          rw [message] at evaluated
          split at evaluated
          · cases evaluated
          · rename_i entry found
            rw [present] at found
            cases found
      | some entry =>
          rw [message_eq present] at evaluated
          refine evaluateEntry_present answers ?_ evaluated
          intro buffers values within absent
          unfold innerMessages at within
          split at within
          · cases within
          · rename_i inner held
            have smaller : sizeOf inner < size := measured ▸ sizeOf_inner_lt present held
            obtain ⟨place, _, computed⟩ :=
              Partial.exists_of_mem_right (Partial.mapM_eq_ok.mp within) absent
            exact ih (sizeOf inner) smaller computed rfl rfl

end Message

end Machine

end SumProduct
