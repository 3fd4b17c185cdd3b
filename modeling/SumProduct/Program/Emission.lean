/-
Emission: the program of a resolved schedule.

Every entry becomes one instruction that writes the slot of the entry's index.  One instruction per
requested variable follows, which multiplies the two messages on the first edge of the variable; the
slots of these are noted while the entries are emitted.
-/

import SumProduct.Program.Basic
import SumProduct.Schedule.Resolution

set_option autoImplicit false

namespace SumProduct.Emission

/-- The slot of a reference, which has to point to an earlier entry. -/
def checkedInbound (network : Network) (index : Nat) (entry : Entry) :
    Option Reference → Except Fault Slot
  | none => .ok .absent
  | some reference => do
    if ← reference.isBefore index then return reference.toValue
    else throw (.compile {
      cause := .referenceOrder reference.text
      entryIndex := some (.whole index)
      nodeId := some (network.node entry.socket.node).id })

def checkedInbounds (network : Network) (index : Nat) (entry : Entry) :
    Except Fault (List Slot) :=
  entry.inbounds.mapM (checkedInbound network index entry)

/-- A terminal reads the buffer of its own name, a placeholder its buffer, a constant its value. -/
def leafInstruction (network : Network) (index : Nat) (entry : Entry) : Except Fault Instruction :=
  let node := network.node entry.socket.node
  if node.isTerminal then .ok (.injectData (.whole index) node.id.toValue .absent)
  else
    match network.placeholder? entry.socket.node with
    | some binding => .ok (.injectData (.whole index) binding.buffer binding.index)
    | none => do
      let message ← (← node.held).toMessage
      return .injectConstant (.whole index) (.message message)

def terminalFeeds (network : Network) (node : Node) (slot : Nat) (inbounds : List Slot) :
    List (Key × Slot) :=
  (((node.terminals.eraseIdx slot).zip inbounds).filter fun pair => !pair.2.isAbsent).map fun pair =>
    ((network.node pair.1).id, pair.2)

def innerInstruction (network : Network) (index : Nat) (entry : Entry) (inner : Schedule)
    (body : List Instruction) : Except Fault Instruction := do
  let node := network.node entry.socket.node
  if !node.isComposite then throw (.lapsed .missingAttribute)
  let feeds := terminalFeeds network node entry.socket.slot (← checkedInbounds network index entry)
  match Resolver.resultIndex? network node entry.socket.slot inner with
  | some result =>
    return .invokeInner (.whole index) node.id body (.whole inner.length) feeds (.whole result)
  | none => throw (.lapsed .wrongType)

def ruleInstruction (network : Network) (index : Nat) (entry : Entry) :
    Except Fault Instruction := do
  let inbounds ← checkedInbounds network index entry
  let rule := entry.rule.getD .absent
  return .applyRule (.whole index) rule entry.socket.node inbounds entry.approximation

mutual

def entryInstruction (network : Network) (index : Nat) : Entry → Except Fault Instruction
  | ⟨socket, inbounds, outbound, approximation, rule, status, inner, pinned⟩ =>
    let entry : Entry := ⟨socket, inbounds, outbound, approximation, rule, status, inner, pinned⟩
    match status with
    | .unresolved => .error (.compile {
        cause := .entryUnresolved
        entryIndex := some (.whole index)
        nodeId := some (network.node socket.node).id })
    | .leaf => leafInstruction network index entry
    | .composite => do
      let body ← innerBody network inner
      innerInstruction network index entry (inner.getD []) body
    | _ => ruleInstruction network index entry

/-- The instructions of an inner schedule, which has to be there. -/
def innerBody (network : Network) : Option (List Entry) → Except Fault (List Instruction)
  | none => .error (.lapsed .wrongType)
  | some schedule => do return (← emitEntries network 0 [] schedule).1

/-- The instructions of entries, the first of which has the given index, and the slots of all messages
noted so far. -/
def emitEntries (network : Network) (first : Nat) (noted : SocketIndex) :
    List Entry → Except Fault (List Instruction × SocketIndex)
  | [] => .ok ([], noted)
  | entry :: rest => do
    let instruction ← entryInstruction network first entry
    let later ← emitEntries network (first + 1) (noted.note entry.socket first) rest
    return (instruction :: later.1, later.2)

end

/-- The instruction for the marginal of a variable, taken from its first edge, given the slots of the
messages. -/
def marginalInstruction (network : Network) (slots : SocketIndex) (target : VariableKey) :
    Except Fault Instruction :=
  let contents := network.var target
  match contents.edges with
  | [] => .error (.ofCause (.uncarriedVariable contents.id))
  | key :: _ =>
    let edge := network.edge key
    match slots.lookup edge.first, slots.lookup edge.second with
    | some first, some second => .ok (.combineMarginal contents.id (.whole first) (.whole second))
    | _, _ =>
      let missing := [edge.first, edge.second].filter fun socket => (slots.lookup socket).isNone
      .error (.ofCause (.missingDirections contents.id (network.socketText edge.first)
        (network.socketText edge.second) (missing.map network.socketText)))

/-- The program of a resolved schedule that also computes the marginals of the given variables. -/
def program (network : Network) (schedule : Schedule) (targets : List VariableKey) :
    Except Fault Program := do
  let (body, slots) ← emitEntries network 0 [] schedule
  let marginals ← targets.mapM (marginalInstruction network slots)
  return { instructions := body ++ marginals, messages := .whole schedule.length }

end SumProduct.Emission
