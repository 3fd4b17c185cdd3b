/-
Reports: rules, schedules, programs and failures as records.

A report can be written as a document.  Types, statuses and sockets stand in it by their names,
messages as they are.
-/

import SumProduct.Program.Emission
import SumProduct.Rules.Library

set_option autoImplicit false

namespace SumProduct

/-- Things that can be part of a report. -/
class Reported (α : Type) where
  report : α → Value

open Reported (report)

variable {α β : Type} [Reported α] [Reported β]

instance : Reported Value where
  report := id

instance : Reported String where
  report := .text

instance : Reported Bool where
  report := .flag

instance : Reported Int where
  report := .whole

instance : Reported Nat where
  report number := .whole number

instance : Reported Key where
  report := Key.toValue

instance : Reported Message where
  report := .message

instance : Reported Method where
  report := Method.toValue

instance : Reported Reference where
  report := Reference.toValue

instance : Reported Pattern where
  report pattern := .text pattern.text

instance : Reported Described where
  report type := .text type.text

/-- Nothing is reported as an absent value. -/
instance : Reported (Option α) where
  report thing := (thing.map report).getD .absent

instance : Reported (List α) where
  report things := .list (things.map report)

/-- Pairs are reported as lists of two. -/
instance : Reported (α × β) where
  report pair := .list [report pair.1, report pair.2]

/-- Fields of a record. -/
abbrev Fields := List (String × Value)

def field (name : String) (content : α) : String × Value := (name, report content)

/-- A free parameter is told from a number by a record around its name. -/
instance : Reported Param where
  report
    | .number value => .whole value
    | .free name => .record [field "param" name]

instance : Reported Rule where
  report rule := .record [field "id" rule.id, field "kind" rule.kind, field "slot" rule.slot,
    field "inbound" (rule.inbound.map arrivingText), field "outbound" rule.outbound.text,
    field "category" rule.category.text, field "approximation" rule.approximation,
    field "requires" (rule.requirements.map Requirement.toValue)]

instance : Reported Placeholder where
  report binding := .list [binding.buffer, binding.index]

/-! ### Failures -/

/-- What is known about a compilation failure, and what failures of its class are about. -/
def CompileFault.report (fault : CompileFault) : Fields :=
  [field "message" fault.text, field "entry_index" fault.entryIndex, field "node_id" fault.nodeId,
   field "inbound_types" fault.inboundTypes]
  ++ match fault.cause.family with
    | .ambiguousRule => [field "outbound_types" fault.cause.candidates]
    | .unresolvedParameter => [field "parameter" fault.cause.parameter?]
    | .invalidPin => [field "pinned" fault.cause.pinned?]
    | .incompleteSchedule => [field "variable_id" fault.cause.target?]
    | _ => []

/-! ### Schedules -/

mutual

def Network.entryReport (network : Network) : Entry → Fields
  | ⟨socket, inbounds, outbound, approximation, rule, status, inner, pinned⟩ =>
    [field "at" (network.socketName socket), field "slot" socket.slot, field "inbounds" inbounds,
     field "type" outbound, field "pinned" pinned, field "approximation" approximation,
     field "rule" rule, field "resolution" status.text,
     ("inner", innerReport network inner)]

/-- The entries of an inner schedule, if there is one. -/
def Network.innerReport (network : Network) : Option (List Entry) → Value
  | none => .absent
  | some entries => .list (entryReports network entries)

def Network.entryReports (network : Network) : List Entry → List Value
  | [] => []
  | entry :: rest => .record (entryReport network entry) :: entryReports network rest

end

def Network.scheduleReport (network : Network) (schedule : Schedule) : Fields :=
  [field "entries" (network.entryReports schedule), field "text" (network.scheduleText schedule),
   field "resolved" schedule.isResolved]

/-! ### Programs -/

/-- A program with the reports of its instructions. -/
def programFields (instructions : List Value) (messages : Value) : Fields :=
  [field "n_messages" messages, field "instructions" instructions]

mutual

/-- An instruction with its operation, its target and its arguments.  What was written by hand is not
reported. -/
def Network.instructionReport (network : Network) : Instruction → Value
  | .injectData target buffer index => .record [field "op" "INJECT_DATA", field "dst" target,
      field "buffer" buffer, field "index" index]
  | .injectConstant target value => .record [field "op" "INJECT_CONSTANT", field "dst" target,
      field "value" value]
  | .applyRule target rule node inbounds approximation => .record [field "op" "APPLY_RULE",
      field "dst" target, field "rule" rule, field "node" (network.node node).id,
      field "inbounds" inbounds, field "approximation" approximation]
  | .invokeInner target node body messages terminals result => .record [field "op" "INVOKE_INNER",
      field "dst" target, field "node" node,
      ("program", .record (programFields (instructionReports network body) messages)),
      field "terminals" terminals, field "result" result]
  | .combineMarginal name first second => .record [field "op" "COMBINE_MARGINAL",
      field "dst" Value.absent, field "variable" name, field "srcs" [first, second]]
  | .written .. => .absent

def Network.instructionReports (network : Network) : List Instruction → List Value
  | [] => []
  | instruction :: rest =>
    instructionReport network instruction :: instructionReports network rest

end

def Network.programReport (network : Network) (program : Program) : Fields :=
  programFields (network.instructionReports program.instructions) program.messages

end SumProduct
