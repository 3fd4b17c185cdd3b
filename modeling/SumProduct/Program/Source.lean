/-
A program as the text of a procedure, and single instructions as text.

The procedure takes data and marginals and returns marginals.  It has four header lines, one line
per instruction, an empty line and a line that returns the result.
-/

import SumProduct.Network.Basic
import SumProduct.Program.Written

set_option autoImplicit false

namespace SumProduct

open Text (quote joinWith)

/-- A message slot, or the mark of an absent message. -/
def slotText (slot : Slot) : String :=
  if slot.isAbsent then slot.literal else "messages[" ++ slot.plain ++ "]"

/-- Values inside a procedure: messages as calls that build them, others as literals.  A message of
no family cannot be built. -/
def sourceLiteral : Value → Except Fault String
  | .message .bare => .error (.lapsed .wrongType)
  | .message message => .ok message.constructor
  | .array tensor => .ok ("np.array(" ++ tensor.literal ++ ")")
  | value => .ok value.literal

/-! ### Right-hand sides -/

def readCall (buffer index : Value) : String :=
  let whole := "data[" ++ buffer.literal ++ "]"
  "as_message(" ++ (match index with
    | .absent => whole
    | _ => whole ++ "[" ++ index.plain ++ "]") ++ ")"

def ruleCall (rule : Value) (node : Key) (inbounds : List Slot) (approximation : Option Method) :
    String :=
  "rule(" ++ joinWith ", " ([rule.literal, node.literal] ++ inbounds.map slotText
    ++ (if approximation.isSome then ["marginals=marginals"] else [])) ++ ")"

def innerCall (node : Value) (feeds : List (Value × Slot)) (result : Slot) : String :=
  "inner(" ++ node.literal ++ ", \x7b" ++ joinWith ", " (feeds.map fun feed =>
    feed.1.literal ++ ": " ++ slotText feed.2) ++ "\x7d)[" ++ result.plain ++ "]"

def productCall (first second : Slot) : String :=
  "product(" ++ slotText first ++ ", " ++ slotText second ++ ")"

/-! ### Lines -/

def messageLine (target : Slot) (call : String) : String :=
  "    messages[" ++ target.plain ++ "] = " ++ call

def marginalLine (name : Value) (call : String) : String :=
  "    marginals[" ++ name.literal ++ "] = " ++ call

def Form.sourceLine (network : Network) (form : Form) : Except Fault String :=
  match form.operation with
  | .injectData => do
    let index ← form.value "index"
    return messageLine form.target (readCall (← form.value "buffer") index)
  | .injectConstant => do
    return messageLine form.target (← sourceLiteral (← form.value "value"))
  | .applyRule => do
    let rule ← form.value "rule"
    let node ← form.node
    let inbounds ← form.elements "inbounds"
    let approximation ← form.approximation
    return messageLine form.target (ruleCall rule (network.node node).id inbounds approximation)
  | .invokeInner => do
    let feeds ← (← form.elements "terminals").mapM Value.pair
    let node ← form.value "node"
    return messageLine form.target (innerCall node feeds (← form.value "result"))
  | .combineMarginal => do
    let (first, second) ← form.sources
    return marginalLine (← form.value "variable") (productCall first second)
  | .unknown name => .error (.refused (.unknownOperation name.plain))

def Instruction.sourceLine (network : Network) : Instruction → Except Fault String
  | injectData target buffer index => .ok (messageLine target (readCall buffer index))
  | injectConstant target value => do return messageLine target (← sourceLiteral value)
  | applyRule target rule node inbounds approximation =>
    .ok (messageLine target (ruleCall rule (network.node node).id inbounds approximation))
  | invokeInner target node _ _ terminals result =>
    .ok (messageLine target (innerCall node.toValue
      (terminals.map fun feed => (feed.1.toValue, feed.2)) result))
  | combineMarginal name first second =>
    .ok (marginalLine name.toValue (productCall first second))
  | written form _ _ => form.sourceLine network

/-- The procedure of a program under a given name. -/
def Program.source (network : Network) (program : Program) (name : String) :
    Except Fault String := do
  let lines ← program.instructions.mapM (Instruction.sourceLine network)
  let header := ["def " ++ name ++ "(data, marginals=None):",
    "    marginals = dict(marginals or \x7b\x7d)",
    "    messages = [None] * " ++ program.messages.plain,
    ""]
  return joinWith "\n" (header ++ lines ++ ["", "    return marginals"]) ++ "\n"

/-! ### Single instructions -/

/-- Items in parentheses; a single item keeps a comma behind it. -/
def tupleText : List String → String
  | [item] => "(" ++ item ++ ",)"
  | items => "(" ++ joinWith ", " items ++ ")"

def describeWith (operation : String) (target : Slot) (arguments : List (String × String)) :
    String :=
  "Instruction(" ++ operation ++ ", dst=" ++ target.plain ++ ", args=\x7b"
    ++ joinWith ", " (arguments.map fun argument => quote argument.1 ++ ": " ++ argument.2) ++ "\x7d)"

def programText (instructions : List String) (messages : Value) : String :=
  "Program(instructions=" ++ tupleText instructions ++ ", n_messages=" ++ messages.literal ++ ")"

/-- An argument; `inner` is the text of the inner program. -/
def Argument.text (network : Network) (inner : String) : Argument → String
  | value held => held.literal
  | offered (.node key) => (network.node key).text
  | offered (.other text) => text
  | program => inner

namespace Instruction

mutual

/-- An instruction with all its arguments, in the order of emission or as they were written.  An
unknown operation has no name to show. -/
def describe (network : Network) : Instruction → Except Fault String
  | injectData target buffer index => .ok (describeWith "INJECT_DATA" target
      [("buffer", buffer.literal), ("index", index.literal)])
  | injectConstant target value => .ok (describeWith "INJECT_CONSTANT" target
      [("value", value.literal)])
  | applyRule target rule node inbounds approximation => .ok (describeWith "APPLY_RULE" target
      [("rule", rule.literal), ("node", (network.node node).text),
       ("inbounds", tupleText (inbounds.map Value.literal)),
       ("approximation", ((approximation.map Method.toValue).getD .absent).literal)])
  | invokeInner target node body messages terminals result => do
    let inner ← describeAll network body
    return describeWith "INVOKE_INNER" target
      [("node", node.literal), ("program", programText inner messages),
       ("terminals", tupleText (terminals.map fun feed =>
         "(" ++ feed.1.literal ++ ", " ++ feed.2.literal ++ ")")),
       ("result", result.literal)]
  | combineMarginal name first second => .ok (describeWith "COMBINE_MARGINAL" .absent
      [("variable", name.literal), ("srcs", tupleText [first.literal, second.literal])])
  | written form body messages => do
    let some operation := form.operation.name? | throw (.lapsed .missingAttribute)
    let inner ← describeAll network body
    return describeWith operation form.target (form.arguments.map fun argument =>
      (argument.1, argument.2.text network (programText inner messages)))

def describeAll (network : Network) : List Instruction → Except Fault (List String)
  | [] => .ok []
  | instruction :: rest => do
    let first ← instruction.describe network
    let others ← describeAll network rest
    return first :: others

end

end Instruction

def Program.text (network : Network) (program : Program) : Except Fault String :=
  (Instruction.describeAll network program.instructions).map fun texts =>
    programText texts program.messages

def Program.describe (network : Network) (program : Program) (index : Int) : Except Fault String :=
  match (Value.place? program.instructions.length index).bind fun place =>
    program.instructions[place]? with
  | some instruction => instruction.describe network
  | none => .error (.lapsed .outOfRange)

end SumProduct
