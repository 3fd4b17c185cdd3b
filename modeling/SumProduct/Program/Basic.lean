/-
Programs: what a resolved schedule is compiled to.

An instruction writes one message slot, or for a marginal the table of marginals.  Slots are numbered
like schedule entries; negative numbers count from the end.  The program of an inner schedule is part
of the instruction that runs it.

A program may also be written by hand.  Its instructions are kept in the form in which they were
written: any value may stand where a slot belongs, and an argument that is missing or does not fit
matters only when it is read.
-/

import SumProduct.Schedule.Basic

set_option autoImplicit false

namespace SumProduct

/-- A reference to a message slot: its number, or an absent value where there is no message. -/
abbrev Slot := Value

inductive Operation where
  | injectData
  | injectConstant
  | applyRule
  | invokeInner
  | combineMarginal
  | unknown (name : Value)
  deriving Inhabited

namespace Operation

def name? : Operation → Option String
  | injectData => some "INJECT_DATA"
  | injectConstant => some "INJECT_CONSTANT"
  | applyRule => some "APPLY_RULE"
  | invokeInner => some "INVOKE_INNER"
  | combineMarginal => some "COMBINE_MARGINAL"
  | unknown _ => none

def ofValue (name : Value) : Operation :=
  ([injectData, injectConstant, applyRule, invokeInner, combineMarginal].find? fun operation =>
    operation.name?.any name.isText).getD (unknown name)

end Operation

inductive Argument where
  | value (value : Value)
  | offered (offer : Offer)
  /-- The inner program, which stands beside the arguments. -/
  | program
  deriving Inhabited

def Argument.node? : Argument → Option NodeKey
  | offered (.node key) => some key
  | _ => none

/-- An instruction as it was written: its operation, the slot it writes and its arguments by name. -/
structure Form where
  operation : Operation
  target : Slot
  arguments : List (String × Argument)
  deriving Inhabited

inductive Instruction where
  | injectData (target : Slot) (buffer index : Value)
  | injectConstant (target : Slot) (value : Value)
  | applyRule (target : Slot) (rule : Value) (node : NodeKey) (inbounds : List Slot)
      (approximation : Option Method)
  | invokeInner (target : Slot) (node : Key) (body : List Instruction) (messages : Value)
      (terminals : List (Key × Slot)) (result : Slot)
  | combineMarginal (name : Key) (first second : Slot)
  /-- Anything written by hand, with the inner program if there is one. -/
  | written (form : Form) (body : List Instruction) (messages : Value)
  deriving Inhabited

structure Program where
  instructions : List Instruction
  messages : Value
  deriving Inhabited

def Instruction.target : Instruction → Slot
  | injectData target _ _ | injectConstant target _ | applyRule target _ _ _ _
  | invokeInner target _ _ _ _ _ => target
  | combineMarginal _ _ _ => .absent
  | written form _ _ => form.target

end SumProduct
