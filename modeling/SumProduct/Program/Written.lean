/-
Reading the arguments of instructions that were written by hand.

An argument is read when it is needed and not before.  What is to be gone through may be a list, a
text or a record.
-/

import SumProduct.Program.Basic

set_option autoImplicit false

namespace SumProduct.Form

/-- An argument that has to be there. -/
def argument (form : Form) (name : String) : Except Fault Argument :=
  match form.arguments.lookup name with
  | some argument => .ok argument
  | none => .error (.lapsed (.missingKey (Text.quote name)))

def value (form : Form) (name : String) : Except Fault Value := do
  match ← form.argument name with
  | .value held => return held
  | _ => throw (.lapsed .wrongType)

def elements (form : Form) (name : String) : Except Fault (List Value) := do
  (← form.value name).elements

/-- The node that is given; something else has no name. -/
def node (form : Form) : Except Fault NodeKey := do
  match (← form.argument "node").node? with
  | some key => return key
  | none => throw (.lapsed .missingAttribute)

/-- The inner program has to be one. -/
def checkProgram (form : Form) : Except Fault Unit := do
  match ← form.argument "program" with
  | .program => return ()
  | _ => throw (.lapsed .missingAttribute)

def approximation (form : Form) : Except Fault (Option Method) := do
  return Method.ofValue (← form.value "approximation")

def sources (form : Form) : Except Fault (Slot × Slot) := do
  (← form.value "srcs").pair

end SumProduct.Form
