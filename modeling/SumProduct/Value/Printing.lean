/-
Written forms of values and messages.

`Value.literal` is the form in which values appear in messages to the user.  `Message.display` shows
a distribution with its parameters; `Message.constructor` writes the call that builds it again.
-/

import SumProduct.Tensor.Printing
import SumProduct.Value.Basic

set_option autoImplicit false

namespace SumProduct

open Text (quote joinWith)

def Quantity.display : Quantity Float → String
  | .scalar value => Number.text value
  | .array tensor => tensor.display

/-- A family name with its parameters behind it. -/
def Message.written (parameter : Quantity Float → String) (message : Message) : String :=
  message.familyName ++ "(" ++ joinWith ", " (message.fields.map fun field =>
    field.1 ++ "=" ++ parameter field.2) ++ ")"

def Message.display (message : Message) : String := message.written Quantity.display

/-- The call that builds a message; arrays are built from nested lists. -/
def Message.constructor (message : Message) : String :=
  message.written fun quantity => match quantity with
    | .scalar value => Number.text value
    | .array tensor => "np.array(" ++ tensor.literal ++ ")"

namespace Value

mutual

def literal : Value → String
  | absent => "None"
  | flag value => if value then "True" else "False"
  | whole value => Number.integerText value
  | real value => Number.text value
  | text value => quote value
  | list items => "[" ++ joinWith ", " (literals items) ++ "]"
  | record fields => "\x7b" ++ joinWith ", " (fieldLiterals fields) ++ "\x7d"
  | array tensor => tensor.display
  | message held => held.display

def literals : List Value → List String
  | [] => []
  | item :: rest => item.literal :: literals rest

def fieldLiterals : List (String × Value) → List String
  | [] => []
  | (name, value) :: rest => (quote name ++ ": " ++ value.literal) :: fieldLiterals rest

end

/-- Text without quotes, any other value as its literal. -/
def plain : Value → String
  | text value => value
  | value => value.literal

end Value

end SumProduct
