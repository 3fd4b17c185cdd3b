/-
Approximation methods.

A method is known by its name.  Any other value may stand for a method as well, both where a rule
says what it offers and where a method is asked for.
-/

import SumProduct.Value.Comparison
import SumProduct.Value.Printing

set_option autoImplicit false

namespace SumProduct

inductive Method where
  | named (name : String)
  | other (value : Value)
  deriving Inhabited

namespace Method

/-- The method that a value stands for; an absent value stands for none. -/
def ofValue : Value → Option Method
  | .absent => none
  | .text name => some (.named name)
  | value => some (.other value)

def toValue : Method → Value
  | named name => .text name
  | other value => value

def text (method : Method) : String := method.toValue.plain

/-- The methods are the same: they have one name or stand for equal values. -/
def agrees (left right : Method) : Bool :=
  match left, right with
  | named own, named name => own == name
  | _, _ => (left.toValue.same right.toValue).toOption.getD false

end Method

end SumProduct
