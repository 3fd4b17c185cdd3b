/-
Values as keys of tables.
-/

import SumProduct.Value.Printing

set_option autoImplicit false

namespace SumProduct

def Key.toValue : Key → Value
  | text name => .text name
  | absent => .absent
  | flag value => .flag value
  | whole value => .whole value
  | real value => .real value

/-- The key that a value is; lists, records, arrays and messages are none. -/
def Value.key : Value → Except Fault Key
  | text name => .ok (.text name)
  | absent => .ok .absent
  | flag value => .ok (.flag value)
  | whole value => .ok (.whole value)
  | real value => .ok (.real value)
  | list _ | record _ | array _ | message _ => .error (.lapsed .wrongType)

/-- The key that a value is, if there is a value. -/
def Value.key? : Value → Except Fault (Option Key)
  | absent => .ok none
  | value => value.key.map some

end SumProduct
