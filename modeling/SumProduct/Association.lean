/-
Lists of pairs used as maps that remember the order of insertion.

Setting a key that is present changes its value in place; a new key goes to the end.  Look-up is
`List.lookup`.
-/

set_option autoImplicit false

namespace SumProduct.Association

variable {κ β : Type} [DecidableEq κ]

def set (key : κ) (value : β) : List (κ × β) → List (κ × β)
  | [] => [(key, value)]
  | (other, old) :: rest =>
    if other = key then (key, value) :: rest else (other, old) :: set key value rest

end SumProduct.Association
