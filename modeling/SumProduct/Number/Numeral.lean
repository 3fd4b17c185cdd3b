/-
Reading numbers from text.

A real numeral is an optional sign, digits with at most one point, and an optional exponent, or one
of the words for infinity and for no number.  Blanks around it are ignored, digits of any script
count, and single underscores may separate digits.  An integer numeral is a sign and digits.
-/

import SumProduct.Number.Double
import SumProduct.Text.Character

set_option autoImplicit false

namespace SumProduct.Number

open SumProduct.Text (decimalValue? isBlank)

/-- Blanks that may surround a real numeral.  Separator controls are blanks in names, but not
here. -/
def isMargin (c : Char) : Bool :=
  if c.toNat < 128 then c == ' ' || (9 ≤ c.toNat && c.toNat ≤ 13) else isBlank c

def trimMargins (text : List Char) : List Char :=
  ((text.dropWhile isMargin).reverse.dropWhile isMargin).reverse

/-- Decimal digits of any script as ASCII digits; other characters stay. -/
def plainDigit (c : Char) : Char :=
  match decimalValue? c with
  | some value => Char.ofNat (48 + value)
  | none => c

/-- Drops underscores, each of which must stand between two digits. -/
def dropUnderscores : (previous : Char) → List Char → Option (List Char)
  | previous, [] => if previous = '_' then none else some []
  | previous, c :: rest =>
    if c = '_' then
      if previous.isDigit then dropUnderscores c rest else none
    else if previous = '_' && !c.isDigit then none
    else (dropUnderscores c rest).map (c :: ·)

def digitsValue (digits : List Char) : Nat :=
  digits.foldl (fun value c => 10 * value + (c.toNat - 48)) 0

/-- Splits off a sign; the flag tells whether it is a minus. -/
def takeSign : List Char → Bool × List Char
  | '-' :: rest => (true, rest)
  | '+' :: rest => (false, rest)
  | rest => (false, rest)

def exponentPart? : List Char → Option Int
  | [] => some 0
  | mark :: rest =>
    if mark = 'e' ∨ mark = 'E' then
      let (negative, digits) := takeSign rest
      if !digits.isEmpty && digits.all Char.isDigit then
        some (if negative then -(digitsValue digits : Int) else digitsValue digits)
      else none
    else none

def unsignedReal? (negative : Bool) (text : List Char) : Option Float :=
  let whole := text.takeWhile Char.isDigit
  let afterWhole := text.dropWhile Char.isDigit
  let (fraction, rest) := match afterWhole with
    | '.' :: more => (more.takeWhile Char.isDigit, more.dropWhile Char.isDigit)
    | _ => ([], afterWhole)
  if whole.isEmpty && fraction.isEmpty then none
  else
    (exponentPart? rest).map fun exponent =>
      ofDecimal negative (digitsValue (whole ++ fraction)) (exponent - fraction.length)

def signedReal? (text : List Char) : Option Float :=
  let (negative, magnitude) := takeSign text
  let word := String.ofList (magnitude.map Char.toLower)
  if word = "inf" ∨ word = "infinity" then some (if negative then -infinity else infinity)
  else if word = "nan" then some notANumber
  else unsignedReal? negative magnitude

def readReal? (text : String) : Option Float :=
  match dropUnderscores ' ' (trimMargins text.toList |>.map plainDigit) with
  | some characters => signedReal? characters
  | none => none

/-- Integer numerals longer than this are refused. -/
def longestNumeral : Nat := 4300

def decimalsValue? (digits : List Char) : Option Nat :=
  digits.foldlM (fun value c => (decimalValue? c).map (10 * value + ·)) 0

def readInteger? (text : List Char) : Option Int :=
  let (negative, digits) := takeSign text
  if digits.isEmpty || longestNumeral < digits.length then none
  else (decimalsValue? digits).map fun value => if negative then -(value : Int) else value

def integerText (n : Int) : String :=
  String.ofList ((if n < 0 then ['-'] else []) ++ Nat.toDigits 10 n.natAbs)

end SumProduct.Number
