/-
Written forms of arrays.

`literal` is a nested list in which every entry has its shortest digits.  `display` is the aligned
form used when a marginal is shown: at most eight digits behind the point, the points under each
other, and lines of at most 75 characters.  Of a large array only the first and last places along
each axis are shown, and its shape is added.
-/

import SumProduct.Tensor.Basic

set_option autoImplicit false

namespace SumProduct.Tensor

open Text (joinWith)

/-- Entries put together axis by axis, `offset` entries into the array. -/
def assembleFrom {β : Type} (entry : Nat → β) (row : List β → β) : (shape : Shape) →
    (offset : Nat) → β
  | [], offset => entry offset
  | extent :: rest, offset =>
    row ((List.range extent).map fun i =>
      assembleFrom entry row rest (offset + i * Shape.volume rest))

/-- Entries put together axis by axis, the innermost axis first. -/
def assemble {α β : Type} [Zero α] (entry : α → β) (row : List β → β) (tensor : Tensor α) : β :=
  assembleFrom (fun i => entry (tensor.get i)) row tensor.shape 0

def literal (tensor : Tensor Float) : String :=
  tensor.assemble Number.text fun items => "[" ++ joinWith ", " items ++ "]"

/-! ### Aligned display -/

/-- Digits before and behind the point, and the exponent, of a displayed number. -/
structure Shown where
  whole : String
  fraction : String
  exponent : Int := 0
  deriving Inhabited

def displayPlaces : Nat := 8

def trimZeros (digits : List Char) : List Char :=
  (digits.reverse.dropWhile (· == '0')).reverse

/-- The shortest digits, or the nearest decimal with eight places if those are more. -/
def shownDecimal (mantissa : Nat) (exponent : Int) (places : Int) : Number.Decimal :=
  let short := Number.shortest mantissa exponent
  if -places ≤ short.exponent then short
  else
    let ratio := Number.ratioOf mantissa exponent
    let scaled := Number.scaleTen ratio.1 ratio.2 places
    ⟨Number.roundQuotient scaled.1 scaled.2, -places⟩

def signText (negative : Bool) : String := if negative then "-" else ""

def showPositional (negative : Bool) (mantissa : Nat) (exponent : Int) : Shown :=
  if mantissa = 0 then ⟨signText negative ++ "0", "", 0⟩
  else
    let decimal := shownDecimal mantissa exponent displayPlaces
    let written := Number.positional (Number.digitsOf decimal.digits)
      (decimal.exponent + (Number.digitsOf decimal.digits).length)
    ⟨signText negative ++ String.ofList (written.takeWhile (· != '.')),
     String.ofList (trimZeros ((written.dropWhile (· != '.')).drop 1)), 0⟩

def showScientific (negative : Bool) (mantissa : Nat) (exponent : Int) : Shown :=
  if mantissa = 0 then ⟨signText negative ++ "0", "", 0⟩
  else
    let ratio := Number.ratioOf mantissa exponent
    let size := Number.magnitude ratio.1 ratio.2
    let decimal := (shownDecimal mantissa exponent (displayPlaces - (size - 1))).trim 20
    let digits := Number.digitsOf decimal.digits
    ⟨signText negative ++ String.ofList (digits.take 1), String.ofList (digits.drop 1),
     decimal.exponent + digits.length - 1⟩

/-- The nearest number with the given number of digits behind the point and an exponent. -/
def showRounded (places : Nat) (negative : Bool) (mantissa : Nat) (exponent : Int) : Shown :=
  if mantissa = 0 then ⟨signText negative ++ "0", String.ofList (List.replicate places '0'), 0⟩
  else
    let ratio := Number.ratioOf mantissa exponent
    let size := Number.magnitude ratio.1 ratio.2
    let scaled := Number.scaleTen ratio.1 ratio.2 (places - (size - 1))
    let digits := Number.digitsOf (Number.roundQuotient scaled.1 scaled.2)
    ⟨signText negative ++ String.ofList (digits.take 1), String.ofList ((digits.drop 1).take places),
     size + digits.length - (places + 2)⟩

/-- Numbers are displayed with an exponent if they are large, small or far apart. -/
def needsExponent (numbers : List Float) : Bool :=
  let sizes := (numbers.filter fun x => Number.isFinite x && x != 0.0).map Float.abs
  match sizes with
  | [] => false
  | first :: rest =>
    let largest := rest.foldl (fun best x => if best < x then x else best) first
    let least := rest.foldl (fun best x => if x < best then x else best) first
    1e8 ≤ largest || least < 0.0001 || 1000.0 < largest / least

def show? (scientific : Bool) (x : Float) : Option Shown :=
  match Number.decode x with
  | .finite negative mantissa exponent =>
    some (if scientific then showScientific negative mantissa exponent
      else showPositional negative mantissa exponent)
  | _ => none

def padLeft (width : Nat) (text : String) : String :=
  String.ofList (List.replicate (width - text.length) ' ') ++ text

def padRight (filler : Char) (width : Nat) (text : String) : String :=
  text ++ String.ofList (List.replicate (width - text.length) filler)

def longest (texts : List String) : Nat :=
  texts.foldl (fun most text => max most text.length) 0

/-- The columns in which numbers are displayed: characters before and behind the point, and digits
of the exponent, if numbers have one. -/
structure Columns where
  whole : Nat
  fraction : Nat
  exponent : Option Nat

namespace Columns

def right (columns : Columns) : Nat :=
  columns.fraction + (columns.exponent.map (· + 2)).getD 0

/-- Columns in which all the given numbers fit. -/
def fitting (numbers : List Float) : Columns :=
  let scientific := needsExponent numbers
  let shown := numbers.filterMap (show? scientific)
  let digits := fun (number : Shown) =>
    String.ofList (Number.padZeros 2 (Number.digitsOf number.exponent.natAbs))
  let columns : Columns := {
    whole := longest (shown.map Shown.whole)
    fraction := longest (shown.map Shown.fraction)
    exponent := if scientific then some (longest (shown.map digits)) else none }
  let others := (numbers.filter fun x => !Number.isFinite x).map Number.text
  { columns with whole := max columns.whole (longest others - (columns.right + 1)) }

/-- A number in its columns; before an exponent all columns are filled with digits. -/
def display (columns : Columns) (x : Float) : String :=
  match Number.decode x, columns.exponent with
  | .finite negative mantissa exponent, none =>
    let number := showPositional negative mantissa exponent
    padLeft columns.whole number.whole ++ "." ++ padRight ' ' columns.fraction number.fraction
  | .finite negative mantissa exponent, some digits =>
    let number := showRounded columns.fraction negative mantissa exponent
    padLeft columns.whole number.whole ++ "." ++ number.fraction
      ++ (if number.exponent < 0 then "e-" else "e+")
      ++ String.ofList (Number.padZeros digits (Number.digitsOf number.exponent.natAbs))
  | _, _ => padLeft (columns.whole + columns.right + 1) (Number.text x)

end Columns

/-- Arrays with more entries than this are abridged. -/
def mostEntries : Nat := 1000

def edgePlaces : Nat := 3

/-- The places shown along an axis; nothing stands for those left out. -/
def shownPlaces (abridged : Bool) (extent : Nat) : List (Option Nat) :=
  if abridged && 2 * edgePlaces < extent then
    (List.range edgePlaces).map some ++ [none]
      ++ (List.range edgePlaces).map fun i => some (extent - edgePlaces + i)
  else (List.range extent).map some

/-- The row-major indices of the entries that are shown. -/
def shownIndices (abridged : Bool) : (shape : Shape) → (offset : Nat) → List Nat
  | [], offset => [offset]
  | extent :: rest, offset =>
    (shownPlaces abridged extent).reduceOption.flatMap fun i =>
      shownIndices abridged rest (offset + i * Shape.volume rest)

def omission : String := "..."

/-- Places words on lines that fit the width; the last word needs room for the closing bracket
only. -/
def fillLines (width : Nat) (indent : String) : (text line : String) → List String → String
  | text, line, [] => text ++ line
  | text, line, [word] =>
    if width < line.length + word.length + 1 && indent.length < line.length then
      text ++ line.trimAsciiEnd.toString ++ "\n" ++ indent ++ word
    else text ++ line ++ word
  | text, line, word :: rest =>
    if width < line.length + word.length + 1 && indent.length < line.length then
      fillLines width indent (text ++ line.trimAsciiEnd.toString ++ "\n") (indent ++ word ++ ", ") rest
    else fillLines width indent text (line ++ word ++ ", ") rest

/-- Brackets around rows; rows of a matrix stand on lines of their own. -/
def displayBlock (abridged : Bool) (entry : Nat → String) : (shape : Shape) → (offset : Nat) →
    (indent : String) → (width : Nat) → String
  | [], offset, _, _ => entry offset
  | [extent], offset, indent, width =>
    let words := (shownPlaces abridged extent).map fun place =>
      (place.map fun i => entry (offset + i)).getD omission
    let body := fillLines width indent "" indent words
    "[" ++ String.ofList (body.toList.drop indent.length) ++ "]"
  | extent :: rest, offset, indent, width =>
    let blocks := (shownPlaces abridged extent).map fun place =>
      (place.map fun i => displayBlock abridged entry rest (offset + i * Shape.volume rest)
        (indent ++ " ") (width - 1)).getD omission
    "[" ++ joinWith ("," ++ String.ofList (List.replicate rest.length '\n') ++ indent) blocks ++ "]"

def lineWidth : Nat := 75

/-- Closes a displayed array, with remarks behind its entries if there are any.  Remarks that do
not fit the last line stand on one of their own. -/
def closeDisplay (opened : String) (remarks : List String) : String :=
  if remarks.isEmpty then opened ++ ")"
  else
    let start := opened ++ ","
    let remark := joinWith ", " remarks ++ ")"
    let lastLine := (start.toList.reverse.takeWhile (· != '\n')).length
    if lineWidth < lastLine + remark.length + 1 then start ++ "\n      " ++ remark
    else start ++ " " ++ remark

def display (tensor : Tensor Float) : String :=
  let shapeRemark := "shape=" ++ tensor.shape.text
  if tensor.entries.isEmpty then
    closeDisplay "array([]"
      ((if tensor.shape == [0] then [] else [shapeRemark]) ++ ["dtype=float64"])
  else
    let abridged := decide (mostEntries < tensor.entries.size)
    let shown := (shownIndices abridged tensor.shape 0).map tensor.get
    let columns := Columns.fitting shown
    closeDisplay
      ("array(" ++ displayBlock abridged (fun i => columns.display (tensor.get i)) tensor.shape 0
        "       " (lineWidth - 1))
      (if abridged then [shapeRemark] else [])

end SumProduct.Tensor
