/-
Reading a document of nested values from text.

The format has objects, lists, strings, numbers and the words `true`, `false` and `null`; the words
for infinities and for no number are accepted too.  A number without point and exponent is an
integer.  When a name occurs twice in an object, the later value takes the place of the earlier one.

Each reader returns the value and the characters behind it.  The first mistake ends the reading:
text that is no document, an integer with too many digits, or lists and objects nested too deep.
The fuel of the readers is bounded by the number of characters of the document.
-/

import SumProduct.Association
import SumProduct.Value.Basic

set_option autoImplicit false

namespace SumProduct.Document

inductive Mistake where
  | malformed
  | longNumeral
  | deepNesting
  deriving DecidableEq, Repr

abbrev Reading := Except Mistake

/-- Lists and objects may be nested this deep. -/
def deepest : Nat := 989

def isSpace (c : Char) : Bool := c == ' ' || c == '\t' || c == '\n' || c == '\r'

def skipSpace (text : List Char) : List Char := text.dropWhile isSpace

def hexValue? (c : Char) : Option Nat :=
  if c.isDigit then some (c.toNat - 48)
  else if 'a' ≤ c ∧ c ≤ 'f' then some (c.toNat - 87)
  else if 'A' ≤ c ∧ c ≤ 'F' then some (c.toNat - 55)
  else none

/-- Four hexadecimal digits. -/
def unit? : List Char → Option (Nat × List Char)
  | a :: b :: c :: d :: rest => do
    let value := ((← hexValue? a) * 16 + (← hexValue? b)) * 256 + (← hexValue? c) * 16 + (← hexValue? d)
    return (value, rest)
  | _ => none

/-- A code point given by one or two code units; half of a pair may stand alone. -/
def escapedUnit? (text : List Char) : Option (Nat × List Char) := do
  let (high, rest) ← unit? text
  if 0xD800 ≤ high ∧ high < 0xDC00 then
    match rest with
    | '\\' :: 'u' :: more =>
      let (low, after) ← unit? more
      if 0xDC00 ≤ low ∧ low < 0xE000 then
        return (0x10000 + (high - 0xD800) * 1024 + (low - 0xDC00), after)
      else return (high, rest)
    | _ => return (high, rest)
  else return (high, rest)

def escaped? : List Char → Option (Nat × List Char)
  | '"' :: rest => some ('"'.toNat, rest)
  | '\\' :: rest => some ('\\'.toNat, rest)
  | '/' :: rest => some ('/'.toNat, rest)
  | 'b' :: rest => some (8, rest)
  | 'f' :: rest => some (12, rest)
  | 'n' :: rest => some (10, rest)
  | 'r' :: rest => some (13, rest)
  | 't' :: rest => some (9, rest)
  | 'u' :: rest => escapedUnit? rest
  | _ => none

/-- The characters of a string up to its closing quote. -/
def string : (fuel : Nat) → (read : List Char) → List Char → Reading (String × List Char)
  | 0, _, _ => .error .malformed
  | _ + 1, _, [] => .error .malformed
  | fuel + 1, read, c :: rest =>
    if c = '"' then .ok (String.ofList read.reverse, rest)
    else if c = '\\' then
      match escaped? rest with
      | some (code, more) => string fuel ((Text.spell code).reverse ++ read) more
      | none => .error .malformed
    else if c.toNat < 32 then .error .malformed
    else string fuel (c :: read) rest

/-- The digits of an integer part: a zero alone, or digits that start with another one. -/
def integerPart? (text : List Char) : Option (List Char × List Char) :=
  match text with
  | '0' :: rest => some (['0'], rest)
  | _ =>
    let digits := text.takeWhile Char.isDigit
    if digits.isEmpty then none else some (digits, text.dropWhile Char.isDigit)

/-- A fraction, if a point with digits follows. -/
def fractionPart (text : List Char) : List Char × List Char :=
  match text with
  | '.' :: rest =>
    let digits := rest.takeWhile Char.isDigit
    if digits.isEmpty then ([], text) else (digits, rest.dropWhile Char.isDigit)
  | _ => ([], text)

/-- An exponent, if a mark with digits follows. -/
def exponentPart (text : List Char) : Option Int × List Char :=
  match text with
  | mark :: rest =>
    if mark = 'e' ∨ mark = 'E' then
      let (negative, afterSign) := Number.takeSign rest
      let digits := afterSign.takeWhile Char.isDigit
      if digits.isEmpty then (none, text)
      else
        let value : Int := Number.digitsValue digits
        (some (if negative then -value else value), afterSign.dropWhile Char.isDigit)
    else (none, text)
  | [] => (none, text)

/-- A number; only integers are limited in their digits. -/
def number (text : List Char) : Reading (Value × List Char) :=
  let (negative, magnitude) := match text with
    | '-' :: rest => (true, rest)
    | _ => (false, text)
  match integerPart? magnitude with
  | none => .error .malformed
  | some (whole, afterWhole) =>
    let (fraction, afterFraction) := fractionPart afterWhole
    let (exponent, rest) := exponentPart afterFraction
    if !fraction.isEmpty || exponent.isSome then
      .ok (.real (Number.ofDecimal negative (Number.digitsValue (whole ++ fraction))
        (exponent.getD 0 - fraction.length)), rest)
    else if Number.longestNumeral < whole.length then .error .longNumeral
    else
      let value : Int := Number.digitsValue whole
      .ok (.whole (if negative then -value else value), rest)

def word? (word : List Char) (text : List Char) : Option (List Char) :=
  if word.isPrefixOf text then some (text.drop word.length) else none

def words : List (List Char × Value) :=
  [("null".toList, .absent), ("true".toList, .flag true), ("false".toList, .flag false),
   ("NaN".toList, .real Number.notANumber), ("Infinity".toList, .real Number.infinity),
   ("-Infinity".toList, .real (-Number.infinity))]

def wordValue? (text : List Char) : Option (Value × List Char) :=
  words.findSome? fun entry => (word? entry.1 text).map fun rest => (entry.2, rest)

mutual

/-- A value inside lists and objects, of which `depth` more may be opened. -/
def value : (fuel depth : Nat) → List Char → Reading (Value × List Char)
  | 0, _, _ => .error .malformed
  | fuel + 1, depth, text =>
    match text with
    | '"' :: rest => (string text.length [] rest).map fun result => (.text result.1, result.2)
    | '[' :: rest =>
      match depth with
      | 0 => .error .deepNesting
      | depth + 1 =>
        match skipSpace rest with
        | ']' :: after => .ok (.list [], after)
        | items => listItems fuel depth [] items
    | c :: rest =>
      if c = MessageType.openBrace then
        match depth with
        | 0 => .error .deepNesting
        | depth + 1 =>
          match skipSpace rest with
          | next :: after =>
            if next = MessageType.closeBrace then .ok (.record [], after)
            else objectFields fuel depth [] (next :: after)
          | [] => .error .malformed
      else
        match wordValue? text with
        | some result => .ok result
        | none => number text
    | [] => .error .malformed

def listItems : (fuel depth : Nat) → (read : List Value) → List Char → Reading (Value × List Char)
  | 0, _, _, _ => .error .malformed
  | fuel + 1, depth, read, text => do
    let (item, rest) ← value fuel depth text
    match skipSpace rest with
    | ',' :: more => listItems fuel depth (item :: read) (skipSpace more)
    | ']' :: after => return (.list (item :: read).reverse, after)
    | _ => throw .malformed

def objectFields : (fuel depth : Nat) → (read : List (String × Value)) → List Char → Reading (Value × List Char)
  | 0, _, _, _ => .error .malformed
  | fuel + 1, depth, read, text =>
    match text with
    | '"' :: start => do
      let (name, afterName) ← string text.length [] start
      match skipSpace afterName with
      | ':' :: beforeValue =>
        let (held, rest) ← value fuel depth (skipSpace beforeValue)
        let fields := Association.set name held read
        match skipSpace rest with
        | ',' :: more => objectFields fuel depth fields (skipSpace more)
        | c :: after =>
          if c = MessageType.closeBrace then return (.record fields, after) else throw .malformed
        | [] => throw .malformed
      | _ => throw .malformed
    | _ => .error .malformed

end

/-- The value of a whole document; nothing but space may follow it. -/
def read (text : String) : Reading Value := do
  let characters := text.toList
  let (document, rest) ← value (characters.length + 1) deepest (skipSpace characters)
  if (skipSpace rest).isEmpty then return document else throw .malformed

end SumProduct.Document
