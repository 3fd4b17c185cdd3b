/-
Writing a value as a document.

What is written can be read again, and nothing is lost but the difference between an array and nested
lists.  Numbers are written with the fewest digits that read back.  Half of a surrogate pair and
control characters are given by their code points.  A message is written as its text.
-/

import SumProduct.Value.Printing

set_option autoImplicit false

namespace SumProduct.Document

/-- A code point below 65536, given by four hexadecimal digits. -/
def byDigits (code : Nat) : List Char := '\\' :: 'u' :: Text.hexDigits 4 code

def escape (code : Nat) : List Char :=
  if code = '"'.toNat || code = '\\'.toNat then ['\\', Char.ofNat code]
  else if code < 32 || Text.isSurrogate code then byDigits code
  else if code = Text.loneMark then [Text.mark]
  else [Char.ofNat code]

def quoted (text : String) : String :=
  String.ofList ('"' :: ((Text.codePoints text.toList).flatMap escape ++ ['"']))

/-- A number; the words for infinities and for no number are those that can be read. -/
def realText (value : Float) : String :=
  if value.isNaN then "NaN"
  else if value.isInf then if value < 0.0 then "-Infinity" else "Infinity"
  else Number.text value

mutual

/-- Appends a value to what has been written. -/
def writeOnto (written : String) : Value → String
  | .absent => written ++ "null"
  | .flag value => written ++ if value then "true" else "false"
  | .whole value => written ++ Number.integerText value
  | .real value => written ++ realText value
  | .text value => written ++ quoted value
  | .list items => writeItems (written ++ "[") items ++ "]"
  | .record fields => writeFields (written ++ "\x7b") fields ++ "\x7d"
  | .array tensor => written ++ tensor.assemble realText fun row => "[" ++ Text.joinWith "," row ++ "]"
  | .message held => written ++ quoted held.display

/-- Appends items with commas between them. -/
def writeItems (written : String) : List Value → String
  | [] => written
  | [item] => writeOnto written item
  | item :: rest => writeItems (writeOnto written item ++ ",") rest

/-- Appends fields with commas between them. -/
def writeFields (written : String) : List (String × Value) → String
  | [] => written
  | [(name, value)] => writeOnto (written ++ quoted name ++ ":") value
  | (name, value) :: rest =>
    writeFields (writeOnto (written ++ quoted name ++ ":") value ++ ",") rest

end

/-- The document of a value. -/
def write (value : Value) : String := writeOnto "" value

end SumProduct.Document
