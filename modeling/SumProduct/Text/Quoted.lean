/-
Quoted text: how names appear inside messages and inside a rendered procedure.

Single quotes are used unless the text holds a single quote and no double quote.  The quote in use,
the backslash and every unprintable code point are escaped, the latter by their numbers; all other
characters stand for themselves.
-/

import SumProduct.Text.Character
import SumProduct.Text.CodePoint

set_option autoImplicit false

namespace SumProduct.Text

def hexDigit (value : Nat) : Char :=
  if value < 10 then Char.ofNat (48 + value) else Char.ofNat (87 + value)

/-- The last `width` hexadecimal digits of a number. -/
def hexDigits : (width value : Nat) → List Char
  | 0, _ => []
  | width + 1, value => hexDigits width (value / 16) ++ [hexDigit (value % 16)]

/-- The written form of one code point between the given quotes. -/
def quoteCode (quote : Char) (code : Nat) : List Char :=
  let c := Char.ofNat code
  if c = quote then ['\\', quote]
  else if c = '\\' then ['\\', '\\']
  else if c = '\n' then ['\\', 'n']
  else if c = '\r' then ['\\', 'r']
  else if c = '\t' then ['\\', 't']
  else if isPrintable c then [c]
  else if code < 256 then '\\' :: 'x' :: hexDigits 2 code
  else if code < 65536 then '\\' :: 'u' :: hexDigits 4 code
  else '\\' :: 'U' :: hexDigits 8 code

/-- The quote that surrounds a text. -/
def quoteFor (text : List Char) : Char :=
  if text.contains '\'' && !text.contains '"' then '"' else '\''

def quoteList (text : List Char) : List Char :=
  let quote := quoteFor text
  quote :: (codePoints text).flatMap (quoteCode quote) ++ [quote]

def quote (text : String) : String :=
  String.ofList (quoteList text.toList)

end SumProduct.Text
