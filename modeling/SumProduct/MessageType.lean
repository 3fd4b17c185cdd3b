/-
Structural types of messages and the patterns that rules put on them.

A message type names a distribution family and its numeric parameters.  A parameter may also be a
name, which makes the type a pattern with a hole.  Two further patterns speak about an arriving
message as a whole: one accepts anything, the other only the absence of a message.

`read` accepts the printed form with free use of blanks; `text` prints the normal form.
-/

import SumProduct.Number.Numeral
import SumProduct.Text.Character

set_option autoImplicit false

namespace SumProduct

open Text (isWord isBlank isDigit trimBlanks splitAt joinWith)

/-- A numeric parameter, or the name of one that is still free. -/
inductive Param where
  | number (value : Int)
  | free (name : String)
  deriving DecidableEq, Repr, Inhabited

structure MessageType where
  family : String
  params : List Param := []
  deriving DecidableEq, Repr, Inhabited

/-- What a rule demands of one arriving message. -/
inductive Pattern where
  | any
  | absent
  | typed (type : MessageType)
  deriving DecidableEq, Repr, Inhabited

def Param.text : Param → String
  | .number value => Number.integerText value
  | .free name => name

def Param.isFree : Param → Bool
  | .number _ => false
  | .free _ => true

namespace MessageType

def isConcrete (type : MessageType) : Bool :=
  !type.params.any Param.isFree

/-- Names of free parameters in order of first occurrence. -/
def freeNames (type : MessageType) : List String :=
  type.params.foldl (fun names param => match param with
    | .free name => if names.contains name then names else names ++ [name]
    | .number _ => names) []

def openBrace : Char := '\x7b'

def closeBrace : Char := '\x7d'

def text (type : MessageType) : String :=
  if type.params.isEmpty then type.family
  else type.family ++ String.ofList [openBrace] ++ joinWith ", " (type.params.map Param.text)
    ++ String.ofList [closeBrace]

/-- Why a text is no message type: its form is wrong, or a parameter consists of digits that form
no integer numeral. -/
inductive ReadError where
  | malformed
  | badNumeral
  deriving DecidableEq, Repr

/-- A run of digits after any number of minus signs has to be an integer; everything else is a
name. -/
def readParam (piece : List Char) : Except ReadError Param :=
  let digits := piece.dropWhile (· == '-')
  if !digits.isEmpty && digits.all isDigit then
    match Number.readInteger? piece with
    | some value => .ok (.number value)
    | none => .error .badNumeral
  else .ok (.free (String.ofList piece))

/-- The parameters between the braces, separated by commas. -/
def readParams (body : List Char) : Except ReadError (List Param) :=
  if (trimBlanks body).isEmpty then .ok []
  else (splitAt ',' body).mapM fun piece => readParam (trimBlanks piece)

/-- What may follow the family name: nothing, or one pair of braces. -/
def readTail : List Char → Except ReadError (List Param)
  | [] => .ok []
  | c :: rest =>
    if c = openBrace then
      match rest.dropWhile (· != closeBrace) with
      | [] => .error .malformed
      | _ :: trailing =>
        if trailing.all isBlank then readParams (rest.takeWhile (· != closeBrace))
        else .error .malformed
    else .error .malformed

def readList (text : List Char) : Except ReadError MessageType :=
  let body := text.dropWhile isBlank
  let family := body.takeWhile isWord
  if family.isEmpty then .error .malformed
  else
    (readTail ((body.dropWhile isWord).dropWhile isBlank)).map fun params =>
      ⟨String.ofList family, params⟩

def read (text : String) : Except ReadError MessageType :=
  readList text.toList

/-! ### The families of the bundled distributions -/

def pointMass : MessageType := ⟨"PointMass", []⟩

def gaussian : MessageType := ⟨"Gaussian", []⟩

def gamma : MessageType := ⟨"Gamma", []⟩

def inverseGamma : MessageType := ⟨"InverseGamma", []⟩

def studentsT : MessageType := ⟨"StudentsT", []⟩

def mvPointMass (dims : Param) : MessageType := ⟨"MvPointMass", [dims]⟩

def matrixPointMass (rows cols : Param) : MessageType := ⟨"MatrixPointMass", [rows, cols]⟩

def mvGaussian (dims : Param) : MessageType := ⟨"MvGaussian", [dims]⟩

end MessageType

def Pattern.text : Pattern → String
  | .any => "ANY"
  | .absent => "ABSENT"
  | .typed type => type.text

def arrivingText : Option Pattern → String
  | none => "None"
  | some pattern => pattern.text

/-- An outbound type as reported in diagnostics: approximate rules add their method. -/
inductive Described where
  | exact (type : MessageType)
  | approximate (type : MessageType) (method : String)
  deriving DecidableEq, Repr

def Described.text : Described → String
  | .exact type => type.text
  | .approximate type method =>
    "Approximation\x7b" ++ type.text ++ ", " ++ method ++ "\x7d"

end SumProduct
