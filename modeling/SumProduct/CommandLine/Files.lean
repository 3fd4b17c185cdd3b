/-
The files that a command can read, by path.

Files live in a working folder.  A path is walked name by name, so that several paths lead to one
file.  A path may also lead to a folder, run into a file where a folder is needed, leave the working
folder, where nothing is known but folders, or have names that are too long.
-/

import SumProduct.Fault

set_option autoImplicit false

namespace SumProduct.CommandLine

abbrev Files := List (String × String)

inductive Place where
  /-- A folder that is not inside the working folder. -/
  | outside
  | folder (names : List String)
  | file (text : String)
  deriving DecidableEq, Repr

/-- The names in a path, with empty ones where separators meet or end the path. -/
def pathNames (path : String) : List String :=
  (Text.splitAt '/' path.toList).map String.ofList

/-- Longest name, and longest path, in bytes. -/
def longestName : Nat := 255

def longestPath : Nat := 4095

/-- A path can be handed over if its surrogates are those that stand for single bytes. -/
def isWritable (path : String) : Bool :=
  (Text.codePoints path.toList).all fun code =>
    !Text.isSurrogate code || (0xDC80 ≤ code && code ≤ 0xDCFF)

namespace Files

def find (files : Files) (names : List String) : Except Lapse Place :=
  match files.find? fun file => pathNames file.1 == names with
  | some file => .ok (.file file.2)
  | none =>
    if files.any fun file => names.isPrefixOf (pathNames file.1) then .ok (.folder names)
    else .error .missingFile

def enter (files : Files) (place : Place) (name : String) : Except Lapse Place :=
  match place with
  | .file _ => .error .notAFolder
  | .outside =>
    if name = "" ∨ name = "." ∨ name = ".." then .ok .outside
    else if longestName < name.utf8ByteSize then .error .longName
    else .error .missingFile
  | .folder names =>
    if name = "" ∨ name = "." then .ok place
    else if name = ".." then .ok (if names.isEmpty then .outside else .folder names.dropLast)
    else if longestName < name.utf8ByteSize then .error .longName
    else files.find (names ++ [name])

def read (files : Files) (path : String) : Except Lapse String := do
  if let some text := files.lookup path then return text
  if path.isEmpty then throw .missingFile
  if !isWritable path then throw .unwritableName
  if path.toList.any (·.toNat == 0) then throw .badValue
  if longestPath < path.utf8ByteSize then throw .longName
  let start : Place := if path.toList.head? = some '/' then .outside else .folder []
  match ← (pathNames path).foldlM files.enter start with
  | .file text => return text
  | _ => throw .isFolder

end Files

end SumProduct.CommandLine
