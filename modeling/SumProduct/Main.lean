/-
The program: reads the files that the arguments name, runs the command and prints its report.
-/

import SumProduct.CommandLine.Commands

set_option autoImplicit false

open SumProduct CommandLine

/-- Names of the files that a request refers to. -/
def requestedFiles (arguments : List String) : List String :=
  match readArguments arguments with
  | .ok ⟨_, some (.compile input data _)⟩ => input.toList ++ data.toList
  | _ => []

/-- The text of a file, if it can be read. -/
def readIfPresent (name : String) : IO (List (String × String)) :=
  try return [(name, Text.ofCharacters (← IO.FS.readFile name))]
  catch _ => return []

/-- One line about a failure that no command handles. -/
def failureText : Fault → String
  | .compile failure => failure.text
  | .refused refusal => refusal.text?.getD "refused"
  | .lapsed .missingFile => "file not found"
  | .lapsed .isFolder => "a folder cannot be read"
  | .lapsed .notAFolder => "a file is no folder"
  | .lapsed .longName => "the path is too long"
  | .lapsed .unreadableDocument => "file is not a readable document"
  | .lapsed _ => "the description or the data cannot be used"

def main (arguments : List String) : IO UInt32 := do
  let files ← (requestedFiles arguments).mapM readIfPresent
  let report := run files.flatten arguments
  IO.print report.output
  for line in report.log.getD [] do IO.eprintln line
  match report.ending with
  | .finished status => return status.toUInt32
  | .failed fault =>
    IO.eprintln (failureText fault)
    return 1
