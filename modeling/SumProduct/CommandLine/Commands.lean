/-
The commands: compiling and running a described model, and the demonstrations.

A command writes lines to a transcript and ends with an exit status.  When it fails, what has been
written remains.  Besides the lines for the user the transcript keeps a log of the steps of
compilation and execution.
-/

import SumProduct.CommandLine.Demonstration
import SumProduct.CommandLine.Files
import SumProduct.CommandLine.Options
import SumProduct.Value.Document

set_option autoImplicit false

namespace SumProduct.CommandLine

open Text (quote joinWith)

structure Transcript where
  output : String := ""
  log : List String := []
  deriving Repr, Inhabited

/-- Commands keep what they have written when they fail. -/
abbrev Console := EStateM Fault Transcript

namespace Console

def lift {α : Type} : Except Fault α → Console α
  | .ok value => pure value
  | .error fault => throw fault

def say (line : String) : Console Unit :=
  modify fun transcript => { transcript with output := transcript.output ++ line ++ "\n" }

def note (lines : List String) : Console Unit :=
  modify fun transcript => { transcript with log := transcript.log ++ lines }

end Console

/-! ### Log lines -/

/-- One line for each entry that is resolved before resolution ends. -/
def resolutionLog (network : Network) (catalog : Catalog) (schedule : Schedule) : List String :=
  (Resolver.resolvedPart ⟨network, catalog⟩ [] schedule).zipIdx.map fun entry =>
    "DEBUG msgpass.compiler.resolve: Resolved entry " ++ Number.integerText entry.2 ++ ": "
      ++ network.entryText entry.1

def emissionLog (algorithm : Algorithm) : String :=
  "DEBUG msgpass.compiler.emit: Emitted "
    ++ Number.integerText algorithm.program.instructions.length ++ " instructions for "
    ++ Number.integerText algorithm.schedule.length ++ " schedule entries"

/-- One line for each rule whose application is begun. -/
def executionLog (machine : Machine) (program : Program) (data : Buffers) : List String :=
  (machine.applications program data []).map fun application =>
    "DEBUG msgpass.vm.vm: Applying " ++ application.1.plain ++ " to slot " ++ application.2.plain

/-! ### Compiling and running -/

open Console

def compileModel (model : Model) : Console Algorithm := do
  let catalog := Bundled.library.catalog
  note (resolutionLog model.network catalog model.schedule)
  let algorithm ← lift (Algorithm.compile model.network catalog [] model.schedule model.targets)
  note [emissionLog algorithm]
  return algorithm

def runModel (model : Model) (algorithm : Algorithm) (data : Buffers) : Console Marginals := do
  let machine : Machine := { network := model.network, implementations := Bundled.library.implementations }
  note (executionLog machine algorithm.program data)
  lift (algorithm.run machine data [])

/-- Marginals in the order of their names, one line each. -/
def marginalLines (marginals : Marginals) : List String :=
  (marginals.mergeSort fun left right => Text.atMost left.1.plain right.1.plain).map fun marginal =>
    "  " ++ marginal.1.plain ++ ": " ++ marginal.2.literal

def sayResolved (model : Model) (algorithm : Algorithm) : Console Unit :=
  say ("\nResolved " ++ model.network.scheduleText algorithm.schedule)

def saySource (model : Model) (algorithm : Algorithm) : Console Unit := do
  say "\nGenerated procedure:"
  say (← lift (algorithm.source model.network))

def sayMarginals (marginals : Marginals) : Console Unit :=
  (marginalLines marginals).forM say

def readDocument (files : Files) (path : Option String) : Except Fault Value :=
  match path.map files.read with
  | none => .error (.lapsed .wrongType)
  | some (.error lapse) => .error (.lapsed lapse)
  | some (.ok text) =>
    match Document.read text with
    | .ok document => .ok document
    | .error .malformed => .error (.lapsed .unreadableDocument)
    | .error .longNumeral => .error (.lapsed .badValue)
    | .error .deepNesting => .error (.lapsed .nestedTooDeep)

/-- The text of a failure to find something by its key; other failures have none. -/
def missingInput? : Fault → Option String
  | .refused refusal =>
    if refusal.kind = .key then refusal.text?.map quote else none
  | .lapsed (.missingKey literal) => some literal
  | _ => none

def compileOrReport (model : Model) : Console (Option Algorithm) :=
  tryCatch (some <$> compileModel model) fun fault => match fault with
    | .compile failure => do
      say ("\nCompilation failed:\n" ++ failure.text)
      return none
    | other => throw other

def runOrReport (model : Model) (algorithm : Algorithm) (data : Buffers) :
    Console (Option Marginals) :=
  tryCatch (some <$> runModel model algorithm data) fun fault => match missingInput? fault with
    | some text => do
      say ("\nMissing input: " ++ text)
      return none
    | none => throw fault

def overridingData (files : Files) (name : Option String) : Except Fault Buffers :=
  if name.all String.isEmpty then .ok [] else do Model.readData (← readDocument files name)

/-- Compiles the model of a file and runs it on its data, which a second file may override. -/
def compileCommand (files : Files) (input data : Option String) (showSource : Bool) :
    Console Nat := do
  say ("Loading model from: " ++ input.getD "[]")
  let model ← lift (Model.ofDescription (← lift (readDocument files input)))
  let buffers := Table.putAll (← lift (overridingData files data)) model.data
  say ("\n" ++ (← lift (model.network.graphText model.graph)))
  let some algorithm ← compileOrReport model | return 1
  sayResolved model algorithm
  if showSource then saySource model algorithm
  let some marginals ← runOrReport model algorithm buffers | return 1
  say "\nMarginals:"
  sayMarginals marginals
  return 0

/-! ### Demonstrations -/

def ruler : String := String.ofList (List.replicate 60 '=')

def sayHeading (title : String) : Console Unit := do
  say ruler
  say title
  say ruler

def truthText (value : Bool) : String := if value then "True" else "False"

def buildModel (build : Build Model) : Console Model :=
  match build.run {} with
  | .ok model _ => pure model
  | .error fault _ => throw fault

def marginalOf (marginals : Marginals) (name : String) : Except Fault Message :=
  match marginals.get? name with
  | some value => value.toMessage
  | none => .error (.lapsed (.missingKey (quote name)))

def observationDemo : Console Bool := do
  sayHeading "Demo: Gaussian node with constant hyperparameters"
  let model ← buildModel Demonstration.observation
  let algorithm ← compileModel model
  sayResolved model algorithm
  saySource model algorithm
  let marginals ← runModel model algorithm model.data
  sayMarginals marginals
  let found ← lift (marginalOf marginals "y")
  let agrees ← lift (found.equal (.pointMass (.scalar 5.0)))
  say ("\nMatch: " ++ truthText agrees)
  return agrees

def chainDemo : Console Bool := do
  sayHeading "Demo: Two chained Gaussian nodes"
  let model ← buildModel Demonstration.chain
  let algorithm ← compileModel model
  sayResolved model algorithm
  let marginals ← runModel model algorithm model.data
  sayMarginals marginals
  let found ← lift (marginalOf marginals "x")
  let agrees ← lift (found.isClose 1e-9 1e-12 (.gaussian 1.0 0.5))
  say "\nVerification: x ~ N(1, 0.5)"
  say ("Match: " ++ truthText agrees)
  return agrees

def outboundText (schedule : Schedule) (index : Nat) : String :=
  arrivingText ((schedule[index]?).bind Entry.outbound)

def gainDemo : Console Bool := do
  sayHeading "Demo: Fixed gain with matrix-supplied dimensions"
  let model ← buildModel Demonstration.gain
  let algorithm ← compileModel model
  sayResolved model algorithm
  let forward := outboundText algorithm.schedule 3
  let backward := outboundText algorithm.schedule 5
  say ("\nA.out: " ++ forward ++ ", A.in: " ++ backward)
  let marginals ← runModel model algorithm model.data
  sayMarginals marginals
  let found ← lift (marginalOf marginals "x")
  let close ← lift (found.isClose 1e-9 1e-12 (.pointMass (.array Demonstration.gainPoint)))
  let agrees := forward == (MessageType.mvGaussian (.number 3)).text
    && backward == (MessageType.mvPointMass (.number 2)).text && close
  say ("Match: " ++ truthText agrees)
  return agrees

def demonstration (name : String) : Console Bool :=
  if name = "gaussian" then observationDemo
  else if name = "chain" then chainDemo
  else gainDemo

/-- Runs a demonstration; a failed compilation is reported and counts as not passed. -/
def tryDemonstration (name report : String) : Console Bool :=
  tryCatch (demonstration name) fun fault => match fault with
    | .compile failure => do
      say (report ++ "\n" ++ failure.text)
      return false
    | other => throw other

/-- Runs one demonstration, or all of them; there is none without a name. -/
def demoCommand (name : Option String) : Console Nat := do
  let some name := name | throw (.lapsed .wrongType)
  if name = "all" then
    let results ← demonstrationNames.mapM fun single => do
      let passed ← tryDemonstration single ("Error in " ++ single ++ ":")
      say ""
      return (single, passed)
    sayHeading "Summary"
    results.forM fun result =>
      say ("  " ++ result.1 ++ ": " ++ (if result.2 then "PASS" else "FAIL"))
    return if results.all Prod.snd then 0 else 1
  else
    return if ← tryDemonstration name "Error:" then 0 else 1

/-! ### The whole command line -/

def usageText : String :=
  "usage: msgpass [-h] [--version] [--verbose] \x7bcompile,demo\x7d ...\n\n"
    ++ "Message passing algorithm compiler for factor graphs\n\n"
    ++ "commands:\n"
    ++ "  compile --input FILE [--data FILE] [--show-source]   compile and run a model\n"
    ++ "  demo [--example \x7bgaussian,chain,gain,all\x7d]           run demonstrations\n"

def versionText : String := "msgpass 1.0.0\n"

/-- How a call ended: with an exit status, or with a failure that no command handles. -/
inductive Ending where
  | finished (status : Nat)
  | failed (fault : Fault)
  deriving Repr

/-- What a call has written and how it ended.  The log is kept only if it was asked for. -/
structure Report where
  output : String
  log : Option (List String) := none
  ending : Ending
  deriving Repr

def Command.run (files : Files) : Command → Console Nat
  | .compile input data showSource => compileCommand files input data showSource
  | .demo name => demoCommand name

def run (files : Files) (arguments : List String) : Report :=
  match readArguments arguments with
  | .error .usage => { output := usageText, ending := .finished 0 }
  | .error .version => { output := versionText, ending := .finished 0 }
  | .error .mistaken => { output := "", ending := .finished 2 }
  | .ok request =>
    let written := fun (log : List String) => if request.verbose then some log else none
    match request.command with
    | none => { output := usageText, log := written [], ending := .finished 0 }
    | some command =>
      match (command.run files).run {} with
      | .ok status transcript => ⟨transcript.output, written transcript.log, .finished status⟩
      | .error fault transcript => ⟨transcript.output, written transcript.log, .failed fault⟩

end SumProduct.CommandLine
