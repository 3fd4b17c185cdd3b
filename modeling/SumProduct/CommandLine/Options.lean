/-
Arguments of the command line.

Options stand before or behind the command they belong to.  A long option may be shortened as long
as it stays unambiguous, and may have its value attached with an equals sign.  A short option may
have its value attached directly, and short options without values may be written together.  An
attached value that is the dividing mark is dropped, so that the option is given, but without a
value.  All arguments are first classified with the general options, so that an ambiguous abbreviation is
refused wherever it stands.

Options take effect from left to right: a request for help ends the reading, while arguments that
belong to nothing are objected to only at the end.
-/

import SumProduct.Text.Character

set_option autoImplicit false

namespace SumProduct.CommandLine

inductive Flag where
  | help
  | version
  | verbose
  | input
  | data
  | showSource
  | demonstration
  deriving DecidableEq, Repr

def Flag.takesValue : Flag → Bool
  | input | data | demonstration => true
  | _ => false

abbrev OptionTable := List (String × Flag)

def generalOptions : OptionTable :=
  [("-h", .help), ("--help", .help), ("--version", .version), ("-V", .version),
   ("--verbose", .verbose)]

def compileOptions : OptionTable :=
  [("-h", .help), ("--help", .help), ("--input", .input), ("-i", .input), ("--data", .data),
   ("-d", .data), ("--show-source", .showSource), ("-s", .showSource)]

def demoOptions : OptionTable :=
  [("-h", .help), ("--help", .help), ("--example", .demonstration), ("-e", .demonstration)]

/-! ### Classification -/

inductive Token where
  | plain (text : String)
  | divider
  /-- A known option and what is attached to it, behind an equals sign or directly; `long` tells how
  it was written. -/
  | known (flag : Flag) (long : Bool) (attached : Option String)
  | unknown
  deriving Repr

def splitEquals (argument : List Char) : Option (List Char × List Char) :=
  if argument.contains '=' then
    some (argument.takeWhile (· != '='), (argument.dropWhile (· != '=')).drop 1)
  else none

def longMatches (table : OptionTable) (argument : List Char) : List Token :=
  let parts := splitEquals argument
  let name := (parts.map Prod.fst).getD argument
  let attached := parts.map fun split => String.ofList split.2
  (table.filter fun entry => name.isPrefixOf entry.1.toList).map fun entry =>
    .known entry.2 true attached

def shortMatches (table : OptionTable) (argument : List Char) : List Token :=
  (table.filter fun entry => entry.1.toList == argument.take 2).map fun entry =>
    .known entry.2 false (some (String.ofList (argument.drop 2)))

def dropLineBreak (text : List Char) : List Char :=
  if text.getLast? = some '\n' then text.dropLast else text

/-- Digits with a minus sign and possibly a point are values; a line break may follow. -/
def isNegativeNumber (argument : List Char) : Bool :=
  let digits := fun (text : List Char) => text.all fun c => (Text.decimalValue? c).isSome
  match dropLineBreak argument with
  | '-' :: rest =>
    let whole := rest.takeWhile (· != '.')
    match rest.dropWhile (· != '.') with
    | [] => !whole.isEmpty && digits whole
    | _ :: fraction => digits whole && !fraction.isEmpty && digits fraction
  | _ => false

/-- An argument that is no option name as it stands: an abbreviation, a value, or nothing known. -/
def classifyAbbreviated (table : OptionTable) (argument : List Char) : Option Token :=
  let candidates := match argument with
    | _ :: '-' :: _ => longMatches table argument
    | _ => shortMatches table argument
  match candidates with
  | [token] => some token
  | [] =>
    if isNegativeNumber argument || argument.contains ' ' then
      some (.plain (String.ofList argument))
    else some .unknown
  | _ => none

def exactOption? (table : OptionTable) (argument : List Char) : Option Token :=
  let isLong := fun (name : List Char) => name.drop 1 |>.head? |>.any (· == '-')
  match table.lookup (String.ofList argument) with
  | some flag => some (.known flag (isLong argument) none)
  | none => (splitEquals argument).bind fun parts =>
      (table.lookup (String.ofList parts.1)).map fun flag =>
        .known flag (isLong parts.1) (some (String.ofList parts.2))

/-- Classifies an argument; an ambiguous abbreviation has no class. -/
def classify (table : OptionTable) (argument : String) : Option Token :=
  match argument.toList with
  | '-' :: rest =>
    match exactOption? table ('-' :: rest) with
    | some token => some token
    | none => if rest.isEmpty then some (.plain argument) else classifyAbbreviated table ('-' :: rest)
  | _ => some (.plain argument)

/-- The mark behind which everything is plain. -/
def dividingMark : String := "--"

def classifyAll (table : OptionTable) : List String → Option (List Token)
  | [] => some []
  | argument :: rest =>
    if argument = dividingMark then some (.divider :: rest.map .plain)
    else do
      let token ← classify table argument
      let others ← classifyAll table rest
      return token :: others

/-! ### Effects -/

structure Settings where
  verbose : Bool := false
  input : Option (Option String) := none
  data : Option String := none
  showSource : Bool := false
  demonstration : Option String := some "all"
  /-- Some argument belongs to nothing. -/
  leftOver : Bool := false
  deriving Repr

inductive Halt where
  | usage
  | version
  | mistaken
  deriving DecidableEq, Repr

def demonstrationNames : List String := ["gaussian", "chain", "gain"]

def Settings.apply (settings : Settings) (flag : Flag) (text : String) : Except Halt Settings :=
  let value := if text = dividingMark then none else some text
  match flag with
  | .help => .error .usage
  | .version => .error .version
  | .verbose => .ok { settings with verbose := true }
  | .input => .ok { settings with input := some value }
  | .data => .ok { settings with data := value }
  | .showSource => .ok { settings with showSource := true }
  | .demonstration =>
    if value.all (· ∈ demonstrationNames ++ ["all"]) then .ok { settings with demonstration := value }
    else .error .mistaken

/-- Short options written together behind one dash: the first one, and what follows it.  An option
that takes a value takes all that follows; otherwise each character names an option. -/
def cluster (table : OptionTable) (flag : Flag) : List Char → Option (List (Flag × Option String))
  | [] => if flag.takesValue then some [(flag, some "")] else none
  | c :: rest =>
    if flag.takesValue then some [(flag, some (String.ofList (c :: rest)))]
    else
      match table.lookup (String.ofList ['-', c]) with
      | none => none
      | some next =>
        if rest.isEmpty then some [(flag, none), (next, none)]
        else (cluster table next rest).map ((flag, none) :: ·)

def optionsOf (table : OptionTable) (flag : Flag) (long : Bool) (attached : Option String) :
    Option (List (Flag × Option String)) :=
  match attached with
  | none => some [(flag, none)]
  | some text => if long && !flag.takesValue then none else cluster table flag text.toList

def awaitsValue (options : List (Flag × Option String)) : Bool :=
  match options.getLast? with
  | some (flag, none) => flag.takesValue
  | _ => false

/-- Applies options in order; one that waits for its value gets the given one. -/
def applyAll (settings : Settings) (options : List (Flag × Option String)) (next : String) :
    Except Halt Settings :=
  options.foldlM (fun (changed : Settings) option =>
    changed.apply option.1 (option.2.getD next)) settings

def readOptions (table : OptionTable) : Settings → List Token → Except Halt Settings
  | settings, [] => .ok settings
  | settings, .known flag long attached :: rest =>
    match optionsOf table flag long attached with
    | none => .error .mistaken
    | some options =>
      if awaitsValue options then
        match rest with
        | .plain value :: behind => do
          readOptions table (← applyAll settings options value) behind
        | _ => .error .mistaken
      else do readOptions table (← applyAll settings options "") rest
  | settings, _ :: rest => readOptions table { settings with leftOver := true } rest

/-! ### Commands -/

/-- The commands; an input or a name that was given without a value is missing. -/
inductive Command where
  | compile (input data : Option String) (showSource : Bool)
  | demo (name : Option String)
  deriving DecidableEq, Repr

structure Request where
  verbose : Bool
  /-- Without a command the usage is shown. -/
  command : Option Command
  deriving Repr

def readCommand (settings : Settings) (name : String) (arguments : List String) :
    Except Halt Request := do
  let table ←
    if name = "compile" then pure compileOptions
    else if name = "demo" then pure demoOptions
    else throw .mistaken
  match classifyAll table arguments with
  | none => throw .mistaken
  | some tokens =>
    let settings ← readOptions table settings tokens
    let command ←
      if name = "demo" then pure (Command.demo settings.demonstration)
      else match settings.input with
        | some input => pure (Command.compile input settings.data settings.showSource)
        | none => throw .mistaken
    if settings.leftOver then throw .mistaken
    return ⟨settings.verbose, some command⟩

def readGeneral : Settings → List (Token × String) → Except Halt Request
  | settings, [] =>
    if settings.leftOver then .error .mistaken else .ok ⟨settings.verbose, none⟩
  | settings, (.plain name, _) :: rest => readCommand settings name (rest.map Prod.snd)
  | _, (.divider, _) :: _ => .error .mistaken
  | settings, (.unknown, _) :: rest => readGeneral { settings with leftOver := true } rest
  | settings, (.known flag long attached, _) :: rest =>
    match optionsOf generalOptions flag long attached with
    | none => .error .mistaken
    | some options => do readGeneral (← applyAll settings options "") rest

def readArguments (arguments : List String) : Except Halt Request :=
  match classifyAll generalOptions arguments with
  | none => .error .mistaken
  | some tokens => readGeneral {} (tokens.zip arguments)

end SumProduct.CommandLine
