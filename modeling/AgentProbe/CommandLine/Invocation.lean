import AgentProbe.CommandLine.Arguments
import AgentProbe.Config.Settings

set_option autoImplicit false

/-!
Invocations: which command is asked for, and with what.
-/

namespace AgentProbe.CommandLine

/-! ### Values of options -/

/-- Reads a floating-point number; infinity and what is no number may be written as words. -/
def readFloat? (text : String) : Option Float :=
  let (negative, unsigned) := match text.toList with
    | '-' :: rest => (true, rest)
    | '+' :: rest => (false, rest)
    | rest => (false, rest)
  let signed (x : Float) : Float := if negative then -x else x
  let word := String.ofList (unsigned.map Char.toLower)
  if word == "inf" || word == "infinity" then some (signed (1.0 / 0.0))
  else if word == "nan" then some (0.0 / 0.0)
  else (Decimal.readUnsigned? unsigned).map fun value => signed value.toFloat

def splitCommas (texts : List String) : List String :=
  texts.flatMap fun text => (Text.splitOn ',' text.toList).map String.ofList

def isPathText (text : String) : Bool :=
  !text.isEmpty

/-! ### The commands and their options -/

def verboseFlag : Flag :=
  { long := "verbose", short := some 'v', takes := .nothingRepeated }

def helpFlag : Flag :=
  { long := "help", short := some 'h' }

def topFlags : List Flag :=
  [verboseFlag, helpFlag, { long := "version", short := some 'V' }]

def jsonFlag : Flag :=
  { long := "json" }

def platformDirectoryFlag : Flag :=
  { long := "platform-dir", takes := .valueRepeated, accepts := isPathText }

def instrumentFlags : List Flag :=
  [{ long := "platform", short := some 'p', takes := .value },
   { long := "preset", takes := .value, accepts := fun text => (Level.ofName? text).isSome },
   { long := "targets", takes := .valueRepeated },
   { long := "frameworks", takes := .valueRepeated },
   { long := "exclude", short := some 'e', takes := .valueRepeated },
   { long := "dry-run" },
   { long := "jobs", short := some 'j', takes := .value
     accepts := fun text => (Decimal.readCount? text.toList).isSome },
   { long := "min-confidence", takes := .value, accepts := fun text => (readFloat? text).isSome },
   { long := "format-cmd", takes := .value },
   platformDirectoryFlag,
   { long := "pattern-dir", takes := .valueRepeated, accepts := isPathText },
   jsonFlag, verboseFlag, helpFlag]

inductive Request where
  /-- Instrument a project.  The targets are still to be read. -/
  | instrument (root : Path) (options : Options) (targets : List String) (json : Bool)
  /-- List the platforms. -/
  | platforms (directories : List Path) (json : Bool)
  /-- Detect the frameworks of a project. -/
  | detect (root : Path) (json : Bool)
deriving Repr, Inhabited

structure Invocation where
  verbosity : Nat
  request : Request
deriving Repr, Inhabited

def occurrences (given : List Given) (long : String) : Nat :=
  given.countP fun entry =>
    match entry with
    | .option name _ => name == long
    | .operand _ => false

def nonEmpty {α : Type} (list : List α) : Option (List α) :=
  if list.isEmpty then none else some list

/-- The options of a run.  The environment may name the platform. -/
def optionsOf (environment : List (String × String)) (given : List Given) : Options :=
  { platform := (value? given "platform").or (environment.lookup "INSTRUMENTOR_PLATFORM")
    level := (value? given "preset").bind Level.ofName?
    frameworks := nonEmpty (splitCommas (values given "frameworks"))
    excludes := values given "exclude"
    jobs := (value? given "jobs").bind fun text => Decimal.readCount? text.toList
    minConfidence := (value? given "min-confidence").bind readFloat?
    dryRun := if isGiven given "dry-run" then some true else none
    formatter := (value? given "format-cmd").map fun command =>
      (Text.words command.toList).map String.ofList
    platformDirectories := (values given "platform-dir").map Path.mk
    patternDirectories := (values given "pattern-dir").map Path.mk }

def commandNames : List String :=
  ["instrument", "platforms", "detect", "help"]

def readRequest (environment : List (String × String)) (command : String)
    (arguments : List String) : Except Halt (Request × Nat) := do
  let read (flags : List Flag) (limit : Nat) := readAll flags limit [] arguments
  let root (given : List Given) : Except Halt Path :=
    match operands given with
    | text :: _ => .ok ⟨text⟩
    | [] => .error .misuse
  if command == "instrument" then do
    let given ← read instrumentFlags 1
    pure (.instrument (← root given) (optionsOf environment given)
      (splitCommas (values given "targets")) (isGiven given "json"), occurrences given "verbose")
  else if command == "platforms" then do
    let given ← read [platformDirectoryFlag, jsonFlag, verboseFlag, helpFlag] 0
    pure (.platforms ((values given "platform-dir").map Path.mk) (isGiven given "json"),
      occurrences given "verbose")
  else if command == "detect" then do
    let given ← read [jsonFlag, verboseFlag, helpFlag] 1
    pure (.detect (← root given) (isGiven given "json"), occurrences given "verbose")
  else if command == "help" && arguments.length ≤ 1 && arguments.all commandNames.contains then
    .error .help
  else .error .misuse

/-- Reads an invocation: switches, a command and its arguments.  `given` are the switches so far. -/
def readFrom (environment : List (String × String)) (given : List Given) :
    List String → Except Halt Invocation
  | [] => .error .misuse
  | argument :: rest =>
    if argument == "--" then .error .misuse
    else
      match readPiece topFlags argument with
      | .error halt => .error halt
      | .ok (.awaiting _ _) => .error .misuse
      | .ok (.options entries) =>
        match addAll topFlags 0 given entries with
        | .error halt => .error halt
        | .ok given => readFrom environment given rest
      | .ok (.operand command) =>
        match readRequest environment command rest with
        | .error halt => .error halt
        | .ok (request, verbosity) =>
          .ok { verbosity := occurrences given "verbose" + verbosity, request }

def readInvocation (environment : List (String × String)) (arguments : List String) :
    Except Halt Invocation :=
  readFrom environment [] arguments

end AgentProbe.CommandLine
