import AgentProbe.Data.Decimal

set_option autoImplicit false

/-!
Arguments of a command line: switches, options with values, and operands.

An option has a long name and may have a short one.  Its value stands in the next argument or after
an equals sign; short switches may be written in one argument.  Two hyphens alone end the options.
Arguments are read from the left, and the first that is not understood ends the reading.
-/

namespace AgentProbe.CommandLine

inductive Takes where
  /-- Nothing, and it is given once. -/
  | nothing
  /-- Nothing, and it may be repeated. -/
  | nothingRepeated
  /-- A value, and it is given once. -/
  | value
  /-- A value, and it may be repeated. -/
  | valueRepeated
deriving DecidableEq, Repr, Inhabited

structure Flag where
  long : String
  short : Option Char := none
  takes : Takes := .nothing
  /-- Whether a text may be its value. -/
  accepts : String → Bool := fun _ => true

namespace Flag

def takesValue (flag : Flag) : Bool :=
  flag.takes == .value || flag.takes == .valueRepeated

def isRepeatable (flag : Flag) : Bool :=
  flag.takes == .nothingRepeated || flag.takes == .valueRepeated

end Flag

inductive Halt where
  /-- An argument is not understood, or one is missing. -/
  | misuse
  | help
  | version
deriving DecidableEq, Repr, Inhabited

inductive Given where
  | option (long : String) (value : Option String)
  | operand (text : String)
deriving DecidableEq, Repr, Inhabited

inductive Piece where
  | operand (text : String)
  | options (given : List Given)
  /-- The last option takes the next argument as its value. -/
  | awaiting (given : List Given) (flag : Flag)

def isOptionLike (argument : String) : Bool :=
  match argument.toList with
  | '-' :: _ :: _ => true
  | _ => false

/-- The text before the first equals sign, and the text after it if there is one. -/
def splitValue (text : Text) : Text × Option Text :=
  match text.dropWhile (· != '=') with
  | _ :: value => (text.takeWhile (· != '='), some value)
  | [] => (text, none)

def readLong (flags : List Flag) (text : Text) : Except Halt Piece :=
  let (name, value) := splitValue text
  match flags.find? fun flag => flag.long == String.ofList name, value with
  | some flag, some value =>
    if flag.takesValue then .ok (.options [.option flag.long (some (String.ofList value))])
    else .error .misuse
  | some flag, none =>
    if flag.takesValue then .ok (.awaiting [] flag) else .ok (.options [.option flag.long none])
  | none, _ => .error .misuse

/-- The value that is written right after a short option; an equals sign before it is dropped. -/
def attached (text : Text) : String :=
  match text with
  | '=' :: value => String.ofList value
  | _ => String.ofList text

/-- Reads what follows one hyphen.  `before` are the switches read so far, the last one first. -/
def readShort (flags : List Flag) (before : List Given) : Text → Except Halt Piece
  | [] => .ok (.options before.reverse)
  | c :: rest =>
    match flags.find? fun flag => flag.short == some c with
    | none => .error .misuse
    | some flag =>
      if !flag.takesValue then readShort flags (.option flag.long none :: before) rest
      else if rest.isEmpty then .ok (.awaiting before.reverse flag)
      else .ok (.options (.option flag.long (some (attached rest)) :: before).reverse)

def readPiece (flags : List Flag) (argument : String) : Except Halt Piece :=
  match argument.toList with
  | '-' :: '-' :: text => readLong flags text
  | '-' :: c :: text => readShort flags [] (c :: text)
  | _ => .ok (.operand argument)

def isGiven (given : List Given) (long : String) : Bool :=
  given.any fun entry =>
    match entry with
    | .option name _ => name == long
    | .operand _ => false

def operands (given : List Given) : List String :=
  given.filterMap fun entry =>
    match entry with
    | .operand text => some text
    | .option _ _ => none

def values (given : List Given) (long : String) : List String :=
  given.filterMap fun entry =>
    match entry with
    | .option name value => if name == long then value else none
    | .operand _ => none

def value? (given : List Given) (long : String) : Option String :=
  (values given long).head?

def add (flags : List Flag) (limit : Nat) (given : List Given) (entry : Given) :
    Except Halt (List Given) :=
  match entry with
  | .operand text =>
    if text.isEmpty || (operands given).length ≥ limit then .error .misuse
    else .ok (given ++ [entry])
  | .option long value =>
    match flags.find? fun flag => flag.long == long with
    | none => .error .misuse
    | some flag =>
      if !flag.isRepeatable && isGiven given long then .error .misuse
      else if !(value.all flag.accepts) then .error .misuse
      else if long == "help" then .error .help
      else if long == "version" then .error .version
      else .ok (given ++ [entry])

def addAll (flags : List Flag) (limit : Nat) (given : List Given) (entries : List Given) :
    Except Halt (List Given) :=
  entries.foldlM (add flags limit) given

def readAll (flags : List Flag) (limit : Nat) (given : List Given) :
    List String → Except Halt (List Given)
  | [] => .ok given
  | argument :: rest =>
    if argument == "--" then addAll flags limit given (rest.map .operand)
    else
      match readPiece flags argument with
      | .error halt => .error halt
      | .ok (.operand text) =>
        match add flags limit given (.operand text) with
        | .error halt => .error halt
        | .ok given => readAll flags limit given rest
      | .ok (.options entries) =>
        match addAll flags limit given entries with
        | .error halt => .error halt
        | .ok given => readAll flags limit given rest
      | .ok (.awaiting entries flag) =>
        match addAll flags limit given entries, rest with
        | .error halt, _ => .error halt
        | .ok _, [] => .error .misuse
        | .ok given, value :: after =>
          if isOptionLike value then .error .misuse
          else
            match add flags limit given (.option flag.long (some value)) with
            | .error halt => .error halt
            | .ok given => readAll flags limit given after

end AgentProbe.CommandLine
