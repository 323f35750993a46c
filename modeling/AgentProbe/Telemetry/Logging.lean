import AgentProbe.Data.Decimal

set_option autoImplicit false

/-!
How much a run logs: presets, and the directive that they amount to.
-/

namespace AgentProbe

inductive LogLevel where
  | error | warn | info | debug | trace
deriving DecidableEq, Repr, Inhabited

namespace LogLevel

def all : List LogLevel :=
  [.error, .warn, .info, .debug, .trace]

def name : LogLevel → String
  | .error => "error"
  | .warn => "warn"
  | .info => "info"
  | .debug => "debug"
  | .trace => "trace"

/-- The level with a name in any case, or with a number counted from one. -/
def ofName? (name : String) : Option LogLevel :=
  match Decimal.readCount? name.toList with
  | some number => if number = 0 then none else all[number - 1]?
  | none => all.find? fun level => level.name == String.ofList (name.toList.map Char.toLower)

end LogLevel

structure Logging where
  /-- The level for the program itself. -/
  level : LogLevel := .warn
  /-- The level for everything else. -/
  dependencyLevel : LogLevel := .error
  /-- Whether the time that each file took is logged. -/
  fileTiming : Bool := false
  /-- Whether the place in the code is logged. -/
  codePlace : Bool := false
  /-- Whether colours are used; decided by the terminal if not set. -/
  colours : Option Bool := none
  /-- A directive that stands for both levels. -/
  filter : Option String := none
deriving DecidableEq, Repr, Inhabited

namespace Logging

def target : String := "agent_instrumentor"

def development : Logging :=
  { level := .debug, dependencyLevel := .warn, fileTiming := true, codePlace := true }

/-- For unattended use: errors without colours. -/
def production : Logging :=
  { level := .error, colours := some false }

def testing : Logging :=
  { level := .trace, fileTiming := true, codePlace := true, colours := some false
    filter := some (target ++ "=trace") }

def ofVerbosity : Nat → Logging
  | 0 => {}
  | 1 => { level := .info }
  | 2 => development
  | _ => { development with level := .trace, dependencyLevel := .debug }

def directive (logging : Logging) : String :=
  match logging.filter with
  | some filter => filter
  | none => logging.dependencyLevel.name ++ "," ++ target ++ "=" ++ logging.level.name

end Logging

end AgentProbe
