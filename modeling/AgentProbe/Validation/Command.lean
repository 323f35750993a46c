import AgentProbe.Validation.Basic
import AgentProbe.Validation.Script

set_option autoImplicit false

/-!
Formatters that pipe text through a command.

The command has to end in time, with status zero and with text as its output; any other ending is a
failure that keeps the text as it was.
-/

namespace AgentProbe

structure FormatCommand where
  program : String
  arguments : List String := []
  timeout : Duration := .ofMilliseconds 30000
deriving DecidableEq, Repr, Inhabited

namespace FormatCommand

def ofWords? : List String → Option FormatCommand
  | [] => none
  | program :: arguments => some { program, arguments }

def finish? (command : FormatCommand) (input : Bytes) : Option Finished :=
  match Filter.baseName command.program, command.arguments with
  | "sh", ["-c", script] => some (Script.run script.toList input)
  | "sh", [] => some (Script.run (Utf8.decodeLossy input) [])
  | name, arguments => (Filter.byName? name).map fun program => program arguments input

def format (command : FormatCommand) (text : Text) : Except String Text :=
  match command.finish? (Utf8.encode text) with
  | none =>
    .error ("Failed to spawn " ++ command.program ++ ": " ++ "No such file or directory (os error 2)")
  | some finished =>
    if finished.elapsed.nanoseconds > command.timeout.nanoseconds then
      .error (command.program ++ " timed out after " ++ command.timeout.exactText)
    else if finished.ending != .exited 0 then
      .error (command.program ++ " exited with " ++ finished.ending.text ++ ": "
        ++ String.ofList (Text.trim (Utf8.decodeLossy finished.errors)))
    else
      match Utf8.decode finished.output with
      | .ok text => .ok text
      | .error fault => .error ("non-UTF-8 output: " ++ fault.message)

def formatter (command : FormatCommand) : Formatter :=
  ⟨command.program, command.format⟩

end FormatCommand

/-- The formatter of a command, or the one that changes nothing if there is no command. -/
def Formatter.ofWords (words : List String) : Formatter :=
  match FormatCommand.ofWords? words with
  | some command => command.formatter
  | none => .identity

end AgentProbe
