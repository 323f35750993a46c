import AgentProbe.CommandLine.Invocation
import AgentProbe.CommandLine.Printed
import AgentProbe.Config.Load
import AgentProbe.Run.Execution

set_option autoImplicit false

/-!
What an invocation does, and what is then printed.
-/

namespace AgentProbe.CommandLine

inductive Deed where
  | instrumented (report : Report)
  | listed (registry : Registry)
  | detected (root : Path) (scan : Scan)

inductive Failure where
  | config (error : ConfigError)
  | registry (error : RegistryError)
  | run (error : RunError)
  /-- The run over a project did not start. -/
  | instrumenting (root : Path) (error : RunError)
deriving Inhabited

def causes (error : RunError) : List String :=
  error.message :: match error with
    | .registry cause => [cause.message]
    | .config cause => [cause.message]
    | _ => []

namespace Failure

/-- The failure and its causes, from the outermost on. -/
def chain : Failure → List String
  | .config error => [error.message]
  | .registry error => [error.message]
  | .run error => causes error
  | .instrumenting root error => ("Instrumentation of " ++ root.text ++ " failed") :: causes error

def numbered (index : Nat) : List String → List String
  | [] => []
  | cause :: causes => ("    " ++ toString index ++ ": " ++ cause) :: numbered (index + 1) causes

/-- The failure as text.  A single cause is not numbered. -/
def message (failure : Failure) : String :=
  match failure.chain with
  | [] => "Error: "
  | [error] => "Error: " ++ error
  | [error, cause] => "Error: " ++ error ++ "\n\nCaused by:\n    " ++ cause
  | error :: causes => "Error: " ++ error ++ "\n\nCaused by:\n" ++ "\n".intercalate (numbered 0 causes)

end Failure

def prepare (disk : Disk) (home : Option Path) (root : Path) (options : Options) :
    Except Failure Setup := do
  let settings ← (Settings.load disk root options).mapError .config
  (Setup.discover disk home settings).mapError .run

/-- Does what is asked for.  The file system is returned with it. -/
def perform (disk : Disk) (home : Option Path) : Request → Except Failure (Deed × Disk)
  | .instrument root options targets _ => do
    let targets ← (targets.mapM Target.read).mapError .config
    let setup ← prepare disk home root { options with targets := nonEmpty targets }
    let execution ← (setup.run disk root).mapError (.instrumenting root)
    pure (.instrumented execution.report, execution.disk)
  | .platforms directories _ => do
    let registry ← (Registry.discover disk home directories).mapError .registry
    pure (.listed registry, disk)
  | .detect root _ => do
    let setup ← prepare disk home root {}
    let scan ← (setup.scan disk root).mapError .run
    pure (.detected root scan, disk)

inductive Output where
  | lines (lines : List String)
  | document (value : Value)

def Request.asksDocument : Request → Bool
  | .instrument _ _ _ json => json
  | .platforms _ json => json
  | .detect _ json => json

def Deed.output (stamp : Stamp) (json : Bool) : Deed → Output
  | .instrumented report =>
    if json then .document (report.document stamp) else .lines (report.lines stamp)
  | .listed registry => if json then .document registry.document else .lines registry.lines
  | .detected root scan => if json then .document scan.document else .lines (scan.lines root)

def helpLines : List String :=
  ["Instrument agent codebases with observability calls",
   "",
   "Usage: agent-instrumentor [OPTIONS] <COMMAND>",
   "",
   "Commands:",
   "  instrument  Instrument a project in place",
   "  platforms   List available platforms",
   "  detect      Detect agent frameworks without changing anything",
   "  help        Print this message or the help of the given subcommand(s)",
   "",
   "Options:",
   "  -v, --verbose...  Increase log verbosity (-v info, -vv debug)",
   "  -h, --help        Print help",
   "  -V, --version     Print version"]

structure Ending where
  status : Nat
  output : Output := .lines []
  /-- What is printed as an error. -/
  error : Option String := none
  disk : Disk

def Halt.ending (disk : Disk) : Halt → Ending
  | .misuse => { status := 2, disk }
  | .help => { status := 0, output := .lines helpLines, disk }
  | .version => { status := 0, output := .lines [programVersion], disk }

/-- The ending of a request.  The stamp is made when the deed is done. -/
def Request.ending (disk : Disk) (request : Request) (stamp : Stamp) :
    Except Failure (Deed × Disk) → Ending
  | .ok (deed, after) =>
    { status := 0, output := deed.output stamp request.asksDocument, disk := after }
  | .error failure => { status := 1, error := some failure.message, disk }

def session (stamp : Stamp) (environment : List (String × String)) (home : Option Path)
    (disk : Disk) (arguments : List String) : Ending :=
  match readInvocation environment arguments with
  | .error halt => halt.ending disk
  | .ok invocation =>
    invocation.request.ending disk stamp (perform disk home invocation.request)

end AgentProbe.CommandLine
