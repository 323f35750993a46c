import AgentProbe.Validation.Filter

set_option autoImplicit false

/-!
Scripts: filters joined by pipes, sequences and redirections.

A script is read into words and operators, then into pipelines.  The commands of a script share one
input: what one leaves unread is read by the next.
-/

namespace AgentProbe.Script

inductive Token where
  | word (text : Text)
  | next | both | otherwise | pipe
  /-- A redirection of a stream to a place. -/
  | redirect (stream : Char) (target : Text)
deriving DecidableEq, Repr, Inhabited

inductive Quoting where
  | plain | single | double
deriving DecidableEq, Repr, Inhabited

structure Reading where
  /-- The tokens read, last first. -/
  tokens : List Token := []
  /-- The word begun, last character first. -/
  word : Option Text := none
  quoting : Quoting := .plain
  /-- Whether the last character was a backslash that quotes the next one. -/
  quoted : Bool := false
  /-- The stream of a redirection whose target is being read. -/
  redirecting : Option Char := none
deriving Repr, Inhabited

def Reading.close (reading : Reading) : Reading :=
  match reading.word with
  | none => reading
  | some word =>
    let token := match reading.redirecting with
      | some stream => Token.redirect stream word.reverse
      | none => Token.word word.reverse
    { reading with tokens := token :: reading.tokens, word := none, redirecting := none }

def Reading.operator (reading : Reading) (token : Token) : Reading :=
  let reading := reading.close
  { reading with tokens := token :: reading.tokens }

def Reading.add (reading : Reading) (c : Char) : Reading :=
  { reading with word := some (c :: reading.word.getD []), quoted := false }

def Reading.step (reading : Reading) (c : Char) : Reading :=
  if reading.quoted then
    if reading.quoting == .double && c != '"' && c != '\\' && c != '$' then
      (reading.add '\\').add c
    else reading.add c
  else
    let open_ := { reading with word := some (reading.word.getD []) }
    match reading.quoting with
    | .single => if c.toNat == 39 then { open_ with quoting := .plain } else reading.add c
    | .double =>
      if c == '"' then { open_ with quoting := .plain }
      else if c == '\\' then { reading with quoted := true }
      else reading.add c
    | .plain =>
      if c.toNat == 39 then { open_ with quoting := .single }
      else if c == '"' then { open_ with quoting := .double }
      else if c == '\\' then { reading with quoted := true }
      else if c == ' ' || c == '\t' then reading.close
      else if c == ';' || c == '\n' then reading.operator .next
      else if c == '|' then
        match reading.word, reading.tokens with
        | none, .pipe :: tokens => { reading with tokens := .otherwise :: tokens }
        | _, _ => reading.operator .pipe
      else if c == '&' && !(reading.redirecting.isSome && reading.word.isNone) then
        match reading.word, reading.tokens with
        | none, .next :: tokens => { reading with tokens := .both :: tokens }
        | _, _ => reading.operator .next
      else if c == '>' then
        match reading.word with
        | some [digit] =>
          if digit == '1' || digit == '2' then
            { reading with word := none, redirecting := some digit }
          else { reading.close with redirecting := some '1' }
        | _ => { reading.close with redirecting := some '1' }
      else reading.add c

def tokens (script : Text) : List Token :=
  (script.foldl Reading.step {}).close.tokens.reverse

inductive Sink where
  | output | errors | nowhere
deriving DecidableEq, Repr, Inhabited

structure Command where
  words : List String := []
  output : Sink := .output
  errors : Sink := .errors
deriving Repr, Inhabited

def Command.add (command : Command) : Token → Command
  | .word text => { command with words := command.words ++ [String.ofList text] }
  | .redirect stream target =>
    let sink := if target == ['&', '1'] then command.output
      else if target == ['&', '2'] then command.errors else .nowhere
    if stream == '2' then { command with errors := sink } else { command with output := sink }
  | _ => command

inductive Join where
  | always | onSuccess | onFailure
deriving DecidableEq, Repr, Inhabited

/-- Pipelines, each with what it takes for it to run. -/
abbrev Pipelines := List (Join × List Command)

/-- Adds a token to pipelines, last first and each with its last command first. -/
def addToken (pipelines : Pipelines) (token : Token) : Pipelines :=
  match pipelines, token with
  | pipelines, .next => (.always, [{}]) :: pipelines
  | pipelines, .both => (.onSuccess, [{}]) :: pipelines
  | pipelines, .otherwise => (.onFailure, [{}]) :: pipelines
  | (join, commands) :: rest, .pipe => (join, {} :: commands) :: rest
  | (join, command :: commands) :: rest, token => (join, command.add token :: commands) :: rest
  | pipelines, _ => pipelines

def pipelines (script : Text) : Pipelines :=
  ((tokens script).foldl addToken [(.always, [{}])]).reverse.map fun (join, commands) =>
    (join, commands.reverse)

structure Progress where
  unread : Bytes
  output : Bytes := []
  errors : Bytes := []
  status : Nat := 0
  elapsed : Duration := ⟨0⟩
  /-- How the script ended, if it has. -/
  ended : Option Ending := none
deriving Repr, Inhabited

def signalOf (option : String) : Nat :=
  let word := String.ofList (option.toList.drop 1)
  (word.toNat?.or (signalOfName? word)).getD 15

def runWords (status : Nat) (words : List String) (input : Bytes) : Finished × Option Ending :=
  match words with
  | [] => ({ unread := input }, none)
  | ["exit"] => ({ unread := input }, some (.exited status))
  | ["exit", code] => ({ unread := input }, some (.exited (code.toNat?.getD 2 % 256)))
  | ["kill", "$$"] => ({ unread := input }, some (.killed 15))
  | ["kill", "-s", name, "$$"] => ({ unread := input }, some (.killed ((signalOfName? name).getD 15)))
  | ["kill", signal, "$$"] => ({ unread := input }, some (.killed (signalOf signal)))
  | name :: arguments =>
    match Filter.byName? name with
    | some program => (program arguments input, none)
    | none => ({ Filter.failure 127 ("sh: 1: " ++ name ++ ": not found") with unread := input }, none)

/-- The bytes of a command's streams that reach a sink. -/
def gathered (sink : Sink) (command : Command) (finished : Finished) : Bytes :=
  (if command.output == sink then finished.output else [])
    ++ (if command.errors == sink then finished.errors else [])

/-- Runs the commands of a pipeline after the first; `input` is what the one before wrote. -/
def runPiped (progress : Progress) (input : Bytes) : List Command → Progress
  | [] => { progress with output := progress.output ++ input }
  | command :: commands =>
    let (finished, _) := runWords progress.status command.words input
    let status := match finished.ending with
      | .exited status => status
      | .killed signal => 128 + signal
    runPiped { progress with
      status, errors := progress.errors ++ gathered .errors command finished
      elapsed := ⟨progress.elapsed.nanoseconds + finished.elapsed.nanoseconds⟩ }
      (gathered .output command finished) commands

def runPipeline (progress : Progress) (commands : List Command) : Progress :=
  match commands with
  | [] => progress
  | command :: rest =>
    let (finished, ended) := runWords progress.status command.words progress.unread
    let status := match finished.ending with
      | .exited status => status
      | .killed signal => 128 + signal
    let after := { progress with
      unread := finished.unread, status
      errors := progress.errors ++ gathered .errors command finished
      elapsed := ⟨progress.elapsed.nanoseconds + finished.elapsed.nanoseconds⟩
      ended := if rest.isEmpty then ended else none }
    runPiped after (gathered .output command finished) rest

def runAll (progress : Progress) : Pipelines → Progress
  | [] => progress
  | (join, commands) :: rest =>
    if progress.ended.isSome then progress
    else
      let wanted := match join with
        | .always => true
        | .onSuccess => progress.status == 0
        | .onFailure => progress.status != 0
      if wanted && commands.any (fun command => !command.words.isEmpty) then
        runAll (runPipeline progress commands) rest
      else runAll progress rest

def run (script : Text) (input : Bytes) : Finished :=
  let progress := runAll { unread := input } (pipelines script)
  { ending := progress.ended.getD (.exited progress.status), output := progress.output
    errors := progress.errors, unread := progress.unread, elapsed := progress.elapsed }

end AgentProbe.Script
