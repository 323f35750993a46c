import AgentProbe.Syntax.Target

set_option autoImplicit false

/-!
Parameters of functions and lambdas.
-/

namespace AgentProbe.Syntax

namespace Parse

def defaultValue? (parts : Parts) (follow : Follow) : Parse (List Node) := do
  let equals ← peek follow.place
  if equals.isOp "=" then
    let sign ← takeToken equals
    pure [sign, ← parts.expression .inside follow]
  else pure []

/-- A parameter that was read, with its type, if types may follow, and its default value. -/
def qualified (parts : Parts) (follow : Follow) (typed defaulted : Bool) (subject : Node) :
    Parse Node := do
  let colon ← peek follow.place
  if typed && colon.isOp ":" then
    let sign ← takeToken colon
    let type ← parts.one (.typing .inside follow false)
    let default ← if defaulted then defaultValue? parts follow else pure []
    if default.isEmpty then build .typedParameter [subject, sign, type]
    else build .typedDefaultParameter ([subject, sign, type] ++ default)
  else
    let default ← if defaulted then defaultValue? parts follow else pure []
    if default.isEmpty then pure subject
    else build .defaultParameter (subject :: default)

def starred (parts : Parts) (follow : Follow) (typed : Bool) (kind : Kind) (star : Node) :
    Parse Node := do
  let lexeme ← peek { string := true }
  let subject ← parts.one (.primary 22 .inside follow)
  if subject.isPlace then
    qualified parts follow typed false (← build kind [star, subject])
  else stop lexeme

def parameter (parts : Parts) (follow : Follow) (typed : Bool) : Parse Node := do
  let lexeme ← peek follow.operand
  match lexeme.token with
  | .word _ =>
    let subject ← take lexeme .identifier
    qualified parts follow typed true subject
  | .operator "(" =>
    let subject ← target parts follow follow
    let default ← defaultValue? parts follow
    if default.isEmpty then pure subject
    else build .defaultParameter (subject :: default)
  | .operator "*" =>
    let star ← takeToken lexeme
    let next ← peek follow.operand
    match next.token with
    | .word _ => starred parts follow typed .listSplatPattern star
    | _ => build .keywordSeparator [star]
  | .operator "**" =>
    let star ← takeToken lexeme
    starred parts follow typed .dictionarySplatPattern star
  | .operator "/" =>
    let slash ← takeToken lexeme
    build .positionalSeparator [slash]
  | _ => stop lexeme

/-- Parameters with commas between them, up to the closing delimiter, which is left. -/
def parameterList (parts : Parts) (follow : Follow) (typed : Bool) (closing : String)
    (opened : List Node) : Parse (List Node) :=
  loop opened fun items => do
    let next ← peek follow.operand
    if next.isOp closing then pure (.inr items)
    else
      let items := items ++ [← parameter parts follow typed]
      let comma ← peek follow.place
      if comma.isOp "," then pure (.inl (items ++ [← takeToken comma]))
      else pure (.inr items)

def parameters (parts : Parts) : Parse Node := do
  let opening ← operator {} "("
  let items ← parameterList parts .bracket true ")" [opening]
  let closing ← operator { closer := true } ")"
  build .parameters (items ++ [closing])

def lambdaParameters (parts : Parts) : Parse (List Node) := do
  let items ← parameterList parts .inside false ":" []
  if items.isEmpty then pure [] else pure [← build .lambdaParameters items]

end Parse

end AgentProbe.Syntax
