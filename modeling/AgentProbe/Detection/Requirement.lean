import AgentProbe.Text.Basic

set_option autoImplicit false

/-!
Requirement lines: the name of a package and the versions of it that are wanted.

A line may also hold extras in brackets, an environment marker after a semicolon and a comment;
these are dropped.  Options and addresses are no requirements.
-/

namespace AgentProbe

/-- A requirement: a package and a version specifier without blanks, `*` for any version. -/
structure Requirement where
  name : String
  specifier : String
deriving DecidableEq, Repr, Inhabited

namespace Requirement

def isNameStart (c : Char) : Bool :=
  c.isAlphanum

def isNameChar (c : Char) : Bool :=
  c.isAlphanum || c == '.' || c == '_' || c == '-'

def before (separator : Char) (text : Text) : Text :=
  text.takeWhile (· != separator)

/-- The text after extras in brackets, if a closing bracket ends them. -/
def afterExtras (text : Text) : Text :=
  match text with
  | '[' :: rest =>
    match rest.dropWhile (· != ']') with
    | _ :: after => after
    | [] => text
  | _ => text

def unwrap (text : Text) : Text :=
  ((text.dropWhile (· == '(')).reverse.dropWhile (· == ')')).reverse

/-- A specifier as it is kept: without blanks, and `*` if nothing is left. -/
def specifierOf (text : Text) : String :=
  match Text.compact (unwrap (Text.trim text)) with
  | [] => "*"
  | kept => String.ofList kept

def readCore? (text : Text) : Option Requirement :=
  match text with
  | [] => none
  | c :: rest =>
    if !isNameStart c then none
    else
      let name := c :: rest.takeWhile isNameChar
      let after := (afterExtras (Text.trimStart (rest.dropWhile isNameChar))).dropWhile isBlank
      if after.contains '\n' then none
      else some ⟨String.ofList name, specifierOf after⟩

def read? (line : Text) : Option Requirement :=
  let line := Text.trim (before '#' line)
  if line.isEmpty || line.head? == some '-' || Text.occurs "://".toList line then none
  else readCore? (Text.trim (before ';' line))

end Requirement

end AgentProbe
