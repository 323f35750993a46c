import AgentProbe.Pattern.Source
import AgentProbe.Platform.Descriptor

set_option autoImplicit false

/-!
The memo of patterns: each framework at a version on a platform is resolved once.

The source is asked first.  When it has no answer, the platform's own pattern is used.  A failure is
kept like a success.
-/

namespace AgentProbe

structure PatternRequest where
  framework : String
  version : String
  platform : Platform
  /-- The targets that the platform's own pattern is made for. -/
  targets : List Target
deriving DecidableEq, Repr, Inhabited

/-- What tells requests apart: framework, version and the name of the platform. -/
abbrev PatternKey := String × String × String

namespace PatternRequest

def key (request : PatternRequest) : PatternKey :=
  (request.framework, request.version, request.platform.name)

/-- A pattern whose structure was checked. -/
def checked (pattern : Pattern) : Except PatternError Pattern :=
  match pattern.validate with
  | .ok _ => .ok pattern
  | .error fault => .error fault

def fallback (request : PatternRequest) : Except PatternError Pattern :=
  match request.platform.pattern request.framework request.version request.targets with
  | .ok pattern => checked pattern
  | .error error => .error error

/-- The pattern for a request: the source's if it has one, else the platform's own. -/
def answer (source : Option PatternSource) (request : PatternRequest) :
    Except PatternError Pattern :=
  match source with
  | none => request.fallback
  | some lookup =>
    match lookup request.framework request.version request.platform.name with
    | .ok pattern => checked (pattern.withDefaultId request.platform.name request.framework)
    | .error _ => request.fallback

end PatternRequest

structure PatternMemo where
  answers : List (PatternKey × Except PatternError Pattern) := []
  /-- How many requests were resolved and not taken from the answers. -/
  resolutions : Nat := 0
deriving Inhabited

namespace PatternMemo

def resolve (memo : PatternMemo) (source : Option PatternSource) (request : PatternRequest) :
    Except PatternError Pattern × PatternMemo :=
  match memo.answers.lookup request.key with
  | some answer => (answer, memo)
  | none =>
    let answer := request.answer source
    (answer,
      { answers := memo.answers ++ [(request.key, answer)], resolutions := memo.resolutions + 1 })

end PatternMemo

end AgentProbe
