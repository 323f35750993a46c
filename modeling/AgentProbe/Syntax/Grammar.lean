import AgentProbe.Syntax.Compound
import AgentProbe.Syntax.Expression

set_option autoImplicit false

/-!
The grammar as one recursive parser.

`grammar` ties the productions together.  Its first argument bounds the nesting of goals; every
goal is reached through tokens of its own, so a bound that is a multiple of the text's length is
never felt.
-/

namespace AgentProbe.Syntax

/-- The parser for every goal, with goals nested at most `fuel` deep. -/
def grammar : Nat → Parts
  | 0, _ => do Parse.stop (← Parse.peek {})
  | fuel + 1, goal =>
    match goal with
    | .expression floor lambdaFloor entry follow => do
      pure [← Parse.expression (grammar fuel) floor lambdaFloor entry follow]
    | .primary floor entry follow => do
      pure [← Parse.primary (grammar fuel) floor entry follow]
    | .typing entry follow bounded => do
      pure [← Parse.typing (grammar fuel) entry follow bounded]
    | .caseItem entry follow => do
      pure [← Parse.caseItem (grammar fuel) entry follow]
    | .suite => Parse.suite (grammar fuel)

def nesting (length : Nat) : Nat :=
  8 * (length + 4)

end AgentProbe.Syntax
