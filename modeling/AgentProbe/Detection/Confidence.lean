import AgentProbe.Text.Basic

set_option autoImplicit false

/-!
How sure a match is.

A score grows with the number of places where a framework is imported, up to a limit, and with how
tightly its version is pinned.  Detection takes the scores as a parameter: floating-point numbers
when it runs, and exact twentieths where its laws are stated.
-/

namespace AgentProbe

inductive Basis where
  /-- Declared in the manifest and imported. -/
  | declaredAndUsed
  /-- Imported but not declared. -/
  | usageOnly
  /-- Declared but never imported. -/
  | declarationOnly
  /-- Imported, and there is no manifest. -/
  | heuristic
deriving DecidableEq, Repr, Inhabited

def Basis.name : Basis → String
  | .declaredAndUsed => "declared_and_used"
  | .usageOnly => "usage_only"
  | .declarationOnly => "declaration_only"
  | .heuristic => "heuristic"

inductive Pin where
  | free | ranged | exact
deriving DecidableEq, Repr, Inhabited

/-- The pin of a specifier: a bare version is exact, like two equals signs. -/
def Pin.ofSpecifier (specifier : String) : Pin :=
  let text := Text.trim specifier.toList
  if "==".toList.isPrefixOf text then .exact
  else if text.isEmpty || text == ['*'] then .free
  else if (text.head?.map Char.isDigit) == some true then .exact
  else .ranged

/-- Evidence beyond this count adds nothing. -/
def evidenceLimit : Nat := 4

structure Scoring (σ : Type) where
  /-- A match that is declared and used. -/
  declared : Nat → Pin → σ
  /-- A match that is used only. -/
  used : Nat → σ
  /-- A match that is declared only. -/
  declaredOnly : σ
  /-- A match without a manifest. -/
  heuristic : Nat → σ
  /-- Whether the first score is higher. -/
  higher : σ → σ → Bool

namespace Scoring

def lesser (x y : Float) : Float :=
  if x ≤ y then x else y

def pinScore : Pin → Float
  | .free => 0.0
  | .ranged => 0.05
  | .exact => 0.1

def floating : Scoring Float where
  declared count pin :=
    lesser (0.7 + Float.ofNat (min count evidenceLimit) * 0.05 + pinScore pin) 1.0
  used count := lesser (0.15 + 0.05 * Float.ofNat (min count evidenceLimit)) 0.45
  declaredOnly := 0.2
  heuristic count := lesser (0.1 + 0.1 * Float.ofNat (min count evidenceLimit)) 0.4
  higher x y := y < x

def pinTwentieths : Pin → Nat
  | .free => 0
  | .ranged => 1
  | .exact => 2

/-- Scores as exact numbers of twentieths. -/
def twentieths : Scoring Nat where
  declared count pin := min (14 + min count evidenceLimit + pinTwentieths pin) 20
  used count := min (3 + min count evidenceLimit) 9
  declaredOnly := 4
  heuristic count := min (2 + 2 * min count evidenceLimit) 8
  higher x y := y < x

end Scoring

end AgentProbe
