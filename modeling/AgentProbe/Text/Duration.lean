import AgentProbe.Text.Basic

set_option autoImplicit false

/-!
Spans of time, in nanoseconds, and how they are written.

The unit is the largest of s, ms, µs and ns that the span reaches.  A span is written exactly, or
rounded to a number of places with ties to the even neighbour.
-/

namespace AgentProbe

structure Duration where
  nanoseconds : Nat
deriving DecidableEq, Repr, Inhabited

namespace Duration

def ofMilliseconds (count : Nat) : Duration :=
  ⟨count * 1000000⟩

def ofMicroseconds (count : Nat) : Duration :=
  ⟨count * 1000⟩

/-- The unit a span is written in, the nanoseconds in it, and the digits of that number after the
first. -/
def unit (span : Duration) : String × Nat × Nat :=
  if span.nanoseconds ≥ 1000000000 then ("s", 1000000000, 9)
  else if span.nanoseconds ≥ 1000000 then ("ms", 1000000, 6)
  else if span.nanoseconds ≥ 1000 then ("µs", 1000, 3)
  else ("ns", 1, 0)

def digits (places value : Nat) : Text :=
  (List.range places).reverse.map fun place => Char.ofNat (48 + value / Nat.pow 10 place % 10)

/-- A quotient rounded to the nearest whole number, ties to the even one. -/
def roundedQuotient (value divisor : Nat) : Nat :=
  let quotient := value / divisor
  let twice := 2 * (value % divisor)
  if twice > divisor || (twice == divisor && quotient % 2 == 1) then quotient + 1 else quotient

def exactText (span : Duration) : String :=
  let (name, size, places) := span.unit
  let fraction := digits places (span.nanoseconds % size)
  let kept := (fraction.reverse.dropWhile (· == '0')).reverse
  toString (span.nanoseconds / size) ++ (if kept.isEmpty then "" else "." ++ String.ofList kept) ++ name

def roundedText (places : Nat) (span : Duration) : String :=
  let (name, size, _) := span.unit
  let rounded := roundedQuotient (span.nanoseconds * Nat.pow 10 places) size
  toString (rounded / Nat.pow 10 places) ++ "." ++ String.ofList (digits places (rounded % Nat.pow 10 places))
    ++ name

end Duration

end AgentProbe
