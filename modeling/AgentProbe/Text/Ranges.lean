/-!
Character classes given as tables of code point ranges.

A class is a list of inclusive ranges in increasing order.  Membership is a search of the list;
every table in this library covers the characters above ASCII only, because the ASCII part of a
class is short enough to be written as a test.
-/

namespace AgentProbe

abbrev Ranges := List (Nat × Nat)

def Ranges.has (table : Ranges) (code : Nat) : Bool :=
  table.any fun range => range.1 ≤ code && code ≤ range.2

/-- A class whose ASCII part is a test and whose remainder is a table. -/
def Ranges.classify (ascii : Char → Bool) (table : Ranges) (c : Char) : Bool :=
  if c.toNat < 128 then ascii c else table.has c.toNat

end AgentProbe
