import AgentProbe.Files.Digest
import AgentProbe.Text.Duration

set_option autoImplicit false

/-!
What tells one run from another: a random name, and when it started and ended.
-/

namespace AgentProbe

structure Stamp where
  name : String
  started : String
  ended : String
deriving DecidableEq, Repr, Inhabited

namespace Stamp

/-- Sixteen random bytes as a name: their hexadecimal digits in five groups, where two digits say
that the bytes are random. -/
def nameOf (bytes : Bytes) : String :=
  let marked := bytes.zipIdx.map fun (byte, index) =>
    if index == 6 then byte % 16 + 64
    else if index == 8 then byte % 64 + 128
    else byte
  let digits := marked.flatMap fun byte => (Digest.hexOf byte.toUInt32).drop 6
  "-".intercalate ([(0, 8), (8, 4), (12, 4), (16, 4), (20, 12)].map fun (start, size) =>
    String.ofList ((digits.drop start).take size))

/-- The days from the first of March of the year zero to the start of 1970. -/
def epochDays : Nat := 719468

/-- The year, month and day of a number of days since the start of 1970.  Years are counted from
March, so that a leap day is the last day of its year. -/
def dateOf (days : Nat) : Nat × Nat × Nat :=
  let days := days + epochDays
  let era := days / 146097
  let dayOfEra := days % 146097
  let yearOfEra := (dayOfEra - dayOfEra / 1460 + dayOfEra / 36524 - dayOfEra / 146096) / 365
  let dayOfYear := dayOfEra - (365 * yearOfEra + yearOfEra / 4 - yearOfEra / 100)
  let shifted := (5 * dayOfYear + 2) / 153
  let day := dayOfYear - (153 * shifted + 2) / 5 + 1
  let month := if shifted < 10 then shifted + 3 else shifted - 9
  (era * 400 + yearOfEra + (if month ≤ 2 then 1 else 0), month, day)

def padded (width value : Nat) : String :=
  String.ofList (Duration.digits width value)

/-- The fraction of a second, with as many groups of three digits as it needs. -/
def fractionText (nanoseconds : Nat) : String :=
  if nanoseconds == 0 then ""
  else if nanoseconds % 1000000 == 0 then "." ++ padded 3 (nanoseconds / 1000000)
  else if nanoseconds % 1000 == 0 then "." ++ padded 6 (nanoseconds / 1000)
  else "." ++ padded 9 nanoseconds

def instantText (nanoseconds : Nat) : String :=
  let seconds := nanoseconds / 1000000000
  let (year, month, day) := dateOf (seconds / 86400)
  padded 4 year ++ "-" ++ padded 2 month ++ "-" ++ padded 2 day ++ "T"
    ++ padded 2 (seconds / 3600 % 24) ++ ":" ++ padded 2 (seconds / 60 % 60) ++ ":"
    ++ padded 2 (seconds % 60) ++ fractionText (nanoseconds % 1000000000) ++ "Z"

end Stamp

end AgentProbe
