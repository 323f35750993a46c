import AgentProbe.Text.Duration

set_option autoImplicit false

/-!
Decimal numerals and floating-point numbers.

A numeral is a whole number and a power of ten.  A floating-point number is written with the fewest
digits that read back as the same number, always positionally, or rounded to a fixed number of
places from its exact value.
-/

namespace AgentProbe

/-- The number `digits * 10 ^ exponent`, possibly negated. -/
structure Decimal where
  negative : Bool := false
  digits : Nat
  exponent : Int
deriving DecidableEq, Repr, Inhabited

namespace Decimal

/-! ### Reading -/

/-- The number that digits stand for in a base, if all are digits of the base and there is one. -/
def readDigits? (base : Nat) (text : Text) : Option Nat :=
  if text.isEmpty then none
  else text.foldlM (fun value c => do
    let digit ← digitValue? c
    if digit < base then some (value * base + digit) else none) 0
where
  /-- The value of a digit. -/
  digitValue? (c : Char) : Option Nat :=
    if '0' ≤ c && c ≤ '9' then some (c.toNat - 48)
    else if 'a' ≤ c && c ≤ 'f' then some (c.toNat - 87)
    else if 'A' ≤ c && c ≤ 'F' then some (c.toNat - 55)
    else none

def isDigit (c : Char) : Bool :=
  '0' ≤ c && c ≤ '9'

def readExponent? (text : Text) : Option Int :=
  match text with
  | [] => some 0
  | mark :: rest =>
    if mark == 'e' || mark == 'E' then
      match rest with
      | '-' :: digits => (readDigits? 10 digits).map fun value => -Int.ofNat value
      | '+' :: digits => (readDigits? 10 digits).map Int.ofNat
      | digits => (readDigits? 10 digits).map Int.ofNat
    else none

def readUnsigned? (text : Text) : Option Decimal :=
  let whole := text.takeWhile isDigit
  let rest := text.dropWhile isDigit
  let (fraction, rest) := match rest with
    | '.' :: rest => (rest.takeWhile isDigit, rest.dropWhile isDigit)
    | _ => ([], rest)
  match readDigits? 10 (whole ++ fraction), readExponent? rest with
  | some digits, some exponent => some { digits, exponent := exponent - fraction.length }
  | _, _ => none

/-- Reads a count that fits a machine word; a plus sign may stand before it. -/
def readCount? (text : Text) : Option Nat :=
  let digits := match text with
    | '+' :: digits => digits
    | digits => digits
  (readDigits? 10 digits).bind fun count => if count < Nat.pow 2 64 then some count else none

def read? : Text → Option Decimal
  | '-' :: rest => (readUnsigned? rest).map fun value => { value with negative := true }
  | '+' :: rest => readUnsigned? rest
  | text => readUnsigned? text

def toFloat (value : Decimal) : Float :=
  let size := (Nat.toDigits 10 value.digits).length + value.exponent
  let magnitude : Float :=
    if value.digits == 0 || size < -400 then 0.0
    else if size > 400 then 1.0 / 0.0
    else Float.ofScientific value.digits (value.exponent < 0) value.exponent.natAbs
  if value.negative then -magnitude else magnitude

/-! ### Writing -/

def reduced (value : Decimal) : Decimal :=
  let zeros := ((Nat.toDigits 10 value.digits).reverse.takeWhile (· == '0')).length
  { value with digits := value.digits / Nat.pow 10 zeros, exponent := value.exponent + zeros }

def text (value : Decimal) : String :=
  let digits := Nat.toDigits 10 value.digits
  let unsigned := match value.exponent with
    | .ofNat zeros => digits ++ List.replicate zeros '0'
    | .negSucc places =>
      let places := places + 1
      let padded := List.replicate (places + 1 - digits.length) '0' ++ digits
      padded.take (padded.length - places) ++ ['.'] ++ padded.drop (padded.length - places)
  (if value.negative then "-" else "") ++ String.ofList unsigned

end Decimal

namespace FloatText

/-- The exact size of a finite number as a quotient of whole numbers. -/
def quotient (x : Float) : Nat × Nat :=
  let bits := x.toBits.toNat
  let raised := bits / Nat.pow 2 52 % 2048
  let fraction := bits % Nat.pow 2 52
  let significand := if raised == 0 then fraction else fraction + Nat.pow 2 52
  let power := if raised == 0 then 1 else raised
  if power ≥ 1075 then (significand * Nat.pow 2 (power - 1075), 1)
  else (significand, Nat.pow 2 (1075 - power))

def isNegative (x : Float) : Bool :=
  x.toBits.toNat ≥ Nat.pow 2 63

/-- How many zeros follow the point of a quotient below one, up to `limit`. -/
def leadingZeros (limit num den : Nat) : Nat :=
  match limit with
  | 0 => 0
  | limit + 1 => if num * 10 ≥ den then 0 else leadingZeros limit (num * 10) den + 1

/-- The number of digits before the point; for a quotient below one, the number of zeros after it,
negated. -/
def position (num den : Nat) : Int :=
  if num ≥ den then (Nat.toDigits 10 (num / den)).length
  else -Int.ofNat (leadingZeros 400 num den)

/-- The numeral with `count` digits nearest to the number, if one of the two around the number reads
back as it. -/
def numeral? (x : Float) (num den : Nat) (count : Nat) : Option Decimal :=
  let shift := (count : Int) - position num den
  let scaled := if shift ≥ 0 then num * Nat.pow 10 shift.natAbs else num
  let divisor := if shift ≥ 0 then den else den * Nat.pow 10 shift.natAbs
  let below : Decimal := { negative := isNegative x, digits := scaled / divisor, exponent := -shift }
  let above := { below with digits := below.digits + 1 }
  let reads := fun value : Decimal => value.toFloat.toBits == x.toBits
  let preferred := if 2 * (scaled % divisor) ≤ divisor then [below, above] else [above, below]
  preferred.find? reads

/-- The number with the fewest digits that read back. -/
def shortest (x : Float) : String :=
  if x.isNaN then "NaN"
  else if x.isInf then if isNegative x then "-inf" else "inf"
  else
    let (num, den) := quotient x
    if num == 0 then if isNegative x then "-0" else "0"
    else
      match (List.range 17).findSome? fun count => numeral? x num den (count + 1) with
      | some value => value.reduced.text
      | none => ""

/-- The number rounded to a fixed number of places, ties to the even neighbour. -/
def fixed (places : Nat) (x : Float) : String :=
  if x.isNaN then "NaN"
  else if x.isInf then if isNegative x then "-inf" else "inf"
  else
    let (num, den) := quotient x
    Decimal.text
      { negative := isNegative x
        digits := Duration.roundedQuotient (num * Nat.pow 10 places) den
        exponent := -Int.ofNat places }

end FloatText

end AgentProbe
