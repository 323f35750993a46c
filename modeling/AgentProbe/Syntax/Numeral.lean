import AgentProbe.Text.Basic

set_option autoImplicit false

/-!
Number literals.

`Numeral.read` takes the longest number at the start of a text: a decimal, hexadecimal, octal or
binary integer, or a floating-point number.  Underscores may separate digits, an integer may end in
a long suffix and any decimal number in an imaginary one.
-/

namespace AgentProbe.Syntax.Numeral

def isDigitOf (radix : Nat) (c : Char) : Bool :=
  let value :=
    if c.isDigit then c.toNat - 48
    else if 'a' ≤ c && c ≤ 'f' then c.toNat - 87
    else if 'A' ≤ c && c ≤ 'F' then c.toNat - 55
    else radix
  value < radix

/-- The length of a run of decimal digits in which one underscore may follow each digit.
`joined` says that the character before was an underscore. -/
def runLength (joined : Bool) : Text → Nat
  | [] => 0
  | c :: rest =>
    if c.isDigit then runLength false rest + 1
    else if c == '_' && !joined then runLength true rest + 1
    else 0

/-- The length of the decimal digits at the start of a text; zero unless it starts with one. -/
def decimalLength : Text → Nat
  | [] => 0
  | c :: rest => if c.isDigit then runLength false (c :: rest) else 0

/-- The length of the digits after a radix mark, where an underscore may stand before each group.
A trailing underscore is not part of the number. -/
def radixLength (radix : Nat) : Text → Nat
  | [] => 0
  | '_' :: c :: rest => if isDigitOf radix c then radixLength radix rest + 2 else 0
  | c :: rest => if isDigitOf radix c then radixLength radix rest + 1 else 0

def exponentLength (text : Text) : Nat :=
  match text with
  | mark :: rest =>
    if mark == 'e' || mark == 'E' then
      let signed : Nat := match rest with
        | sign :: _ => if sign == '+' || sign == '-' then 1 else 0
        | [] => 0
      match decimalLength (rest.drop signed) with
      | 0 => 0
      | digits => 1 + signed + digits
    else 0
  | [] => 0

def suffixLength (allowed : List Char) (text : Text) : Nat :=
  match text with
  | c :: _ => if allowed.contains c then 1 else 0
  | [] => 0

/-- The length of a number that starts with decimal digits, and whether it is a float. -/
def readDecimal (text : Text) : Bool × Nat :=
  let whole := decimalLength text
  match text.drop whole with
  | '.' :: fraction =>
    let digits := decimalLength fraction
    let exponent := exponentLength (fraction.drop digits)
    let size := whole + 1 + digits + exponent
    (true, size + suffixLength ['j', 'J'] (text.drop size))
  | after =>
    match exponentLength after with
    | 0 => (false, whole + suffixLength ['l', 'L', 'j', 'J'] after)
    | exponent =>
      let size := whole + exponent
      (true, size + suffixLength ['j', 'J'] (text.drop size))

def read (text : Text) : Option (Bool × Nat) :=
  match text with
  | '.' :: fraction =>
    match decimalLength fraction with
    | 0 => none
    | digits =>
      let size := 1 + digits + exponentLength (fraction.drop digits)
      some (true, size + suffixLength ['j', 'J'] (text.drop size))
  | '0' :: mark :: rest =>
    let radix :=
      if mark == 'x' || mark == 'X' then 16
      else if mark == 'o' || mark == 'O' then 8
      else if mark == 'b' || mark == 'B' then 2
      else 0
    match radixLength radix rest with
    | 0 => some (readDecimal text)
    | digits => some (false, 2 + digits + suffixLength ['l', 'L'] (rest.drop digits))
  | c :: _ => if c.isDigit then some (readDecimal text) else none
  | [] => none

end AgentProbe.Syntax.Numeral
