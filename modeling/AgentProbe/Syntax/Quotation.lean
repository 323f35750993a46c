import AgentProbe.Syntax.Token

set_option autoImplicit false

/-!
The inside of string literals.

Between its delimiters a string is a sequence of pieces: plain content, escape sequences, doubled
braces and, in format strings, interpolations.  `Delimiter.piece` reads the piece at the start of a
text; the expression inside an interpolation is left to the grammar.
-/

namespace AgentProbe.Syntax

inductive Piece where
  | content (length : Nat)
  | escape (length : Nat)
  | backslash
  | doubledBrace
  | openBrace
  | close (length : Nat)
  /-- The string cannot go on. -/
  | broken
deriving DecidableEq, Repr, Inhabited

namespace Delimiter

/-- The end of a run of content: more content, the closing delimiter, or neither. -/
inductive Run where
  | content (length : Nat)
  | close (length : Nat)
  | neither
deriving DecidableEq, Repr, Inhabited

def Run.ofContent (some? : Bool) (length : Nat) : Run :=
  if some? then .content length else .neither

/-- What closes or ends a run of content at a quote mark, given what follows the mark. -/
def atMark (delimiter : Delimiter) (some? : Bool) (length : Nat) (rest : Text) : Run :=
  if delimiter.triple then
    match rest with
    | second :: third :: _ =>
      if second == delimiter.mark && third == delimiter.mark then
        if some? then .content length else .close (length + 3)
      else if second == delimiter.mark then .content (length + 2)
      else .content (length + 1)
    | [second] => .content (length + if second == delimiter.mark then 2 else 1)
    | [] => .content (length + 1)
  else if some? then .content length
  else .close (length + 1)

/-- Reads content up to an escape, a brace, a line end or the closing delimiter.  `skip` counts the
characters that a backslash of a raw or byte string takes along. -/
def run (delimiter : Delimiter) (some? : Bool) (length : Nat) : Nat → Text → Run
  | _, [] => .neither
  | skip + 1, _ :: rest => run delimiter some? (length + 1) skip rest
  | 0, c :: rest =>
    if delimiter.format && (c == '\x7b' || c == '\x7d') then Run.ofContent some? length
    else if c == '\\' then
      if delimiter.raw then
        let quoted : Nat := match rest with
          | next :: _ => if next == delimiter.mark || next == '\\' then 1 else 0
          | [] => 0
        let lineEnd : Nat := match rest.drop quoted with
          | '\r' :: '\n' :: _ => 2
          | '\r' :: _ => 1
          | '\n' :: _ => 1
          | _ => 0
        run delimiter some? (length + 1) (quoted + lineEnd) rest
      else if delimiter.bytes then
        match rest with
        | next :: _ =>
          if next == 'N' || next == 'u' || next == 'U' then run delimiter true (length + 1) 2 rest
          else Run.ofContent some? length
        | [] => Run.ofContent some? length
      else Run.ofContent some? length
    else if c == delimiter.mark then delimiter.atMark some? length rest
    else if c == '\n' && some? && !delimiter.triple then .neither
    else run delimiter true (length + 1) 0 rest

/-- The number of leading characters that satisfy a test, or zero if fewer than `least`; at most
`most` are counted. -/
def countUpTo (p : Char → Bool) (least most : Nat) (text : Text) : Nat :=
  let found := ((text.take most).takeWhile p).length
  if least ≤ found then found else 0

def escapeLength (text : Text) : Nat :=
  let hex := Numeral.isDigitOf 16
  match text with
  | '\\' :: 'u' :: rest => if countUpTo hex 4 4 rest == 4 then 6 else 0
  | '\\' :: 'U' :: rest => if countUpTo hex 8 8 rest == 8 then 10 else 0
  | '\\' :: 'x' :: rest => if countUpTo hex 2 2 rest == 2 then 4 else 0
  | '\\' :: 'N' :: '\x7b' :: rest =>
    let name := (rest.takeWhile (· != '\x7d')).length
    if name > 0 && name < rest.length then name + 4 else 0
  | '\\' :: '\r' :: '\n' :: _ => 3
  | '\\' :: '\n' :: _ => 2
  | '\\' :: c :: rest =>
    if c.isDigit then 1 + countUpTo Char.isDigit 1 3 (c :: rest)
    else if "\"abfrntv\\".toList.contains c || c.toNat == 39 then 2
    else 0
  | _ => 0

def piece (delimiter : Delimiter) (text : Text) : Piece :=
  let plain := match delimiter.run false 0 0 text with
    | .content length => .content length
    | .close length => .close length
    | .neither =>
      match text with
      | '\\' :: _ =>
        match escapeLength text with
        | 0 => .backslash
        | length => .escape length
      | _ => .broken
  match text with
  | '\x7b' :: '\x7b' :: _ => if delimiter.format then .doubledBrace else plain
  | '\x7d' :: '\x7d' :: _ => if delimiter.format then .doubledBrace else plain
  | '\x7b' :: _ => if delimiter.format then .openBrace else plain
  | '\x7d' :: _ => if delimiter.format then .broken else plain
  | _ => plain

end Delimiter

end AgentProbe.Syntax
