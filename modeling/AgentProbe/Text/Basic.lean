import AgentProbe.Text.Ranges

set_option autoImplicit false

/-!
Program text as a list of characters.

Offsets into a text are byte offsets of its UTF-8 form, and a cut is possible only between two
characters.  `Text.cut` is the one operation that turns an offset into a position in the list;
slices and edits are built on it.  The line, blank and replacement functions are the ones that
queries, requirement lines and patterns share.
-/

namespace AgentProbe

abbrev Text := List Char

/-! ### White space -/

def blankRanges : Ranges :=
  [(0x85, 0x85), (0xA0, 0xA0), (0x1680, 0x1680), (0x2000, 0x200A), (0x2028, 0x2029),
   (0x202F, 0x202F), (0x205F, 0x205F), (0x3000, 0x3000)]

/-- Whether a character has the White_Space property. -/
def isBlank (c : Char) : Bool :=
  blankRanges.classify (fun c => c == ' ' || (9 ≤ c.toNat && c.toNat ≤ 13)) c

namespace Text

/-! ### Byte offsets -/

def bytes (text : Text) : Nat :=
  text.foldr (fun c total => c.utf8Size + total) 0

/-- Splits a text after `offset` bytes, if that offset lies between two characters. -/
def cut : Text → Nat → Option (Text × Text)
  | text, 0 => some ([], text)
  | [], _ + 1 => none
  | c :: rest, offset + 1 =>
    if c.utf8Size ≤ offset + 1 then
      (cut rest (offset + 1 - c.utf8Size)).map fun halves => (c :: halves.1, halves.2)
    else none

def isBoundary (text : Text) (offset : Nat) : Bool :=
  (cut text offset).isSome

/-- The characters between two offsets; empty when the offsets do not delimit a piece. -/
def slice (text : Text) (start stop : Nat) : Text :=
  match cut text start with
  | none => []
  | some (_, tail) =>
    if start ≤ stop then
      match cut tail (stop - start) with
      | none => []
      | some (piece, _) => piece
    else []

def upTo (text : Text) (offset : Nat) : Text :=
  slice text 0 offset

def since (text : Text) (offset : Nat) : Text :=
  match cut text offset with
  | none => []
  | some (_, tail) => tail

def lineBreaksBefore (text : Text) (offset : Nat) : Nat :=
  (upTo text offset).count '\n'

/-! ### Blanks -/

def trimStart (text : Text) : Text :=
  text.dropWhile isBlank

def trimEnd (text : Text) : Text :=
  (text.reverse.dropWhile isBlank).reverse

def trim (text : Text) : Text :=
  trimEnd (trimStart text)

def compact (text : Text) : Text :=
  text.filter fun c => !isBlank c

/-! ### Pieces -/

/-- The pieces between the characters that satisfy a test; there is always at least one. -/
def splitBy (p : Char → Bool) : Text → List Text
  | [] => [[]]
  | c :: rest =>
    if p c then [] :: splitBy p rest
    else
      match splitBy p rest with
      | [] => [[c]]
      | piece :: pieces => (c :: piece) :: pieces

def splitOn (separator : Char) (text : Text) : List Text :=
  splitBy (· == separator) text

def words (text : Text) : List Text :=
  (splitBy isBlank text).filter fun word => !word.isEmpty

def dropReturn (line : Text) : Text :=
  match line.getLast? with
  | some '\r' => line.dropLast
  | _ => line

/-- The lines of a text.  A line feed ends a line and takes one carriage return before it along;
no empty line follows the last line feed. -/
def lines (text : Text) : List Text :=
  match (splitOn '\n' text).reverse with
  | [] => []
  | last :: ended =>
    (ended.reverse.map dropReturn) ++ if last.isEmpty then [] else [last]

def headline (text : Text) : Text :=
  match lines text with
  | [] => []
  | line :: _ => trim line

/-! ### Search and replacement -/

def occurs (piece : Text) : Text → Bool
  | [] => piece.isEmpty
  | c :: rest => piece.isPrefixOf (c :: rest) || occurs piece rest

/-- Replaces a non-empty piece wherever it occurs, from left to right; `skip` counts the
characters of a replaced occurrence that are still to be passed over. -/
def replaceFrom (piece replacement : Text) : Nat → Text → Text
  | _, [] => []
  | skip + 1, _ :: rest => replaceFrom piece replacement skip rest
  | 0, c :: rest =>
    if piece.isPrefixOf (c :: rest) then
      replacement ++ replaceFrom piece replacement (piece.length - 1) rest
    else c :: replaceFrom piece replacement 0 rest

/-- Replaces every occurrence of a piece, from left to right.  The empty piece occurs before every
character and at the end. -/
def replace (piece replacement text : Text) : Text :=
  if piece.isEmpty then text.foldr (fun c rest => replacement ++ c :: rest) replacement
  else replaceFrom piece replacement 0 text

def join (separator : Text) : List Text → Text
  | [] => []
  | [piece] => piece
  | piece :: pieces => piece ++ separator ++ join separator pieces

end Text

/-! ### The same operations on strings -/

def trimmed (s : String) : String :=
  String.ofList (Text.trim s.toList)

def compacted (s : String) : String :=
  String.ofList (Text.compact s.toList)

def replaced (piece replacement s : String) : String :=
  String.ofList (Text.replace piece.toList replacement.toList s.toList)

def isBlankString (s : String) : Bool :=
  s.toList.all isBlank

end AgentProbe
