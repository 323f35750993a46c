import AgentProbe.Text.Basic

set_option autoImplicit false

/-!
Blocks of code compared up to layout.

A block drops blank lines and comment lines and all blanks, and remembers at which offsets its lines
began and ended.  One block contains another when the other's text stands between two such offsets;
line breaks inside either are ignored, so that a statement that was laid out anew is still found.
-/

namespace AgentProbe

/-- Code without blanks, with the offsets between its lines. -/
structure Block where
  text : Text
  /-- Where a line begins or ends, in increasing order. -/
  boundaries : List Nat
deriving DecidableEq, Repr, Inhabited

namespace Block

/-- Whether a line counts: it is neither blank nor a comment. -/
def keeps (line : Text) : Bool :=
  match Text.trim line with
  | [] => false
  | c :: _ => c != '#'

def keptLines (text : Text) : List Text :=
  ((Text.lines text).filter keeps).map Text.compact

def append (block : Block) (line : Text) : Block :=
  let text := block.text ++ line
  { text, boundaries := block.boundaries ++ [Text.bytes text] }

def ofText (text : Text) : Block :=
  (keptLines text).foldl append ⟨[], [0]⟩

def isEmpty (block : Block) : Bool :=
  block.text.isEmpty

/-- Whether a block occurs in another, from one line boundary to another. -/
def contains (block needle : Block) : Bool :=
  let size := Text.bytes needle.text
  !needle.isEmpty && block.boundaries.any fun start =>
    block.boundaries.contains (start + size)
      && Text.slice block.text start (start + size) == needle.text

end Block

end AgentProbe
