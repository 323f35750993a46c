import AgentProbe.Files.Disk

set_option autoImplicit false

/-!
Globs: the patterns by which files and directories are excluded.

A glob is read into a small regular expression over bytes.  `*`, `?` and classes match any byte, a
slash too.  Two stars that stand for whole components match any number of them; elsewhere they are
two single stars.  Matching computes what may remain of the path after the glob.
-/

namespace AgentProbe

inductive Glob where
  | nothing
  | byte (value : UInt8)
  | anyByte
  | anyBytes
  /-- Any number of leading components. -/
  | leading
  /-- A slash and all that lies below it. -/
  | descendants
  /-- A slash, and any number of components after it. -/
  | between
  /-- One byte in one of the ranges, or in none of them. -/
  | oneOf (negated : Bool) (ranges : List (UInt8 × UInt8))
  | either (left right : Glob)
  | follow (first second : Glob)
deriving DecidableEq, Repr, Inhabited

inductive GlobFault where
  | unclosedClass
  | invalidRange (first last : Char)
  | unopenedGroup
  | unclosedGroup
  | danglingEscape
deriving DecidableEq, Repr, Inhabited

def GlobFault.message : GlobFault → String
  | .unclosedClass => "unclosed character class; missing ']'"
  | .invalidRange first last =>
    "invalid range; '" ++ String.singleton first ++ "' > '" ++ String.singleton last ++ "'"
  | .unopenedGroup =>
    "unopened alternate group; missing '\x7b' (maybe escape '\x7d' with '[\x7d]'?)"
  | .unclosedGroup =>
    "unclosed alternate group; missing '\x7d' (maybe escape '\x7b' with '[\x7b]'?)"
  | .danglingEscape => "dangling '\\'"

namespace Glob

/-! ### Matching -/

def suffixes : Bytes → List Bytes
  | [] => [[]]
  | b :: rest => (b :: rest) :: suffixes rest

def afterSlashes : Bytes → List Bytes
  | [] => []
  | b :: rest => if b == 47 then rest :: afterSlashes rest else afterSlashes rest

/-- All that may remain of the bytes after a match of the glob. -/
def rests : Glob → Bytes → List Bytes
  | .nothing, bytes => [bytes]
  | .byte value, b :: rest => if b == value then [rest] else []
  | .anyByte, _ :: rest => [rest]
  | .anyBytes, bytes => suffixes bytes
  | .leading, bytes => bytes :: afterSlashes bytes
  | .descendants, b :: rest => if b == 47 then suffixes rest else []
  | .between, b :: rest => if b == 47 then rest :: afterSlashes rest else []
  | .oneOf negated ranges, b :: rest =>
    if (ranges.any fun range => range.1 ≤ b && b ≤ range.2) != negated then [rest] else []
  | .either left right, bytes => rests left bytes ++ rests right bytes
  | .follow first second, bytes => ((rests first bytes).flatMap (rests second)).eraseDups
  | _, [] => []

def isMatch (glob : Glob) (bytes : Bytes) : Bool :=
  (glob.rests bytes).any List.isEmpty

/-! ### Reading -/

def sequence (parts : List Glob) : Glob :=
  match parts.filter (· != .nothing) with
  | [] => .nothing
  | part :: parts => parts.foldl .follow part

def alternatives (branches : List Glob) : Glob :=
  match branches.filter (· != .nothing) with
  | [] => .nothing
  | branch :: branches => branches.foldl .either branch

def literal (c : Char) : Glob :=
  sequence ((String.utf8EncodeChar c).map .byte)

/-- The bytes of a class that a range of characters stands for: all bytes of its ends, and those
between the last byte of the first end and the first byte of the last. -/
def byteRanges (range : Char × Char) : List (UInt8 × UInt8) :=
  let first := String.utf8EncodeChar range.1
  let last := String.utf8EncodeChar range.2
  let single := fun b : UInt8 => (b, b)
  if range.1 == range.2 then first.map single
  else first.dropLast.map single ++ [(first.getLastD 0, last.headD 0)] ++ (last.drop 1).map single

/-- The ranges of a class, last first, and what follows its closing bracket.  `opening` holds before
the first member, `inRange` after a dash. -/
def readClass (opening inRange : Bool) (ranges : List (Char × Char)) :
    Text → Except GlobFault (List (Char × Char) × Text)
  | [] => .error .unclosedClass
  | c :: rest =>
    if c == ']' && !opening then
      .ok (if inRange then ('-', '-') :: ranges else ranges, rest)
    else if c == '-' && !opening && !inRange then readClass false true ranges rest
    else
      match inRange, ranges with
      | true, (first, _) :: others =>
        if c < first then .error (.invalidRange first c)
        else readClass false false ((first, c) :: others) rest
      | _, _ => readClass false false ((c, c) :: ranges) rest

/-- What follows a class is shorter than what it was read from. -/
theorem readClass_shorter (opening inRange : Bool) (ranges : List (Char × Char)) (text : Text)
    (result : List (Char × Char) × Text)
    (read : readClass opening inRange ranges text = .ok result) :
    result.2.length < text.length := by
  fun_induction readClass opening inRange ranges text with
  | case1 => simp at read
  | case2 opening ranges c rest closes =>
    simp only [Except.ok.injEq] at read
    subst read
    simp
  | case3 opening inRange ranges c rest _ _ ih =>
    have := ih read
    simp only [List.length_cons]
    omega
  | case4 => simp at read
  | case5 opening c rest _ first last others _ _ ih =>
    have := ih read
    simp only [List.length_cons]
    omega
  | case6 opening inRange ranges c rest _ _ _ ih =>
    have := ih read
    simp only [List.length_cons]
    omega

structure Group where
  /-- The parts before the group, last first. -/
  before : List Glob
  /-- The branches that are complete, last first. -/
  branches : List Glob := []
deriving Repr, Inhabited

structure Reading where
  /-- The parts of the current branch, last first. -/
  parts : List Glob := []
  /-- The open groups, innermost first. -/
  groups : List Group := []
deriving Repr, Inhabited

namespace Reading

def push (reading : Reading) (part : Glob) : Reading :=
  { reading with parts := part :: reading.parts }

def pushStars (reading : Reading) : Reading :=
  (reading.push .anyBytes).push .anyBytes

def pushComponents (reading : Reading) (part : Glob) : Reading :=
  match reading.parts with
  | [] => reading.push part
  | last :: parts =>
    { reading with
      parts := (if last == .leading || last == .descendants then last else part) :: parts }

def branch (reading : Reading) : Glob :=
  sequence reading.parts.reverse

end Reading

def readFrom (before : Option Char) (reading : Reading) (text : Text) :
    Except GlobFault Reading :=
  match text with
  | [] => .ok reading
  | '?' :: rest => readFrom (some '?') (reading.push .anyByte) rest
  | '*' :: '*' :: rest =>
    let atStart := before == some '/' ||
      (!reading.groups.isEmpty && (before == some ',' || before == some '\x7b'))
    let next := rest.head?
    if reading.parts.isEmpty then
      if next == none || next == some '/' then
        readFrom next (reading.push .leading) rest.tail
      else readFrom (some '*') reading.pushStars rest
    else if !atStart then readFrom (some '*') reading.pushStars rest
    else if next == none || next == some '/' then
      readFrom next
        (reading.pushComponents (if next == none then .descendants else .between)) rest.tail
    else if !reading.groups.isEmpty && (next == some ',' || next == some '\x7d') then
      readFrom (some '*') (reading.pushComponents .descendants) rest
    else readFrom (some '*') reading.pushStars rest
  | '*' :: rest => readFrom (some '*') (reading.push .anyBytes) rest
  | '[' :: rest =>
    let negated := rest.head? == some '!' || rest.head? == some '^'
    match _read : readClass true false [] (if negated then rest.tail else rest) with
    | .error fault => .error fault
    | .ok (ranges, after) =>
      readFrom (some ']') (reading.push (.oneOf negated (ranges.reverse.flatMap byteRanges))) after
  | '\x7b' :: rest =>
    readFrom (some '\x7b') { parts := [], groups := { before := reading.parts } :: reading.groups } rest
  | '\x7d' :: rest =>
    match reading.groups with
    | [] => .error .unopenedGroup
    | group :: groups =>
      let part := alternatives (reading.branch :: group.branches).reverse
      readFrom (some '\x7d') { parts := part :: group.before, groups } rest
  | ',' :: rest =>
    match reading.groups with
    | [] => readFrom (some ',') (reading.push (literal ',')) rest
    | group :: groups =>
      readFrom (some ',')
        { parts := [], groups := { group with branches := reading.branch :: group.branches } :: groups }
        rest
  | '\\' :: rest =>
    match rest with
    | [] => .error .danglingEscape
    | c :: after => readFrom (some c) (reading.push (literal c)) after
  | c :: rest => readFrom (some c) (reading.push (literal c)) rest
termination_by text.length
decreasing_by
  all_goals simp only [List.length_cons, List.length_tail]
  all_goals try omega
  have shorter := readClass_shorter _ _ _ _ _ (by assumption)
  have := List.length_tail (l := rest)
  simp only at shorter
  split at shorter <;> omega

/-- Reads a glob.  Leading stars that stand for components and are the whole glob, not a branch of
a group, match everything. -/
def read (text : Text) : Except GlobFault Glob := do
  let reading ← readFrom none {} text
  if !reading.groups.isEmpty then .error .unclosedGroup
  else if text.head? == some '*' && reading.parts == [.leading] then .ok .anyBytes
  else .ok reading.branch

def excludes (globs : List Glob) (location : Location) : Bool :=
  let bytes := Utf8.encode ("/".intercalate location).toList
  globs.any fun glob => glob.isMatch bytes

end Glob

end AgentProbe
