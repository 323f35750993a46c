import AgentProbe.Text.Duration
import AgentProbe.Text.Utf8

set_option autoImplicit false

/-!
Text filters: the programs that a formatter command may name.

A program gets its arguments and its whole input, and leaves an output, an error output and an
ending.  The filters here copy, translate, substitute and select text.
-/

namespace AgentProbe

inductive Ending where
  | exited (status : Nat)
  | killed (signal : Nat)
deriving DecidableEq, Repr, Inhabited

def signals : List (Nat × String) :=
  [(1, "SIGHUP"), (2, "SIGINT"), (3, "SIGQUIT"), (4, "SIGILL"), (5, "SIGTRAP"), (6, "SIGABRT"),
   (7, "SIGBUS"), (8, "SIGFPE"), (9, "SIGKILL"), (10, "SIGUSR1"), (11, "SIGSEGV"), (12, "SIGUSR2"),
   (13, "SIGPIPE"), (14, "SIGALRM"), (15, "SIGTERM")]

def signalName (signal : Nat) : String :=
  (signals.lookup signal).getD "unknown"

def signalOfName? (name : String) : Option Nat :=
  (signals.find? fun entry => entry.2 == name || entry.2 == "SIG" ++ name).map Prod.fst

def Ending.text : Ending → String
  | .exited status => "exit status: " ++ toString status
  | .killed signal => "signal: " ++ toString signal ++ " (" ++ signalName signal ++ ")"

structure Finished where
  ending : Ending := .exited 0
  output : Bytes := []
  errors : Bytes := []
  /-- The input that was not read. -/
  unread : Bytes := []
  elapsed : Duration := ⟨0⟩
deriving Repr, Inhabited

/-- A program: from arguments and input to what it leaves behind. -/
abbrev Program := List String → Bytes → Finished

namespace Filter

def failure (status : Nat) (message : String) : Finished :=
  { ending := .exited status, errors := Utf8.encode (message ++ "\n").toList }

def printing (text : Text) (input : Bytes) : Finished :=
  { output := Utf8.encode text, unread := input }

/-! ### Lines -/

/-- The lines of the bytes, each with the line feed that ends it, if one does. -/
def byteLines : Bytes → List Bytes
  | [] => []
  | b :: rest =>
    if b == 10 then [b] :: byteLines rest
    else match byteLines rest with
      | [] => [[b]]
      | line :: lines => (b :: line) :: lines

def onLine (f : Text → Text) (line : Bytes) : Bytes :=
  if line.getLast? == some 10 then Utf8.encode (f (Utf8.decodeLossy line.dropLast)) ++ [10]
  else Utf8.encode (f (Utf8.decodeLossy line))

/-! ### Escapes -/

def octalDigit? (c : Char) : Option Nat :=
  if '0' ≤ c && c ≤ '7' then some (c.toNat - 48) else none

def escapeByte? : Char → Option UInt8
  | 'n' => some 10 | 't' => some 9 | 'r' => some 13 | 'a' => some 7 | 'b' => some 8
  | 'f' => some 12 | 'v' => some 11 | '\\' => some 92 | _ => none

/-- The bytes of a text with escapes; `octal` is the octal escape being read, with the digits it may
still take. -/
def unescape : Option (Nat × Nat) → Bool → Text → Bytes
  | none, false, [] => []
  | none, true, [] => [92]
  | some (value, _), _, [] => [UInt8.ofNat value]
  | some (value, left), _, c :: rest =>
    match left, octalDigit? c with
    | left + 1, some digit => unescape (some (value * 8 + digit, left)) false rest
    | _, _ =>
      UInt8.ofNat value ::
        (if c == '\\' then unescape none true rest
         else String.utf8EncodeChar c ++ unescape none false rest)
  | none, true, c :: rest =>
    match octalDigit? c, escapeByte? c with
    | some digit, _ => unescape (some (digit, 2)) false rest
    | none, some byte => byte :: unescape none false rest
    | none, none => 92 :: String.utf8EncodeChar c ++ unescape none false rest
  | none, false, c :: rest =>
    if c == '\\' then unescape none true rest
    else String.utf8EncodeChar c ++ unescape none false rest

/-! ### The filters -/

def copy : Program := fun arguments input =>
  match arguments.find? fun word => word.toList.head? != some '-' with
  | some file => { failure 1 ("cat: " ++ file ++ ": No such file or directory") with unread := input }
  | none => { output := input }

def ending (status : Nat) : Program := fun _ input =>
  { ending := .exited status, unread := input }

def pause : Program := fun arguments input =>
  match arguments with
  | [word] =>
    match (Text.splitOn '.' word.toList) with
    | [whole] => { unread := input, elapsed := .ofMilliseconds ((String.ofList whole).toNat?.getD 0 * 1000) }
    | [whole, part] =>
      let places := (part ++ ['0', '0', '0']).take 3
      { unread := input
        elapsed := .ofMilliseconds ((String.ofList (whole ++ places)).toNat?.getD 0) }
    | _ => failure 1 ("sleep: invalid time interval '" ++ word ++ "'")
  | _ => failure 1 "sleep: missing operand"

def byteRange (first last : UInt8) : Bytes :=
  (List.range (last.toNat + 1 - first.toNat)).map fun offset => UInt8.ofNat (first.toNat + offset)

/-- The set of bytes that a word names; a dash between two bytes makes a range. -/
def byteSet : Bytes → Bytes
  | first :: 45 :: last :: rest => byteRange first last ++ byteSet rest
  | b :: rest => b :: byteSet rest
  | [] => []

def setOf (word : String) : Bytes :=
  if word == "[:lower:]" then byteRange 97 122
  else if word == "[:upper:]" then byteRange 65 90
  else if word == "[:digit:]" then byteRange 48 57
  else if word == "[:space:]" then byteRange 9 13 ++ [32]
  else byteSet (unescape none false word.toList)

def translate : Program := fun arguments input =>
  match arguments with
  | ["-d", set] => { output := input.filter fun b => !(setOf set).contains b }
  | [source, target] =>
    let target := setOf target
    let pairs := ((setOf source).zipIdx.map fun (b, i) =>
      (b, (target[i]?).getD (target.getLastD b))).reverse
    { output := input.map fun b => (pairs.lookup b).getD b }
  | _ => failure 1 "tr: missing operand"

/-- A piece of a simple pattern: one character or any, possibly repeated. -/
structure Piece where
  /-- The character; none for any. -/
  char : Option Char
  repeated : Bool := false
deriving DecidableEq, Repr, Inhabited

def Piece.takes (piece : Piece) (c : Char) : Bool :=
  match piece.char with
  | none => true
  | some d => c == d

def piecesOf : Text → List Piece
  | '\\' :: c :: '*' :: rest => ⟨some c, true⟩ :: piecesOf rest
  | '\\' :: c :: rest => ⟨some c, false⟩ :: piecesOf rest
  | c :: '*' :: rest => ⟨if c == '.' then none else some c, true⟩ :: piecesOf rest
  | c :: rest => ⟨if c == '.' then none else some c, false⟩ :: piecesOf rest
  | [] => []

def Piece.rests (piece : Piece) : Text → List Text
  | [] => [[]]
  | c :: rest => if piece.takes c then piece.rests rest ++ [c :: rest] else [c :: rest]

/-- What remains of a text after the pieces, if they match at its start; `atEnd` asks that nothing
remains. -/
def after (atEnd : Bool) : List Piece → Text → Option Text
  | [], text => if atEnd && !text.isEmpty then none else some text
  | piece :: pieces, text =>
    if piece.repeated then (piece.rests text).findSome? (after atEnd pieces)
    else match text with
      | c :: rest => if piece.takes c then after atEnd pieces rest else none
      | [] => none

structure Substitution where
  pieces : List Piece
  atStart : Bool
  atEnd : Bool
  replacement : Text
  everywhere : Bool
deriving Repr, Inhabited

/-- The line with the pattern replaced; `skip` counts the characters of a match still to be passed
over. -/
def Substitution.applyFrom (s : Substitution) (started : Bool) (skip : Nat) : Text → Text
  | [] =>
    if skip == 0 && !(s.atStart && started) && (s.everywhere || !started) then
      match after s.atEnd s.pieces [] with
      | some _ => s.replacement
      | none => []
    else []
  | c :: rest =>
    match skip with
    | skip + 1 => s.applyFrom true skip rest
    | 0 =>
      if s.atStart && started then c :: rest
      else match after s.atEnd s.pieces (c :: rest) with
        | some remaining =>
          let length := (c :: rest).length - remaining.length
          if !s.everywhere then s.replacement ++ remaining
          else if length == 0 then s.replacement ++ c :: s.applyFrom true 0 rest
          else s.replacement ++ s.applyFrom true (length - 1) rest
        | none => c :: s.applyFrom (s.atStart || started) 0 rest

def Substitution.read? (script : Text) : Option Substitution :=
  match script with
  | 's' :: mark :: rest =>
    match Text.splitOn mark rest with
    | [pattern, replacement, flags] =>
      let atStart := pattern.head? == some '^'
      let pattern := if atStart then pattern.tail else pattern
      let atEnd := pattern.getLast? == some '$'
      let pattern := if atEnd then pattern.dropLast else pattern
      if flags == [] || flags == ['g'] then
        some ⟨piecesOf pattern, atStart, atEnd, replacement, flags == ['g']⟩
      else none
    | _ => none
  | _ => none

/-- The scripts among the arguments: one alone, or each after an option. -/
def scriptsOf : List String → Option (List String)
  | [script] => some [script]
  | ["-e", script] => some [script]
  | "-e" :: script :: rest => (scriptsOf rest).map (script :: ·)
  | _ => none

def substitute : Program := fun arguments input =>
  match scriptsOf arguments with
  | none => failure 1 "sed: no script"
  | some scripts =>
    match scripts.mapM fun script => Substitution.read? script.toList with
    | some substitutions =>
      let edit (line : Text) : Text := substitutions.foldl (fun line s => s.applyFrom false 0 line) line
      { output := (byteLines input).flatMap (onLine edit) }
    | none => failure 1 ("sed: -e expression #1, char 0: no previous regular expression")

def endedLines (input : Bytes) : List Bytes :=
  (byteLines input).map fun line => if line.getLast? == some 10 then line else line ++ [10]

def sortLines : Program := fun _ input =>
  { output := ((endedLines input).mergeSort fun a b => decide (a.dropLast ≤ b.dropLast)).flatten }

def reverseLines : Program := fun _ input =>
  { output := (byteLines input).flatMap (onLine List.reverse) }

def lastLineFirst : Program := fun _ input =>
  { output := (byteLines input).reverse.flatten }

def lineCount (arguments : List String) : Nat :=
  match arguments with
  | ["-n", count] => count.toNat?.getD 10
  | [word] =>
    match word.toList with
    | '-' :: 'n' :: digits => (String.ofList digits).toNat?.getD 10
    | '-' :: digits => (String.ofList digits).toNat?.getD 10
    | _ => 10
  | _ => 10

def firstLines : Program := fun arguments input =>
  { output := ((byteLines input).take (lineCount arguments)).flatten }

def lastLines : Program := fun arguments input =>
  let lines := byteLines input
  { output := (lines.drop (lines.length - lineCount arguments)).flatten }

def echo : Program := fun arguments input =>
  match arguments with
  | "-n" :: words => printing (" ".intercalate words).toList input
  | words => { output := unescape none false (" ".intercalate words).toList ++ [10], unread := input }

/-- A format with escapes, in which each `%s` stands for an argument. -/
def fillFormat : List String → Text → Text
  | arguments, '%' :: 's' :: rest =>
    ((arguments.headD "").toList.flatMap fun c => if c == '\\' then ['\\', '\\'] else [c])
      ++ fillFormat arguments.tail rest
  | arguments, '%' :: '%' :: rest => '%' :: fillFormat arguments rest
  | arguments, c :: rest => c :: fillFormat arguments rest
  | _, [] => []

def slots : Text → Nat
  | '%' :: 's' :: rest => slots rest + 1
  | '%' :: '%' :: rest => slots rest
  | _ :: rest => slots rest
  | [] => 0

def partsOf (words : List String) (length : Nat) : List (List String) :=
  (List.range ((words.length + length - 1) / length)).map fun index =>
    (words.drop (index * length)).take length

/-- Writes a format, again and again while arguments remain that it takes. -/
def printFormat : Program := fun arguments input =>
  match arguments with
  | format :: words =>
    let format := format.toList
    let fillings := if words.isEmpty || slots format == 0 then [words] else partsOf words (slots format)
    { output := fillings.flatMap fun words => unescape none false (fillFormat words format)
      unread := input }
  | [] => { failure 2 "printf: usage: printf format [arguments]" with unread := input }

def named? : String → Option Program
  | "cat" => some copy
  | "tr" => some translate
  | "sed" => some substitute
  | "sleep" => some pause
  | "true" => some (ending 0)
  | "false" => some (ending 1)
  | "head" => some firstLines
  | "tail" => some lastLines
  | "sort" => some sortLines
  | "rev" => some reverseLines
  | "tac" => some lastLineFirst
  | "echo" => some echo
  | "printf" => some printFormat
  | _ => none

/-- The name of a program that may be written with the directory of the filters. -/
def baseName (name : String) : String :=
  match Text.splitOn '/' name.toList with
  | [[], ['b', 'i', 'n'], base] => String.ofList base
  | [[], ['u', 's', 'r'], ['b', 'i', 'n'], base] => String.ofList base
  | _ => name

def byName? (name : String) : Option Program :=
  named? (baseName name)

end Filter

end AgentProbe
