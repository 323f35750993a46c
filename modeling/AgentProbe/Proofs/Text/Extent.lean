import AgentProbe.Proofs.Text.Lines
import AgentProbe.Proofs.Text.Offset

set_option autoImplicit false

/-!
Lines and where they stand.

A line is what stands between two line ends.  With the offset at which it starts, it can be compared
with a span of bytes: every offset of a text lies on exactly one line, whose own line end counts as
part of it.
-/

namespace AgentProbe.Text

theorem bytes_concat (text : Text) (c : Char) : bytes (text ++ [c]) = bytes text + c.utf8Size :=
  bytes_append text [c]

theorem newline_size : ('\n' : Char).utf8Size = 1 := rfl

/-! ### The first line and the others -/

def firstLine (text : Text) : Text :=
  text.takeWhile (· != '\n')

def laterLines (text : Text) : List Text :=
  (splitOn '\n' text).tail

theorem firstLine_newline (text : Text) : firstLine ('\n' :: text) = [] := rfl

theorem laterLines_newline (text : Text) : laterLines ('\n' :: text) = splitOn '\n' text := rfl

theorem firstLine_cons {c : Char} (joins : c ≠ '\n') (text : Text) :
    firstLine (c :: text) = c :: firstLine text :=
  List.takeWhile_cons_of_pos (bne_iff_ne.mpr joins)

theorem splitOn_newline (text : Text) : splitOn '\n' text = firstLine text :: laterLines text := by
  unfold laterLines splitOn
  induction text with
  | nil => rfl
  | cons c rest ih =>
      rw [splitBy]
      by_cases ends : c = '\n'
      · subst ends
        rfl
      · rw [if_neg (by simpa using ends), ih, firstLine_cons ends]
        rfl

theorem laterLines_cons {c : Char} (joins : c ≠ '\n') (text : Text) :
    laterLines (c :: text) = laterLines text := by
  have whole := splitOn_newline text
  unfold splitOn at whole
  rw [laterLines, splitOn, splitBy, if_neg (by simpa using joins), whole]
  rfl

theorem laterLines_sublist (before after : Text) :
    (laterLines after).Sublist (laterLines (before ++ after)) := by
  induction before with
  | nil => exact List.Sublist.refl _
  | cons c before ih =>
      rw [List.cons_append]
      by_cases ends : c = '\n'
      · rw [ends, laterLines_newline, splitOn_newline]
        exact ih.cons _
      · rw [laterLines_cons ends]
        exact ih

theorem firstLine_cases (text : Text) :
    (text = firstLine text ∧ laterLines text = []) ∨
      ∃ rest, text = firstLine text ++ '\n' :: rest ∧ laterLines text = splitOn '\n' rest := by
  induction text with
  | nil => exact Or.inl ⟨rfl, rfl⟩
  | cons c text ih =>
      by_cases ends : c = '\n'
      · subst ends
        exact Or.inr ⟨text, rfl, rfl⟩
      · rw [firstLine_cons ends, laterLines_cons ends]
        rcases ih with ⟨same, none⟩ | ⟨rest, same, others⟩
        · exact Or.inl ⟨congrArg _ same, none⟩
        · exact Or.inr ⟨rest, congrArg _ same, others⟩

theorem newline_not_mem_firstLine (text : Text) : '\n' ∉ firstLine text := by
  intro member
  have kept := List.all_eq_true.mp List.all_takeWhile '\n' member
  exact absurd kept (by decide)

theorem bytes_firstLine_le (before after : Text) :
    bytes (firstLine (before ++ '\n' :: after)) ≤ bytes before := by
  induction before with
  | nil => exact Nat.le_refl _
  | cons c before ih =>
      rw [List.cons_append]
      by_cases ends : c = '\n'
      · rw [ends, firstLine_newline]
        exact Nat.zero_le _
      · rw [firstLine_cons ends, bytes_cons, bytes_cons]
        exact Nat.add_le_add_left ih _

/-! ### Places -/

structure Line where
  start : Nat
  text : Text
deriving DecidableEq, Repr

def Line.stop (line : Line) : Nat :=
  line.start + bytes line.text

def linesFrom (start : Nat) : List Text → List Line
  | [] => []
  | piece :: pieces => ⟨start, piece⟩ :: linesFrom (start + bytes piece + 1) pieces

def placedLines (text : Text) : List Line :=
  linesFrom 0 (splitOn '\n' text)

theorem linesFrom_map_text (start : Nat) (pieces : List Text) :
    (linesFrom start pieces).map Line.text = pieces := by
  induction pieces generalizing start with
  | nil => rfl
  | cons piece pieces ih => rw [linesFrom, List.map_cons, ih]

theorem le_start_of_mem {start : Nat} {pieces : List Text} {line : Line}
    (member : line ∈ linesFrom start pieces) : start ≤ line.start := by
  induction pieces generalizing start with
  | nil => cases member
  | cons piece pieces ih =>
      rcases List.mem_cons.mp member with rfl | later
      · exact Nat.le_refl start
      · have behind := ih later
        omega

theorem linesFrom_unique {start offset : Nat} {pieces : List Text} {first second : Line}
    (here : first ∈ linesFrom start pieces) (there : second ∈ linesFrom start pieces)
    (onFirst : first.start ≤ offset ∧ offset ≤ first.stop)
    (onSecond : second.start ≤ offset ∧ offset ≤ second.stop) : first = second := by
  induction pieces generalizing start with
  | nil => cases here
  | cons piece pieces ih =>
      rcases List.mem_cons.mp here with rfl | here
      · rcases List.mem_cons.mp there with rfl | there
        · rfl
        · have behind := le_start_of_mem there
          simp only [Line.stop] at onFirst
          omega
      · rcases List.mem_cons.mp there with rfl | there
        · have behind := le_start_of_mem here
          simp only [Line.stop] at onSecond
          omega
        · exact ih here there

/-- A line stands between a line end, or the start of the text, and what follows. -/
theorem mem_linesFrom {before rest : Text} {line : Line}
    (opens : before = [] ∨ before.getLast? = some '\n')
    (member : line ∈ linesFrom (bytes before) (splitOn '\n' rest)) :
    ∃ front after, before ++ rest = front ++ (line.text ++ after) ∧ bytes front = line.start ∧
      (front = [] ∨ front.getLast? = some '\n') ∧ '\n' ∉ line.text := by
  -- The induction is on the lines that are left; the text follows them.
  induction pieces : splitOn '\n' rest generalizing before rest with
  | nil => exact absurd pieces (splitBy_ne_nil _ rest)
  | cons piece others ih =>
      rw [pieces] at member
      rw [splitOn_newline, List.cons.injEq] at pieces
      obtain ⟨rfl, behind⟩ := pieces
      rcases List.mem_cons.mp member with rfl | later
      · obtain ⟨after, whole⟩ := List.takeWhile_prefix (l := rest) (· != '\n')
        exact ⟨before, after, congrArg (before ++ ·) whole.symm, rfl, opens,
          newline_not_mem_firstLine rest⟩
      · rcases firstLine_cases rest with ⟨_, none⟩ | ⟨tail, same, lines⟩
        · rw [← behind, none] at later
          cases later
        · rw [← behind, lines] at later
          have place : bytes before + bytes (firstLine rest) + 1 =
              bytes (before ++ (firstLine rest ++ ['\n'])) := by
            rw [bytes_append, bytes_concat, newline_size, Nat.add_assoc]
          rw [place] at later
          obtain ⟨front, after, split, startAt, starts, clean⟩ :=
            ih (Or.inr (by rw [← List.append_assoc, List.getLast?_concat])) later
              (lines.symm.trans behind)
          refine ⟨front, after, ?_, startAt, starts, clean⟩
          rw [← split, List.append_assoc, List.append_assoc]
          exact congrArg (before ++ ·) same

theorem mem_placedLines {text : Text} {line : Line} (member : line ∈ placedLines text) :
    ∃ front after, text = front ++ (line.text ++ after) ∧ bytes front = line.start ∧
      (front = [] ∨ front.getLast? = some '\n') ∧ '\n' ∉ line.text :=
  @mem_linesFrom [] text line (Or.inl rfl) member

/-- A line that starts no later than a line end behind an offset starts in front of the offset. -/
theorem start_le_of_le_firstLine {before after : Text} {line : Line}
    (member : line ∈ placedLines (before ++ after))
    (reached : line.start ≤ bytes before + bytes (firstLine after)) : line.start ≤ bytes before := by
  obtain ⟨front, tail, split, startAt, starts, _⟩ := mem_placedLines member
  rw [← startAt] at reached ⊢
  apply Nat.le_of_not_lt
  intro behind
  obtain ⟨middle, longer, rest⟩ := split_of_bytes_le split (Nat.le_of_lt behind)
  have filled : middle ≠ [] := by
    intro empty
    rw [longer, empty, List.append_nil] at behind
    exact Nat.lt_irrefl _ behind
  have newline : middle.getLast? = some '\n' := by
    rcases starts with empty | newline
    · rw [empty] at longer
      exact absurd (List.append_eq_nil_iff.mp longer.symm).2 filled
    · obtain ⟨c, ending⟩ := Option.isSome_iff_exists.mp (List.getLast?_isSome.mpr filled)
      rw [longer, List.getLast?_append, ending, Option.some_or] at newline
      rw [ending, newline]
  -- The line end in front of the line would be part of the line that goes on at the offset.
  obtain ⟨piece, same⟩ := List.getLast?_eq_some_iff.mp newline
  have short : bytes (firstLine after) ≤ bytes piece := by
    rw [rest, same, List.append_assoc]
    exact bytes_firstLine_le piece _
  rw [longer, same, bytes_append, bytes_concat, newline_size] at reached
  omega

end AgentProbe.Text
