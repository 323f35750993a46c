import AgentProbe.Edit.Injection
import AgentProbe.Proofs.Text.Lines
import AgentProbe.Proofs.Text.Offset

set_option autoImplicit false

/-!
What may stand between the last argument of a call and the closing parenthesis, and how far the end
of a line is there.

An offset that is moved to the end of its line passes over blanks and a comment.  In filler every
comment ends with its line, so the offset cannot pass the parenthesis that ends the filler.
-/

namespace AgentProbe

/-! ### The end of a line -/

def restOfLine (source : Text) (offset : Nat) : Text :=
  (Text.since source offset).takeWhile (· != '\n')

/-- An offset moves only over blanks, or over blanks and a comment. -/
theorem endOfLine_cases (source : Text) (offset : Nat) :
    endOfLine source offset = offset ∨
      (endOfLine source offset = offset + Text.bytes (restOfLine source offset) ∧
        ((∀ c ∈ restOfLine source offset, isBlank c = true) ∨
          ∃ blanks comment, restOfLine source offset = blanks ++ '#' :: comment ∧
            ∀ blank ∈ blanks, isBlank blank = true)) := by
  simp only [endOfLine, restOfLine]
  generalize (Text.since source offset).takeWhile (· != '\n') = line
  cases trimmed : Text.trim line with
  | nil => exact Or.inr ⟨rfl, Or.inl (Text.trim_eq_nil trimmed)⟩
  | cons c rest =>
      dsimp only
      split
      · rename_i hash
        obtain ⟨blanks, comment, split, blank⟩ := Text.trim_eq_cons trimmed
        rw [eq_of_beq hash] at split
        exact Or.inr ⟨rfl, Or.inr ⟨blanks, comment, split, blank⟩⟩
      · exact Or.inl rfl

theorem le_endOfLine (source : Text) (offset : Nat) : offset ≤ endOfLine source offset := by
  rcases endOfLine_cases source offset with same | ⟨moved, _⟩ <;> omega

/-! ### Filler -/

/-- Blanks, comments that end with their line, line continuations and, where one is still allowed, a
comma. -/
inductive Filler : Bool → Text → Prop
  | nil (comma : Bool) : Filler comma []
  | blank (comma : Bool) (c : Char) (rest : Text)
      (space : isBlank c = true ∨ c ∈ ['\ufeff', '\u2060', '\u200b']) (tail : Filler comma rest) :
      Filler comma (c :: rest)
  | comment (comma : Bool) (words rest : Text) (oneLine : '\n' ∉ words)
      (tail : Filler comma rest) : Filler comma ('#' :: (words ++ '\n' :: rest))
  | continuation (comma : Bool) (ending rest : Text) (lineEnd : ending = ['\n'] ∨ ending = ['\r', '\n'])
      (tail : Filler comma rest) : Filler comma ('\\' :: (ending ++ rest))
  | comma (rest : Text) (tail : Filler false rest) : Filler true (',' :: rest)

/-- A line ends behind every number sign in filler. -/
theorem Filler.newline_mem {allowed : Bool} {text after : Text} (filler : Filler allowed text)
    (before : Text) (split : text = before ++ '#' :: after) : '\n' ∈ after := by
  induction filler generalizing before with
  | nil allowed => simp at split
  | blank allowed c rest space tail ih =>
      cases before with
      | nil =>
          cases split
          rcases space with space | space
          · exact absurd space (by decide)
          · exact absurd space (by decide)
      | cons head before =>
          cases split
          exact ih before rfl
  | comment allowed words rest oneLine tail ih =>
      cases before with
      | nil =>
          cases split
          simp
      | cons head before =>
          rw [List.cons_append, List.cons.injEq] at split
          -- The sign is behind the comment or one of its words, which the line end follows.
          rcases List.append_eq_append_iff.mp split.2 with
            ⟨middle, _, inner⟩ | ⟨middle, _, inner⟩
          · cases middle with
            | nil => cases inner
            | cons c middle =>
                rw [List.cons_append, List.cons.injEq] at inner
                exact ih middle inner.2
          · cases middle with
            | nil => cases inner
            | cons c middle =>
                rw [List.cons_append, List.cons.injEq] at inner
                rw [inner.2]
                simp
  | continuation allowed ending rest lineEnd tail ih =>
      cases before with
      | nil => cases split
      | cons head before =>
          rw [List.cons_append, List.cons.injEq] at split
          have noSign : '#' ∉ ending := by
            rcases lineEnd with rfl | rfl <;> decide
          rcases List.append_eq_append_iff.mp split.2 with
            ⟨middle, _, inner⟩ | ⟨middle, whole, inner⟩
          · exact ih middle inner
          · cases middle with
            | nil => exact ih [] inner.symm
            | cons c middle =>
                rw [List.cons_append, List.cons.injEq] at inner
                rw [whole, ← inner.1] at noSign
                simp at noSign
  | comma rest tail ih =>
      cases before with
      | nil => cases split
      | cons head before =>
          cases split
          exact ih before rfl

/-- Where filler ends on the line that it is on, the parenthesis behind it is neither a blank nor in a
comment. -/
theorem Filler.not_hidden {allowed : Bool} {passed ahead after : Text}
    (filler : Filler allowed (passed ++ ahead)) (oneLine : '\n' ∉ ahead)
    (hidden : (∀ c ∈ ahead ++ ')' :: after, isBlank c = true) ∨
      ∃ blanks comment, ahead ++ ')' :: after = blanks ++ '#' :: comment ∧
        ∀ blank ∈ blanks, isBlank blank = true) : False := by
  have solid : isBlank ')' = false := by decide
  rcases hidden with blank | ⟨blanks, comment, commented, blank⟩
  · rw [blank ')' (by simp)] at solid
    cases solid
  · rcases List.append_eq_append_iff.mp commented with
      ⟨middle, blanksSplit, inner⟩ | ⟨middle, aheadSplit, inner⟩
    · cases middle with
      | nil => cases inner
      | cons c middle =>
          rw [List.cons_append, List.cons.injEq] at inner
          rw [blank ')' (by rw [blanksSplit, inner.1]; simp)] at solid
          cases solid
    · cases middle with
      | nil => cases inner
      | cons c middle =>
          rw [List.cons_append, List.cons.injEq] at inner
          have later : '\n' ∈ middle := by
            refine filler.newline_mem (passed ++ blanks) ?_
            rw [aheadSplit, ← inner.1, List.append_assoc]
          exact oneLine (by rw [aheadSplit]; simp [later])

theorem takeWhile_line {front : Text} (oneLine : '\n' ∉ front) (rest : Text) :
    (front ++ rest).takeWhile (· != '\n') = front ++ rest.takeWhile (· != '\n') := by
  refine List.takeWhile_append_of_pos ?_
  intro c member
  simp only [bne_iff_ne]
  rintro rfl
  exact oneLine member

/-- From inside filler, the end of the line is not behind the parenthesis that closes it. -/
theorem endOfLine_le_closing {source before gap after : Text} {offset : Nat} {allowed : Bool}
    (split : source = before ++ (gap ++ ')' :: after)) (filler : Filler allowed gap)
    (low : Text.bytes before ≤ offset) (high : offset ≤ Text.bytes before + Text.bytes gap) :
    endOfLine source offset ≤ Text.bytes before + Text.bytes gap := by
  rcases endOfLine_cases source offset with same | ⟨moved, skipped⟩
  · rw [same]
    exact high
  rw [moved]
  cases cutting : Text.cut source offset with
  | none =>
      simp only [restOfLine, Text.since, cutting, List.takeWhile_nil, Text.bytes_nil]
      exact high
  | some halves =>
      obtain ⟨front, tail⟩ := halves
      obtain ⟨whole, size⟩ := Text.cut_eq_some cutting
      obtain ⟨passed, longer, rest⟩ :=
        Text.split_of_bytes_le (split.symm.trans whole) (by rw [size]; exact low)
      rw [longer, Text.bytes_append] at size
      obtain ⟨ahead, gapSplit, tailSplit⟩ :=
        Text.split_of_bytes_le rest.symm (by omega)
      have line : restOfLine source offset = (ahead ++ ')' :: after).takeWhile (· != '\n') := by
        simp only [restOfLine, Text.since, cutting, tailSplit]
      rw [line] at skipped ⊢
      by_cases ends : '\n' ∈ ahead
      · -- The line ends within the filler.
        obtain ⟨first, second, aheadSplit, oneLine⟩ := List.eq_append_cons_of_mem ends
        have shown : (ahead ++ ')' :: after).takeWhile (· != '\n') = first := by
          rw [aheadSplit, List.append_assoc, takeWhile_line oneLine]
          exact List.append_nil first
        rw [shown, gapSplit, Text.bytes_append, aheadSplit, Text.bytes_append]
        omega
      · -- Otherwise the parenthesis is on the line, and no comment hides it.
        rw [takeWhile_line ends] at skipped
        rw [gapSplit] at filler
        exact (filler.not_hidden ends skipped).elim

end AgentProbe
