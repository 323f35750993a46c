import AgentProbe.Proofs.Edit.Weaving
import AgentProbe.Proofs.Text.Extent

set_option autoImplicit false

/-!
Lines that edits leave whole.

An edit whose span meets a line changes it, with two exceptions: an insertion at the end of the line
that begins with a line end, and one at its start that ends with a line end.  The lines that no edit
changes are lines of the edited text, in the same order.
-/

namespace AgentProbe

open Text (Line firstLine laterLines linesFrom placedLines)

def TextEdit.alters (edit : TextEdit) (line : Line) : Bool :=
  decide (edit.start ≤ line.stop) && decide (line.start ≤ edit.stop)
    && !(edit.isInsertion
      && (edit.start == line.stop && edit.replacement.head? == some '\n'
        || edit.start == line.start && edit.replacement.getLast? == some '\n'))

namespace TextEdit

variable {edit : TextEdit} {line : Line}

theorem meets_of_alters (altered : edit.alters line = true) :
    edit.start ≤ line.stop ∧ line.start ≤ edit.stop := by
  simp only [alters, Bool.and_eq_true, decide_eq_true_eq] at altered
  exact altered.1

theorem alters_of_replacement (meets : edit.start ≤ line.stop ∧ line.start ≤ edit.stop)
    (replaces : edit.start ≠ edit.stop) : edit.alters line = true := by
  simp [alters, isInsertion, meets, replaces]

/-- An insertion that leaves the line around it as it is stands at one of its ends. -/
theorem alters_eq_false (meets : edit.start ≤ line.stop ∧ line.start ≤ edit.stop) :
    edit.alters line = false ↔
      edit.start = edit.stop ∧
        (edit.start = line.stop ∧ edit.replacement.head? = some '\n' ∨
          edit.start = line.start ∧ edit.replacement.getLast? = some '\n') := by
  rw [alters, isInsertion, decide_eq_true meets.1, decide_eq_true meets.2]
  simp only [Bool.true_and, Bool.not_eq_false', Bool.and_eq_true, Bool.or_eq_true, beq_iff_eq]

end TextEdit

/-! ### Lines that pass a test -/

def linesPassing (free : Line → Bool) (start : Nat) (pieces : List Text) : List Text :=
  ((linesFrom start pieces).filter free).map Line.text

section Passing

variable {free : Line → Bool} {start : Nat} {piece : Text}

theorem linesPassing_cons_pos (passes : free ⟨start, piece⟩ = true) (pieces : List Text) :
    linesPassing free start (piece :: pieces) =
      piece :: linesPassing free (start + Text.bytes piece + 1) pieces := by
  rw [linesPassing, linesFrom, List.filter_cons_of_pos passes]
  rfl

theorem linesPassing_cons_neg (fails : ¬ free ⟨start, piece⟩ = true) (pieces : List Text) :
    linesPassing free start (piece :: pieces) =
      linesPassing free (start + Text.bytes piece + 1) pieces := by
  rw [linesPassing, linesFrom, List.filter_cons_of_neg fails]
  rfl

theorem linesPassing_sublist (free : Line → Bool) (start : Nat) (pieces : List Text) :
    (linesPassing free start pieces).Sublist pieces := by
  have all := (List.filter_sublist (l := linesFrom start pieces) (p := free)).map Line.text
  rwa [Text.linesFrom_map_text] at all

end Passing

/-- The lines of `rest` that pass a test are among the lines of `output`.  In front of both stands
`front`, on a line that starts at `start`; so the first line has to be the same in both, unless
`front` is empty. -/
structure KeepsLines (free : Line → Bool) (start : Nat) (front rest output : Text) : Prop where
  later : (linesPassing free (start + Text.bytes front + Text.bytes (firstLine rest) + 1)
    (laterLines rest)).Sublist (laterLines output)
  current : free ⟨start, front ++ firstLine rest⟩ = true →
    firstLine output = firstLine rest ∨
      front = [] ∧ (linesPassing free start (Text.splitOn '\n' rest)).Sublist (laterLines output)

namespace KeepsLines

variable {free : Line → Bool} {start : Nat} {front rest output : Text}

theorem refl (free : Line → Bool) (start : Nat) (front rest : Text) :
    KeepsLines free start front rest rest :=
  ⟨linesPassing_sublist _ _ _, fun _ => Or.inl rfl⟩

theorem whole (keeps : KeepsLines free start [] rest output) :
    (linesPassing free start (Text.splitOn '\n' rest)).Sublist (Text.splitOn '\n' output) := by
  obtain ⟨later, current⟩ := keeps
  rw [Text.bytes_nil, Nat.add_zero] at later
  rw [List.nil_append] at current
  rw [Text.splitOn_newline output]
  by_cases passes : free ⟨start, firstLine rest⟩ = true
  · rcases current passes with same | ⟨_, behind⟩
    · rw [Text.splitOn_newline, linesPassing_cons_pos passes, same]
      exact later.cons_cons _
    · exact behind.cons _
  · rw [Text.splitOn_newline, linesPassing_cons_neg passes]
    exact later.cons _

theorem cons_newline (keeps : KeepsLines free (start + Text.bytes front + 1) [] rest output) :
    KeepsLines free start front ('\n' :: rest) ('\n' :: output) :=
  ⟨keeps.whole, fun _ => Or.inl rfl⟩

theorem cons_char {c : Char} (joins : c ≠ '\n')
    (keeps : KeepsLines free start (front ++ [c]) rest output) :
    KeepsLines free start front (c :: rest) (c :: output) := by
  obtain ⟨later, current⟩ := keeps
  constructor
  · rw [Text.laterLines_cons joins, Text.laterLines_cons joins, Text.firstLine_cons joins]
    rw [Text.bytes_concat, ← Nat.add_assoc] at later
    rw [Text.bytes_cons, ← Nat.add_assoc]
    exact later
  · intro passes
    rw [Text.firstLine_cons joins] at passes ⊢
    rw [List.append_assoc, List.singleton_append] at current
    -- Something stands in front of the rest of this line, so the line goes on as it did.
    rcases current passes with same | ⟨empty, _⟩
    · rw [Text.firstLine_cons joins, same]
      exact Or.inl rfl
    · simp at empty

theorem append (common : Text)
    (tail : ∀ next before, next + Text.bytes before = start + Text.bytes front + Text.bytes common →
      KeepsLines free next before rest output) :
    KeepsLines free start front (common ++ rest) (common ++ output) := by
  induction common generalizing start front with
  | nil => exact tail start front rfl
  | cons c common ih =>
      by_cases ends : c = '\n'
      · subst ends
        apply cons_newline
        apply ih
        intro next before place
        apply tail
        rw [place, Text.bytes_nil, Text.bytes_cons, Text.newline_size]
        omega
      · apply cons_char ends
        apply ih
        intro next before place
        apply tail
        rw [place, Text.bytes_concat, Text.bytes_cons]
        omega

theorem later_of_gone {stop : Nat} {lines : List Text} (gone : Text)
    (fails : ∀ line : Line, start + Text.bytes front ≤ line.stop → line.start ≤ stop →
      ¬ free line = true)
    (place : start + Text.bytes front + Text.bytes gone = stop)
    (tail : ∀ next before, next + Text.bytes before = stop →
      (linesPassing free (next + Text.bytes before + Text.bytes (firstLine rest) + 1)
        (laterLines rest)).Sublist lines) :
    (linesPassing free (start + Text.bytes front + Text.bytes (firstLine (gone ++ rest)) + 1)
      (laterLines (gone ++ rest))).Sublist lines := by
  -- A line of which a part is gone does not pass, so taking off the old text loses no line that does.
  induction gone generalizing start front with
  | nil => exact tail start front place
  | cons c gone ih =>
      rw [Text.bytes_cons] at place
      rw [List.cons_append]
      by_cases ends : c = '\n'
      · subst ends
        rw [Text.newline_size] at place
        rw [Text.laterLines_newline, Text.firstLine_newline, Text.bytes_nil, Nat.add_zero,
          Text.splitOn_newline, linesPassing_cons_neg]
        · have behind := @ih (start + Text.bytes front + 1) []
            (fun line low high => fails line (by rw [Text.bytes_nil] at low; omega) high)
            (by rw [Text.bytes_nil]; omega)
          rw [Text.bytes_nil, Nat.add_zero] at behind
          exact behind
        · apply fails
          · simp only [Line.stop]
            omega
          · dsimp only
            omega
      · have behind := @ih start (front ++ [c])
          (fun line low high => fails line (by rw [Text.bytes_concat] at low; omega) high)
          (by rw [Text.bytes_concat]; omega)
        rw [Text.bytes_concat, ← Nat.add_assoc] at behind
        rw [Text.laterLines_cons ends, Text.firstLine_cons ends, Text.bytes_cons, ← Nat.add_assoc]
        exact behind

theorem edited {edit : TextEdit} {old : Text}
    (spares : ∀ line, free line = true → edit.alters line = false)
    (starts : edit.start = start + Text.bytes front)
    (stops : edit.stop = edit.start + Text.bytes old)
    (tail : ∀ next before, next + Text.bytes before = edit.stop →
      KeepsLines free next before rest output) :
    KeepsLines free start front (old ++ rest) (edit.replacement ++ output) := by
  have onward : (laterLines output).Sublist (laterLines (edit.replacement ++ output)) :=
    Text.laterLines_sublist edit.replacement output
  cases old with
  | cons c gone =>
      have positive := c.utf8Size_pos
      rw [Text.bytes_cons] at stops
      have fails : ∀ line : Line, start + Text.bytes front ≤ line.stop → line.start ≤ edit.stop →
          ¬ free line = true := by
        intro line low high passes
        rw [← starts] at low
        have altered := TextEdit.alters_of_replacement ⟨low, high⟩ (by omega)
        rw [spares line passes] at altered
        cases altered
      constructor
      · apply later_of_gone (c :: gone) fails
        · rw [Text.bytes_cons]
          omega
        · intro next before place
          exact (tail next before place).later.trans onward
      · intro passes
        exact absurd passes (fails _ (by simp only [Line.stop, Text.bytes_append]; omega)
          (by dsimp only; omega))
  | nil =>
      rw [Text.bytes_nil, Nat.add_zero, starts] at stops
      have keeps := tail start front stops.symm
      refine ⟨keeps.later.trans onward, ?_⟩
      intro passes
      have meets : edit.start ≤ (Line.mk start (front ++ firstLine rest)).stop ∧
          (Line.mk start (front ++ firstLine rest)).start ≤ edit.stop := by
        simp only [Line.stop, Text.bytes_append]
        omega
      obtain ⟨_, ⟨atEnd, opens⟩ | ⟨atStart, closes⟩⟩ :=
        (TextEdit.alters_eq_false meets).mp (spares _ passes)
      · -- The line was at its end, and it still is.
        have empty : firstLine rest = [] := by
          apply Text.eq_nil_of_bytes_eq_zero
          simp only [Line.stop, Text.bytes_append] at atEnd
          omega
        obtain ⟨others, same⟩ := List.head?_eq_some_iff.mp opens
        rw [List.nil_append, empty, same]
        exact Or.inl rfl
      · -- The whole line moves behind what was put in front of it.
        have none : front = [] := by
          apply Text.eq_nil_of_bytes_eq_zero
          dsimp only at atStart
          omega
        subst none
        obtain ⟨lines, same⟩ := List.getLast?_eq_some_iff.mp closes
        refine Or.inr ⟨rfl, keeps.whole.trans ?_⟩
        rw [same, List.append_assoc, List.singleton_append]
        exact Text.laterLines_sublist lines ('\n' :: output)

end KeepsLines

theorem Woven.keepsLines {free : Line → Bool} {rest output : Text} {offset : Nat}
    {edits : List TextEdit} (woven : Woven rest offset edits output)
    (spares : ∀ edit ∈ edits, ∀ line, free line = true → edit.alters line = false) :
    ∀ start front, start + Text.bytes front = offset →
      KeepsLines free start front rest output := by
  induction woven with
  | nil rest offset =>
      intro start front _
      exact KeepsLines.refl free start front rest
  | cons kept old rest output offset edit edits starts stops tail ih =>
      intro start front place
      apply KeepsLines.append
      intro next before reached
      apply KeepsLines.edited (spares edit List.mem_cons_self)
      · rw [starts, reached, place]
      · exact stops
      · exact ih fun other member => spares other (List.mem_cons_of_mem edit member)

/-- The lines that no edit changes are lines of the edited text, in the same order. -/
theorem applyEdits_keepsLines {source text : Text} {edits : List TextEdit}
    (applied : applyEdits source edits = .ok text) :
    (((placedLines source).filter fun line => edits.all fun edit => !edit.alters line).map
      Line.text).Sublist (Text.splitOn '\n' text) := by
  have spares : ∀ edit ∈ TextEdit.ordered edits, ∀ line,
      (edits.all fun edit => !edit.alters line) = true → edit.alters line = false := by
    intro edit member line passes
    have checked := List.all_eq_true.mp passes edit (TextEdit.mem_ordered.mp member)
    simpa using checked
  exact ((applyEdits_woven applied).keepsLines spares 0 [] rfl).whole

end AgentProbe
