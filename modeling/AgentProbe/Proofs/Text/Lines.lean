import AgentProbe.Text.Basic

set_option autoImplicit false

/-!
Pieces of a text between separators, and blanks around them.

Splitting a text at a separator splits the two sides on their own.  Trimming removes blanks and
nothing else, and blanks at the end of a text change neither what is left of it nor its pieces apart
from the last.
-/

namespace AgentProbe.Text

/-! ### Pieces -/

theorem splitBy_ne_nil (p : Char → Bool) (text : Text) : splitBy p text ≠ [] := by
  cases text with
  | nil => exact List.cons_ne_nil _ _
  | cons c rest =>
      rw [splitBy]
      split
      · exact List.cons_ne_nil _ _
      · split <;> exact List.cons_ne_nil _ _

theorem splitBy_append {p : Char → Bool} {c : Char} (separates : p c = true)
    (before after : Text) :
    splitBy p (before ++ c :: after) = splitBy p before ++ splitBy p after := by
  induction before with
  | nil => simp only [List.nil_append, splitBy, separates, if_true, List.cons_append]
  | cons d rest ih =>
      rw [List.cons_append, splitBy, splitBy]
      by_cases stops : p d = true
      · simp only [stops, if_true, ih, List.cons_append]
      · simp only [stops, Bool.false_eq_true, if_false, ih]
        cases pieces : splitBy p rest with
        | nil => exact absurd pieces (splitBy_ne_nil p rest)
        | cons piece others => rfl

theorem length_le_of_mem_splitBy {p : Char → Bool} {text piece : Text}
    (member : piece ∈ splitBy p text) : piece.length ≤ text.length := by
  induction text generalizing piece with
  | nil =>
      rw [splitBy, List.mem_singleton] at member
      exact Nat.le_of_eq (congrArg List.length member)
  | cons c rest ih =>
      rw [splitBy] at member
      rw [List.length_cons]
      split at member
      · rcases List.mem_cons.mp member with rfl | later
        · exact Nat.zero_le _
        · exact Nat.le_succ_of_le (ih later)
      · split at member
        · rename_i empty
          exact absurd empty (splitBy_ne_nil p rest)
        · rename_i first others pieces
          rw [pieces] at ih
          rcases List.mem_cons.mp member with rfl | later
          · exact Nat.succ_le_succ (ih List.mem_cons_self)
          · exact Nat.le_succ_of_le (ih (List.mem_cons_of_mem first later))

theorem splitBy_of_forall {p : Char → Bool} {text : Text} (free : ∀ c ∈ text, p c = false) :
    splitBy p text = [text] := by
  induction text with
  | nil => rfl
  | cons c rest ih =>
      have here := free c List.mem_cons_self
      have later := ih fun d member => free d (List.mem_cons_of_mem c member)
      simp only [splitBy, here, Bool.false_eq_true, if_false, later]

theorem splitBy_concat {p : Char → Bool} {c : Char} (joins : p c = false) (text : Text) :
    ∃ front last, splitBy p text = front ++ [last] ∧
      splitBy p (text ++ [c]) = front ++ [last ++ [c]] := by
  induction text with
  | nil => exact ⟨[], [], rfl, by simp [splitBy, joins]⟩
  | cons d rest ih =>
      obtain ⟨front, last, before, after⟩ := ih
      rw [List.cons_append, splitBy, splitBy, before, after]
      by_cases stops : p d = true
      · refine ⟨[] :: front, last, ?_, ?_⟩
        · rw [if_pos stops, List.cons_append]
        · rw [if_pos stops, List.cons_append]
      · rw [if_neg stops, if_neg stops]
        cases front with
        | nil => exact ⟨[], d :: last, rfl, rfl⟩
        | cons piece pieces => exact ⟨(d :: piece) :: pieces, last, rfl, rfl⟩

/-! ### Blanks -/

theorem trimStart_eq_cons {text rest : Text} {c : Char} (trimmed : trimStart text = c :: rest) :
    ∃ blanks, text = blanks ++ c :: rest ∧ ∀ blank ∈ blanks, isBlank blank = true := by
  refine ⟨text.takeWhile isBlank, ?_, ?_⟩
  · rw [← trimmed]
    exact (List.takeWhile_append_dropWhile).symm
  · intro blank member
    exact List.all_eq_true.mp List.all_takeWhile blank member

theorem trimEnd_split (text : Text) :
    ∃ blanks, text = trimEnd text ++ blanks ∧ ∀ blank ∈ blanks, isBlank blank = true := by
  refine ⟨(text.reverse.takeWhile isBlank).reverse, ?_, ?_⟩
  · rw [trimEnd, ← List.reverse_append, List.takeWhile_append_dropWhile, List.reverse_reverse]
  · intro blank member
    exact List.all_eq_true.mp List.all_takeWhile blank (List.mem_reverse.mp member)

theorem trim_eq_nil {text : Text} (empty : trim text = []) : ∀ c ∈ text, isBlank c = true := by
  intro c member
  rw [trim] at empty
  obtain ⟨blanks, split, blank⟩ := trimEnd_split (trimStart text)
  rw [empty, List.nil_append] at split
  rw [← List.takeWhile_append_dropWhile (p := isBlank) (l := text)] at member
  rcases List.mem_append.mp member with first | later
  · exact List.all_eq_true.mp List.all_takeWhile c first
  · change c ∈ trimStart text at later
    rw [split] at later
    exact blank c later

theorem trim_eq_cons {text rest : Text} {c : Char} (trimmed : trim text = c :: rest) :
    ∃ blanks tail, text = blanks ++ c :: tail ∧ ∀ blank ∈ blanks, isBlank blank = true := by
  obtain ⟨trailing, split, _⟩ := trimEnd_split (trimStart text)
  rw [trim] at trimmed
  rw [trimmed, List.cons_append] at split
  obtain ⟨blanks, whole, blank⟩ := trimStart_eq_cons split
  exact ⟨blanks, _, whole, blank⟩

theorem trimEnd_concat {c : Char} (blank : isBlank c = true) (text : Text) :
    trimEnd (text ++ [c]) = trimEnd text := by
  rw [trimEnd, trimEnd, List.reverse_append, List.reverse_singleton, List.singleton_append,
    List.dropWhile_cons_of_pos blank]

/-- A blank at the end does not show after trimming. -/
theorem trim_concat {c : Char} (blank : isBlank c = true) (text : Text) :
    trim (text ++ [c]) = trim text := by
  rw [trim, trim, trimStart, trimStart, List.dropWhile_append]
  cases text.dropWhile isBlank with
  | nil => simp [blank]
  | cons d rest =>
      simp only [List.isEmpty_cons, Bool.false_eq_true, if_false]
      exact trimEnd_concat blank (d :: rest)

theorem compact_concat {c : Char} (blank : isBlank c = true) (text : Text) :
    compact (text ++ [c]) = compact text := by
  simp [compact, blank]

theorem compact_append (before after : Text) :
    compact (before ++ after) = compact before ++ compact after :=
  List.filter_append before after

theorem compact_of_blank {blanks : Text} (blank : ∀ c ∈ blanks, isBlank c = true) :
    compact blanks = [] := by
  refine List.filter_eq_nil_iff.mpr ?_
  intro c member
  rw [blank c member]
  exact Bool.false_ne_true

/-- Trimming removes only what compacting removes too. -/
theorem compact_trim (text : Text) : compact (trim text) = compact text := by
  obtain ⟨trailing, split, blank⟩ := trimEnd_split (trimStart text)
  have start : compact (trimStart text) = compact text := by
    have leading : compact (text.takeWhile isBlank) = [] :=
      compact_of_blank fun c member => List.all_eq_true.mp List.all_takeWhile c member
    have whole : compact (text.takeWhile isBlank ++ trimStart text) = compact text :=
      congrArg compact List.takeWhile_append_dropWhile
    rwa [compact_append, leading, List.nil_append] at whole
  have ended := congrArg compact split
  rw [compact_append, compact_of_blank blank, List.append_nil] at ended
  exact ended.symm.trans start

end AgentProbe.Text

namespace AgentProbe

theorem compacted_trimmed (string : String) : compacted (trimmed string) = compacted string := by
  rw [compacted, trimmed, String.toList_ofList, Text.compact_trim, compacted]

/-- Strings that are equal without the blanks around them are equal without any blanks. -/
theorem compacted_eq_of_trimmed {left right : String} (same : trimmed left = trimmed right) :
    compacted left = compacted right := by
  rw [← compacted_trimmed left, same, compacted_trimmed]

end AgentProbe
