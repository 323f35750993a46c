import Mathlib.Data.List.DropRight
import AgentProbe.Proofs.Text.Lines

set_option autoImplicit false

/-!
What trimming leaves of texts that are put together, and where a piece can occur in them.

A character that is no blank stops trimming from either side, so that what stands behind it is
trimmed on its own.  A piece that occurs in two texts put together occurs in one of them, unless the
second text starts with a character of the piece.
-/

namespace AgentProbe.Text

/-! ### Ends that are no blanks -/

structure IsTrimmed (text : Text) : Prop where
  first : ∀ c, text.head? = some c → isBlank c = false
  last : ∀ c, text.getLast? = some c → isBlank c = false

theorem head?_dropWhile {p : Char → Bool} {text : Text} {c : Char}
    (first : (text.dropWhile p).head? = some c) : p c = false := by
  have stops := List.head?_dropWhile_not p text
  rw [first] at stops
  exact stops

/-- A text is cut where a property of its characters ends. -/
theorem takeWhile_append_of_stop {p : Char → Bool} {front back : Text}
    (holds : ∀ c ∈ front, p c = true) (stops : ∀ c, back.head? = some c → p c = false) :
    (front ++ back).takeWhile p = front := by
  rw [List.takeWhile_append_of_pos holds]
  cases back with
  | nil => exact List.append_nil front
  | cons c back =>
      rw [List.takeWhile_cons_of_neg (by rw [stops c rfl]; exact Bool.false_ne_true),
        List.append_nil]

theorem dropWhile_append_of_stop {p : Char → Bool} {front back : Text}
    (holds : ∀ c ∈ front, p c = true) (stops : ∀ c, back.head? = some c → p c = false) :
    (front ++ back).dropWhile p = back := by
  rw [List.dropWhile_append_of_pos holds]
  cases back with
  | nil => rfl
  | cons c back =>
      exact List.dropWhile_cons_of_neg (by rw [stops c rfl]; exact Bool.false_ne_true)

theorem trimStart_append {blanks : Text} (blank : ∀ c ∈ blanks, isBlank c = true) (text : Text) :
    trimStart (blanks ++ text) = trimStart text :=
  List.dropWhile_append_of_pos blank

theorem trimStart_eq_self {text : Text} (first : ∀ c, text.head? = some c → isBlank c = false) :
    trimStart text = text := by
  cases text with
  | nil => rfl
  | cons c rest =>
      have solid := first c rfl
      rw [trimStart, List.dropWhile_cons_of_neg (by rw [solid]; exact Bool.false_ne_true)]

theorem trimEnd_append {front : Text} (last : ∀ c, front.getLast? = some c → isBlank c = false)
    (text : Text) : trimEnd (front ++ text) = front ++ trimEnd text := by
  induction text using List.reverseRecOn with
  | nil =>
      change List.rdropWhile isBlank (front ++ []) = front ++ []
      rw [List.append_nil, List.rdropWhile_eq_self_iff]
      intro filled
      rw [last _ (List.getLast?_eq_getLast_of_ne_nil filled)]
      exact Bool.false_ne_true
  | append_singleton text c ih =>
      rw [← List.append_assoc]
      by_cases blank : isBlank c = true
      · rw [trimEnd_concat blank, trimEnd_concat blank, ih]
      · change List.rdropWhile isBlank _ = front ++ List.rdropWhile isBlank _
        rw [List.rdropWhile_concat_neg _ _ _ blank, List.rdropWhile_concat_neg _ _ _ blank,
          List.append_assoc]

theorem trim_append_left {blanks : Text} (blank : ∀ c ∈ blanks, isBlank c = true) (text : Text) :
    trim (blanks ++ text) = trim text := by
  rw [trim, trimStart_append blank, trim]

theorem trim_append_right {blanks : Text} (blank : ∀ c ∈ blanks, isBlank c = true) (text : Text) :
    trim (text ++ blanks) = trim text := by
  induction blanks using List.reverseRecOn with
  | nil => rw [List.append_nil]
  | append_singleton blanks c ih =>
      rw [← List.append_assoc, trim_concat (blank c (List.mem_append_right _ List.mem_cons_self))]
      exact ih fun d member => blank d (List.mem_append_left _ member)

theorem trim_eq_self {text : Text} (trimmed : text.IsTrimmed) : trim text = text := by
  have ended := trimEnd_append trimmed.last []
  rw [List.append_nil] at ended
  rw [trim, trimStart_eq_self trimmed.first, ended]
  exact List.append_nil text

/-- A trimmed text stops trimming from the front, and what stands behind it is trimmed at its end. -/
theorem trim_append {front : Text} (filled : front ≠ []) (trimmed : front.IsTrimmed) (text : Text) :
    trim (front ++ text) = front ++ trimEnd text := by
  rw [trim, trimStart_eq_self, trimEnd_append trimmed.last]
  intro c first
  apply trimmed.first
  rwa [List.head?_append_of_ne_nil _ filled] at first

theorem isTrimmed_enclosed {opening closing : Char} (first : isBlank opening = false)
    (last : isBlank closing = false) (text : Text) :
    IsTrimmed (opening :: (text ++ [closing])) where
  first := by
    intro c same
    cases same
    exact first
  last := by
    intro c same
    rw [← List.cons_append, List.getLast?_concat] at same
    cases same
    exact last

/-- It does not matter which end is trimmed first. -/
theorem trimStart_trimEnd (text : Text) : trimStart (trimEnd text) = trim text := by
  rw [trim]
  cases started : trimStart text with
  | nil =>
      have blank : ∀ c ∈ text, isBlank c = true := List.dropWhile_eq_nil_iff.mp started
      have ended : trimEnd text = [] := List.rdropWhile_eq_nil_iff.mpr blank
      rw [ended]
      rfl
  | cons c rest =>
      obtain ⟨blanks, split, blank⟩ := trimStart_eq_cons started
      have solid : isBlank c = false := by
        have first : (text.dropWhile isBlank).head? = some c := congrArg List.head? started
        exact head?_dropWhile first
      have front : ∀ d, (blanks ++ [c]).getLast? = some d → isBlank d = false := by
        intro d last
        rw [List.getLast?_concat, Option.some_inj] at last
        exact last ▸ solid
      have single : ∀ d, [c].getLast? = some d → isBlank d = false := by
        intro d last
        rw [List.getLast?_singleton, Option.some_inj] at last
        exact last ▸ solid
      rw [split, ← List.singleton_append (l := rest), ← List.append_assoc, trimEnd_append front,
        List.append_assoc, trimStart_append blank, trimEnd_append single]
      apply trimStart_eq_self
      intro d first
      rw [List.singleton_append, List.head?_cons, Option.some_inj] at first
      exact first ▸ solid

theorem isTrimmed_trim (text : Text) : (trim text).IsTrimmed where
  first := by
    intro c first
    rw [← trimStart_trimEnd] at first
    exact head?_dropWhile first
  last := by
    intro c last
    rw [trim, trimEnd, List.getLast?_reverse] at last
    exact head?_dropWhile last

theorem trim_trim (text : Text) : trim (trim text) = trim text :=
  trim_eq_self (isTrimmed_trim text)

theorem trim_split (text : Text) :
    ∃ lead tail, text = lead ++ (trim text ++ tail) ∧ (∀ c ∈ lead, isBlank c = true) ∧
      ∀ c ∈ tail, isBlank c = true := by
  obtain ⟨tail, split, blank⟩ := trimEnd_split (trimStart text)
  refine ⟨text.takeWhile isBlank, tail, ?_, ?_, blank⟩
  · rw [trim, ← split]
    exact List.takeWhile_append_dropWhile.symm
  · intro c member
    exact List.all_eq_true.mp List.all_takeWhile c member

theorem trim_infix (text : Text) : trim text <:+: text := by
  have ended : trim text <+: trimStart text := List.rdropWhile_prefix isBlank _
  exact ended.isInfix.trans (List.dropWhile_suffix isBlank).isInfix

/-! ### Pieces within a text -/

theorem occurs_iff_infix (piece text : Text) : occurs piece text = true ↔ piece <:+: text := by
  induction text with
  | nil => rw [occurs, List.isEmpty_iff, List.infix_nil]
  | cons c rest ih =>
      rw [occurs, Bool.or_eq_true, ih, List.isPrefixOf_iff_prefix, List.infix_cons_iff]

/-- A piece that does not go on in the second of two texts occurs in one of them. -/
theorem infix_of_infix_append {piece front back : Text}
    (apart : ∀ c, back.head? = some c → c ∉ piece) (found : piece <:+: front ++ back) :
    piece <:+: front ∨ piece <:+: back := by
  rcases List.infix_append_iff_ne_nil.mp found with
    inside | behind | ⟨first, rest, _, filled, rfl, _, onward⟩
  · exact Or.inl inside
  · exact Or.inr behind
  · obtain ⟨c, rest, rfl⟩ := List.exists_cons_of_ne_nil filled
    obtain ⟨tail, rfl⟩ := onward
    exact absurd (List.mem_append_right first List.mem_cons_self) (apart c rfl)

theorem head?_of_flatten {texts : List Text} {c : Char} (first : texts.flatten.head? = some c) :
    ∃ text ∈ texts, text.head? = some c := by
  rw [List.head?_flatten] at first
  exact List.exists_of_findSome?_eq_some first

/-- A piece that occurs in texts put together occurs in one of them. -/
theorem infix_of_infix_flatten {piece : Text} (filled : piece ≠ []) {texts : List Text}
    (apart : ∀ text ∈ texts, ∀ c, text.head? = some c → c ∉ piece)
    (found : piece <:+: texts.flatten) : ∃ text ∈ texts, piece <:+: text := by
  induction texts with
  | nil => exact absurd (List.infix_nil.mp found) filled
  | cons text texts ih =>
      rw [List.flatten_cons] at found
      have later : ∀ c, texts.flatten.head? = some c → c ∉ piece := by
        intro c first
        obtain ⟨other, member, starts⟩ := head?_of_flatten first
        exact apart other (List.mem_cons_of_mem text member) c starts
      rcases infix_of_infix_append later found with here | behind
      · exact ⟨text, List.mem_cons_self, here⟩
      · obtain ⟨other, member, inside⟩ := ih
          (fun other member => apart other (List.mem_cons_of_mem text member)) behind
        exact ⟨other, List.mem_cons_of_mem text member, inside⟩

end AgentProbe.Text
