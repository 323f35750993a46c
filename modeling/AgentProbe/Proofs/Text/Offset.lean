import AgentProbe.Text.Basic

set_option autoImplicit false

/-!
Byte offsets and the parts of a text around them.

An offset delimits a text exactly when some first part of the text has that many bytes, and that part
is unique.  Everything about slices follows from this equivalence.
-/

namespace AgentProbe.Text

theorem bytes_cons (c : Char) (text : Text) : bytes (c :: text) = c.utf8Size + bytes text := rfl

@[simp] theorem bytes_nil : bytes [] = 0 := rfl

@[simp] theorem bytes_append (before after : Text) :
    bytes (before ++ after) = bytes before + bytes after := by
  induction before with
  | nil => simp
  | cons c rest ih =>
      rw [List.cons_append, bytes_cons, bytes_cons, ih]
      omega

theorem eq_nil_of_bytes_eq_zero {text : Text} (empty : bytes text = 0) : text = [] := by
  cases text with
  | nil => rfl
  | cons c rest =>
      have positive := c.utf8Size_pos
      rw [bytes_cons] at empty
      omega

/-! ### Cuts -/

/-- The byte length of a first part cuts the text after that part. -/
theorem cut_append (before after : Text) :
    cut (before ++ after) (bytes before) = some (before, after) := by
  induction before with
  | nil => cases after <;> rfl
  | cons c rest ih =>
      have positive := c.utf8Size_pos
      obtain ⟨offset, same⟩ : ∃ offset, bytes (c :: rest) = offset + 1 :=
        ⟨bytes (c :: rest) - 1, by rw [bytes_cons]; omega⟩
      have fits : c.utf8Size ≤ offset + 1 := by rw [← same, bytes_cons]; omega
      have left : offset + 1 - c.utf8Size = bytes rest := by rw [← same, bytes_cons]; omega
      rw [same, List.cons_append, cut, if_pos fits, left, ih]
      rfl

theorem cut_eq_some {text before after : Text} {offset : Nat}
    (found : cut text offset = some (before, after)) :
    text = before ++ after ∧ bytes before = offset := by
  fun_induction cut text offset generalizing before after with
  | case1 text =>
      cases found
      exact ⟨rfl, rfl⟩
  | case2 => cases found
  | case3 c rest offset fits ih =>
      obtain ⟨⟨head, tail⟩, inner, same⟩ := Option.map_eq_some_iff.mp found
      obtain ⟨joined, size⟩ := ih inner
      cases same
      refine ⟨by rw [joined]; rfl, ?_⟩
      rw [bytes_cons, size]
      omega
  | case4 => cases found

theorem isBoundary_iff {text : Text} {offset : Nat} :
    isBoundary text offset = true ↔
      ∃ before after, text = before ++ after ∧ bytes before = offset := by
  unfold isBoundary
  constructor
  · intro found
    obtain ⟨⟨before, after⟩, same⟩ := Option.isSome_iff_exists.mp found
    exact ⟨before, after, cut_eq_some same⟩
  · rintro ⟨before, after, rfl, rfl⟩
    rw [cut_append]
    rfl

/-- Of two ways to cut a text, the one with fewer bytes in front comes first. -/
theorem split_of_bytes_le {first second third fourth : Text}
    (same : first ++ second = third ++ fourth) (shorter : bytes first ≤ bytes third) :
    ∃ middle, third = first ++ middle ∧ second = middle ++ fourth := by
  rcases List.append_eq_append_iff.mp same with ⟨middle, longer, rest⟩ | ⟨middle, longer, rest⟩
  · exact ⟨middle, longer, rest⟩
  · rw [longer, bytes_append] at shorter
    have empty : middle = [] := eq_nil_of_bytes_eq_zero (by omega)
    subst empty
    exact ⟨[], by simpa using longer.symm, by simpa using rest.symm⟩

/-! ### Pieces at known offsets -/

@[simp] theorem upTo_append (before after : Text) :
    upTo (before ++ after) (bytes before) = before := by
  have whole : cut (before ++ after) 0 = some ([], before ++ after) := by
    cases before ++ after <;> rfl
  simp only [upTo, slice, whole, Nat.zero_le, if_true, Nat.sub_zero, cut_append]

@[simp] theorem since_append (before after : Text) :
    since (before ++ after) (bytes before) = after := by
  simp only [since, cut_append]

theorem slice_append (before middle after : Text) :
    slice (before ++ (middle ++ after)) (bytes before) (bytes before + bytes middle) = middle := by
  simp only [slice, cut_append, Nat.le_add_right, if_true, Nat.add_sub_cancel_left]

/-- A slice that is not empty lies between two offsets that delimit it. -/
theorem slice_eq_some {text piece : Text} {start stop : Nat} (filled : piece ≠ [])
    (found : slice text start stop = piece) :
    ∃ before after, text = before ++ (piece ++ after) ∧ bytes before = start ∧
      start + bytes piece = stop := by
  unfold slice at found
  cases opened : cut text start with
  | none =>
      rw [opened] at found
      exact absurd found.symm filled
  | some halves =>
      obtain ⟨before, tail⟩ := halves
      rw [opened] at found
      by_cases ordered : start ≤ stop
      · simp only [ordered, if_true] at found
        cases closed : cut tail (stop - start) with
        | none =>
            rw [closed] at found
            exact absurd found.symm filled
        | some inner =>
            obtain ⟨middle, after⟩ := inner
            rw [closed] at found
            obtain ⟨outer, size⟩ := cut_eq_some opened
            obtain ⟨split, length⟩ := cut_eq_some closed
            have same : middle = piece := found
            subst same
            refine ⟨before, after, by rw [outer, split], size, by omega⟩
      · simp only [ordered, if_false] at found
        exact absurd found.symm filled

theorem slice_self (text : Text) (offset : Nat) : slice text offset offset = [] := by
  by_cases empty : slice text offset offset = []
  · exact empty
  · obtain ⟨_, _, _, _, length⟩ := slice_eq_some empty rfl
    exact eq_nil_of_bytes_eq_zero (by omega)

end AgentProbe.Text
