import AgentProbe.Proofs.Plan.Containment

set_option autoImplicit false

/-!
Containment of blocks is containment of runs of lines.

The boundaries of a block are the lengths of its first lines, taken together.  Two boundaries
therefore delimit a run of consecutive lines, and what stands between them is the text of that run.
A line that counts is not empty without its blanks, so a block is empty only if no line counts.
-/

namespace AgentProbe

/-! ### Lines that count -/

theorem Text.trim_head {text rest : Text} {c : Char} (trimmed : trim text = c :: rest) :
    isBlank c = false := by
  obtain ⟨trailing, split, _⟩ := trimEnd_split (trimStart text)
  rw [trim] at trimmed
  rw [trimmed, List.cons_append, trimStart] at split
  have first := List.head?_dropWhile_not isBlank text
  rw [split] at first
  exact first

namespace Block

theorem compact_ne_nil {line : Text} (kept : keeps line = true) : Text.compact line ≠ [] := by
  unfold keeps at kept
  cases trimmed : Text.trim line with
  | nil =>
      rw [trimmed] at kept
      cases kept
  | cons c rest =>
      rw [← Text.compact_trim, trimmed, Text.compact, List.filter_cons, Text.trim_head trimmed]
      exact List.cons_ne_nil _ _

theorem flatMap_compact_eq_nil {lines : List Text} (kept : ∀ line ∈ lines, keeps line = true) :
    lines.flatMap Text.compact = [] ↔ lines = [] := by
  constructor
  · intro empty
    cases lines with
    | nil => rfl
    | cons line lines =>
        rw [List.flatMap_cons, List.append_eq_nil_iff] at empty
        exact absurd empty.1 (compact_ne_nil (kept line List.mem_cons_self))
  · rintro rfl
    rfl

theorem flatten_keptLines (text : Text) :
    (keptLines text).flatten = ((Text.lines text).filter keeps).flatMap Text.compact :=
  rfl

theorem isEmpty_ofText {text : Text} :
    (ofText text).isEmpty = false ↔ ∃ line ∈ Text.lines text, keeps line = true := by
  have kept : ∀ line ∈ (Text.lines text).filter keeps, keeps line = true := by
    intro line member
    exact (List.mem_filter.mp member).2
  rw [isEmpty, ofText_text, flatten_keptLines, List.isEmpty_eq_false_iff, ne_eq,
    flatMap_compact_eq_nil kept, List.filter_eq_nil_iff]
  simp

/-! ### Boundaries -/

theorem split_of_mem_foldl {offset : Nat} (lines : List Text) {block : Block}
    (member : offset ∈ (lines.foldl append block).boundaries) :
    offset ∈ block.boundaries ∨
      ∃ first second, lines = first ++ second ∧
        offset = Text.bytes (block.text ++ first.flatten) := by
  induction lines generalizing block with
  | nil => exact Or.inl member
  | cons line lines ih =>
      rcases ih member with here | ⟨first, second, split, same⟩
      · rcases List.mem_append.mp here with old | last
        · exact Or.inl old
        · refine Or.inr ⟨[line], lines, rfl, ?_⟩
          rw [List.mem_singleton.mp last, List.flatten_singleton]
      · refine Or.inr ⟨line :: first, second, by rw [split]; rfl, ?_⟩
        rw [same, append, List.flatten_cons, List.append_assoc]

theorem split_of_mem_boundaries {text : Text} {offset : Nat}
    (member : offset ∈ (ofText text).boundaries) :
    ∃ first second, keptLines text = first ++ second ∧ Text.bytes first.flatten = offset := by
  rcases split_of_mem_foldl (keptLines text) member with start | ⟨first, second, split, same⟩
  · exact ⟨[], keptLines text, rfl, (List.mem_singleton.mp start).symm⟩
  · exact ⟨first, second, split, same.symm⟩

/-- Of two boundaries the smaller one has fewer lines in front of it. -/
theorem prefix_of_bytes_lt {first second third fourth : List Text}
    (same : first ++ second = third ++ fourth)
    (before : Text.bytes first.flatten < Text.bytes third.flatten) :
    ∃ middle, third = first ++ middle ∧ second = middle ++ fourth := by
  rcases List.append_eq_append_iff.mp same with ⟨middle, longer, rest⟩ | ⟨middle, longer, rest⟩
  · exact ⟨middle, longer, rest⟩
  · rw [longer, List.flatten_append, Text.bytes_append] at before
    omega

/-- A text contains a block exactly when the block is the text of a run of its lines. -/
theorem contains_iff_keptLines {text : Text} {block : Block} :
    (ofText text).contains block = true ↔
      block.isEmpty = false ∧ ∃ front middle back,
        keptLines text = front ++ (middle ++ back) ∧ middle.flatten = block.text := by
  constructor
  · intro found
    simp only [contains, Bool.and_eq_true, Bool.not_eq_true', List.any_eq_true,
      List.contains_iff_mem, beq_iff_eq] at found
    obtain ⟨filled, start, opens, closes, piece⟩ := found
    have wide : block.text ≠ [] := List.isEmpty_eq_false_iff.mp filled
    have positive : 0 < Text.bytes block.text :=
      Nat.pos_of_ne_zero fun none => wide (Text.eq_nil_of_bytes_eq_zero none)
    obtain ⟨first, second, split, startAt⟩ := split_of_mem_boundaries opens
    obtain ⟨third, fourth, again, stopAt⟩ := split_of_mem_boundaries closes
    obtain ⟨middle, rfl, rfl⟩ := prefix_of_bytes_lt (split.symm.trans again) (by omega)
    refine ⟨filled, first, middle, fourth, split, ?_⟩
    have size : Text.bytes middle.flatten = Text.bytes block.text := by
      rw [List.flatten_append, Text.bytes_append] at stopAt
      omega
    rw [ofText_text, split, List.flatten_append, List.flatten_append, ← startAt, ← size,
      Text.slice_append] at piece
    exact piece
  · rintro ⟨filled, front, middle, back, split, same⟩
    exact contains_of_keptLines split same.symm filled

/-! ### Runs -/

/-- A run of compacted lines comes from a run of lines. -/
theorem exists_run_iff {text piece : Text} :
    (∃ front middle back, keptLines text = front ++ (middle ++ back) ∧ middle.flatten = piece) ↔
      ∃ run, run <:+: (Text.lines text).filter keeps ∧ run.flatMap Text.compact = piece := by
  constructor
  · rintro ⟨front, middle, back, split, same⟩
    obtain ⟨before, rest, whole, rfl, inner⟩ := List.map_eq_append_iff.mp split
    obtain ⟨run, after, rfl, rfl, rfl⟩ := List.map_eq_append_iff.mp inner
    exact ⟨run, ⟨before, after, by rw [whole, List.append_assoc]⟩, same⟩
  · rintro ⟨run, ⟨before, after, whole⟩, same⟩
    refine ⟨before.map Text.compact, run.map Text.compact, after.map Text.compact, ?_, same⟩
    rw [keptLines, ← whole, List.append_assoc, List.map_append, List.map_append]

/-- A text contains a piece of code exactly when the code has a line that counts, and some consecutive
lines among those of the text that count spell, without blanks, what the lines of the code spell. -/
theorem contains_iff_run (text code : Text) :
    (ofText text).contains (ofText code) = true ↔
      (∃ line ∈ Text.lines code, keeps line = true) ∧
        ∃ run, run ≠ [] ∧ run <:+: (Text.lines text).filter keeps ∧
          run.flatMap Text.compact = ((Text.lines code).filter keeps).flatMap Text.compact := by
  rw [contains_iff_keptLines, exists_run_iff, isEmpty_ofText, ofText_text, flatten_keptLines]
  refine and_congr_right ?_
  rintro ⟨line, member, kept⟩
  constructor
  · rintro ⟨run, inside, same⟩
    refine ⟨run, ?_, inside, same⟩
    rintro rfl
    have empty := (flatMap_compact_eq_nil (fun _ among => (List.mem_filter.mp among).2)).mp same.symm
    exact List.filter_eq_nil_iff.mp empty line member kept
  · rintro ⟨run, _, inside, same⟩
    exact ⟨run, inside, same⟩

example : (ofText "f(a,\n  b)\ng()\n".toList).contains (ofText "f(a, b)".toList) = true := by
  decide +kernel

example : (ofText "f(a,\n  b)\ng()\n".toList).contains (ofText "b)\ng(".toList) = false := by
  decide +kernel

end Block

end AgentProbe
