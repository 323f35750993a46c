import AgentProbe.Plan.Block
import AgentProbe.Proofs.Text.Lines
import AgentProbe.Proofs.Text.Offset

set_option autoImplicit false

/-!
Code that stands on lines of its own is found again.

A block is the text of the lines that count.  Cutting a text at a line end cuts its lines in two, so
a piece of code that starts and ends with its lines contributes them as they are, and the text then
contains its block.
-/

namespace AgentProbe

namespace Block

/-! ### The lines that count -/

theorem keeps_concat {c : Char} (blank : isBlank c = true) (line : Text) :
    keeps (line ++ [c]) = keeps line := by
  rw [keeps, keeps, Text.trim_concat blank]

/-- A carriage return is a blank, so dropping it does not show. -/
theorem dropReturn_blind (line : Text) :
    keeps (Text.dropReturn line) = keeps line ∧
      Text.compact (Text.dropReturn line) = Text.compact line := by
  unfold Text.dropReturn
  split
  · rename_i returns
    obtain ⟨front, split⟩ := List.getLast?_eq_some_iff.mp returns
    have blank : isBlank '\r' = true := by decide
    rw [split, List.dropLast_concat, keeps_concat blank, Text.compact_concat blank]
    exact ⟨rfl, rfl⟩
  · exact ⟨rfl, rfl⟩

theorem kept_map_dropReturn (lines : List Text) :
    ((lines.map Text.dropReturn).filter keeps).map Text.compact =
      (lines.filter keeps).map Text.compact := by
  induction lines with
  | nil => rfl
  | cons line lines ih =>
      obtain ⟨kept, compacted⟩ := dropReturn_blind line
      rw [List.map_cons, List.filter_cons, List.filter_cons, kept]
      split
      · rw [List.map_cons, List.map_cons, compacted, ih]
      · exact ih

/-- The lines that count are the kept pieces between line ends. -/
theorem keptLines_eq (text : Text) :
    keptLines text = ((Text.splitOn '\n' text).filter keeps).map Text.compact := by
  unfold keptLines Text.lines
  cases pieces : (Text.splitOn '\n' text).reverse with
  | nil => exact absurd (List.reverse_eq_nil_iff.mp pieces) (Text.splitBy_ne_nil _ text)
  | cons last ended =>
      have whole : Text.splitOn '\n' text = ended.reverse ++ [last] := by
        rw [← List.reverse_reverse (Text.splitOn '\n' text), pieces, List.reverse_cons]
      have closing : (if last.isEmpty then [] else [last]).filter keeps = [last].filter keeps := by
        cases last with
        | nil => rfl
        | cons c rest => rfl
      dsimp only
      rw [whole, List.filter_append, List.filter_append, List.map_append, List.map_append,
        kept_map_dropReturn, closing]

theorem keptLines_append (before after : Text) :
    keptLines (before ++ '\n' :: after) = keptLines before ++ keptLines after := by
  rw [keptLines_eq, keptLines_eq, keptLines_eq, Text.splitOn, Text.splitBy_append (by decide),
    List.filter_append, List.map_append]
  rfl

theorem keptLines_concat {c : Char} (blank : isBlank c = true) (text : Text) :
    keptLines (text ++ [c]) = keptLines text := by
  by_cases ends : c = '\n'
  · rw [ends, keptLines_append]
    exact List.append_nil _
  · obtain ⟨front, last, before, after⟩ :=
      Text.splitBy_concat (p := (· == '\n')) (beq_false_of_ne ends) text
    rw [keptLines_eq, keptLines_eq, Text.splitOn, Text.splitOn, before, after, List.filter_append,
      List.filter_append, List.map_append, List.map_append, List.filter_cons, List.filter_cons,
      keeps_concat blank]
    split
    · rw [List.map_cons, List.map_cons, Text.compact_concat blank]
    · rfl

theorem keptLines_append_blanks {blanks : Text} (blank : ∀ c ∈ blanks, isBlank c = true)
    (text : Text) : keptLines (text ++ blanks) = keptLines text := by
  induction blanks generalizing text with
  | nil => rw [List.append_nil]
  | cons c rest ih =>
      have later := ih (fun d member => blank d (List.mem_cons_of_mem c member)) (text ++ [c])
      rw [List.append_assoc, List.singleton_append] at later
      rw [later, keptLines_concat (blank c List.mem_cons_self)]

/-- Blanks at the end of code do not count. -/
theorem keptLines_trimEnd (code : Text) : keptLines (Text.trimEnd code) = keptLines code := by
  obtain ⟨blanks, split, blank⟩ := Text.trimEnd_split code
  have same := keptLines_append_blanks blank (Text.trimEnd code)
  rw [← split] at same
  exact same.symm

/-! ### Texts and boundaries of blocks -/

theorem foldl_append_text (lines : List Text) (block : Block) :
    (lines.foldl append block).text = block.text ++ lines.flatten := by
  induction lines generalizing block with
  | nil => exact (List.append_nil _).symm
  | cons line lines ih =>
      rw [List.foldl_cons, ih, append, List.flatten_cons, List.append_assoc]

theorem mem_foldl_append_boundaries {offset : Nat} (lines : List Text) {block : Block}
    (member : offset ∈ block.boundaries) : offset ∈ (lines.foldl append block).boundaries := by
  induction lines generalizing block with
  | nil => exact member
  | cons line lines ih => exact ih (List.mem_append_left _ member)

theorem boundary_between (first second : List Text) {block : Block}
    (ends : Text.bytes block.text ∈ block.boundaries) :
    Text.bytes (block.text ++ first.flatten) ∈
      ((first ++ second).foldl append block).boundaries := by
  induction first generalizing block with
  | nil =>
      rw [List.flatten_nil, List.append_nil]
      exact mem_foldl_append_boundaries second ends
  | cons line lines ih =>
      rw [List.cons_append, List.foldl_cons, List.flatten_cons, ← List.append_assoc]
      exact @ih (block.append line) (List.mem_append_right _ (List.mem_singleton.mpr rfl))

theorem ofText_text (text : Text) : (ofText text).text = (keptLines text).flatten := by
  rw [ofText, foldl_append_text]
  rfl

theorem mem_boundaries {text : Text} {first second : List Text}
    (split : keptLines text = first ++ second) :
    Text.bytes first.flatten ∈ (ofText text).boundaries := by
  have ends : Text.bytes (Block.mk [] [0]).text ∈ (Block.mk [] [0]).boundaries :=
    List.mem_singleton.mpr rfl
  rw [ofText, split]
  exact boundary_between first second ends

/-- A text whose lines include those of a block, one after another, contains the block. -/
theorem contains_of_keptLines {text : Text} {block : Block} {front middle back : List Text}
    (split : keptLines text = front ++ (middle ++ back)) (same : block.text = middle.flatten)
    (filled : block.isEmpty = false) : (ofText text).contains block = true := by
  have size : Text.bytes front.flatten + Text.bytes block.text =
      Text.bytes (front ++ middle).flatten := by
    rw [List.flatten_append, Text.bytes_append, same]
  have found : Text.slice (ofText text).text (Text.bytes front.flatten)
      (Text.bytes front.flatten + Text.bytes block.text) = block.text := by
    rw [ofText_text, split, List.flatten_append, List.flatten_append, same, Text.slice_append]
  simp only [contains, filled, Bool.not_false, Bool.true_and, List.any_eq_true, Bool.and_eq_true,
    List.contains_iff_mem, beq_iff_eq]
  refine ⟨Text.bytes front.flatten, mem_boundaries split, ?_, found⟩
  rw [size]
  exact mem_boundaries (by rw [split, List.append_assoc])

end Block

/-! ### Lines of its own -/

/-- A piece stands on lines of its own in a text: it starts a line, and a line ends with it. -/
def Text.OnOwnLines (piece text : Text) : Prop :=
  ∃ before after, text = before ++ (piece ++ after) ∧
    (before = [] ∨ before.getLast? = some '\n') ∧ (after = [] ∨ after.head? = some '\n')

namespace Text.OnOwnLines

variable {piece text whole : Text}

theorem trans (inner : OnOwnLines piece text) (outer : OnOwnLines text whole) :
    OnOwnLines piece whole := by
  obtain ⟨before, after, split, starts, stops⟩ := inner
  obtain ⟨front, back, cut, opens, closes⟩ := outer
  refine ⟨front ++ before, after ++ back, by rw [cut, split]; simp, ?_, ?_⟩
  · rcases starts with rfl | starts
    · rw [List.append_nil]
      exact opens
    · exact Or.inr (by rw [List.getLast?_append, starts]; rfl)
  · rcases stops with rfl | stops
    · exact closes
    · exact Or.inr (by rw [List.head?_append, stops]; rfl)

theorem keptLines (stands : OnOwnLines piece text) :
    ∃ front back, Block.keptLines text = front ++ (Block.keptLines piece ++ back) := by
  obtain ⟨before, after, rfl, starts, stops⟩ := stands
  have behind : ∃ back, Block.keptLines (piece ++ after) = Block.keptLines piece ++ back := by
    cases after with
    | nil => exact ⟨[], by rw [List.append_nil, List.append_nil]⟩
    | cons c rest =>
        rcases stops with empty | first
        · cases empty
        · cases first
          exact ⟨Block.keptLines rest, Block.keptLines_append piece rest⟩
  obtain ⟨back, lines⟩ := behind
  rcases starts with rfl | last
  · exact ⟨[], back, lines⟩
  · obtain ⟨front, rfl⟩ := List.getLast?_eq_some_iff.mp last
    refine ⟨Block.keptLines front, back, ?_⟩
    rw [List.append_assoc, List.singleton_append, Block.keptLines_append, lines]

/-- A text contains the block of code that stands on lines of its own in it, up to trailing blanks. -/
theorem contains {code : Text} {block : Block} (stands : OnOwnLines (Text.trimEnd code) text)
    (same : block.text = (Block.ofText code).text) (filled : block.isEmpty = false) :
    (Block.ofText text).contains block = true := by
  obtain ⟨front, back, split⟩ := stands.keptLines
  rw [Block.keptLines_trimEnd] at split
  exact Block.contains_of_keptLines split (by rw [same, Block.ofText_text]) filled

end Text.OnOwnLines

/-- Pieces that are joined with line ends stand on lines of their own. -/
theorem onOwnLines_intercalate {separator : String}
    (opens : separator.toList.head? = some '\n') (closes : separator.toList.getLast? = some '\n')
    {piece : String} {pieces : List String} (member : piece ∈ pieces) :
    Text.OnOwnLines piece.toList (separator.intercalate pieces).toList := by
  induction pieces with
  | nil => cases member
  | cons first others ih =>
      cases others with
      | nil =>
          rw [List.mem_singleton.mp member, String.intercalate_singleton]
          exact ⟨[], [], by simp, Or.inl rfl, Or.inl rfl⟩
      | cons second rest =>
          rw [String.intercalate_cons_cons, String.toList_append, String.toList_append]
          rcases List.mem_cons.mp member with rfl | later
          · refine ⟨[], separator.toList ++ (separator.intercalate (second :: rest)).toList, ?_,
              Or.inl rfl, Or.inr ?_⟩
            · rw [List.nil_append, List.append_assoc]
            · rw [List.head?_append, opens]
              rfl
          · refine (ih later).trans ⟨first.toList ++ separator.toList, [], ?_, Or.inr ?_, Or.inl rfl⟩
            · rw [List.append_nil]
            · rw [List.getLast?_append, closes]
              rfl

end AgentProbe
