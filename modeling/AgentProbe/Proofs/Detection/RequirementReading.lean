import AgentProbe.Proofs.Detection.RequirementLine

set_option autoImplicit false

/-!
Reading requirement lines.

A line is read in steps, and each of them gives back a part of the line as it was written: first the
comment and the marker are cut off, then the name and the extras, and what is left is the specifier.
-/

namespace AgentProbe

namespace RequirementLine

variable {line : RequirementLine} (written : line.IsWritten)

include written

/-! ### Behind the name -/

theorem blank_gap {gap : Text} (member : gap ∈ line.gaps) : ∀ c ∈ gap, isBlank c = true := by
  intro c inside
  exact isBlank_of_isGap (written.gaps gap member c inside)

theorem trim_name (rest : Text) :
    Text.trim (line.lead ++ (line.name ++ rest)) = line.name ++ Text.trimEnd rest := by
  have solid {c : Char} (member : c ∈ line.name) : isBlank c = false :=
    Requirement.isBlank_of_isNameChar (mem_name written member)
  have filled : line.name ≠ [] := by
    obtain ⟨first, rest, split, _⟩ := written.name
    rw [split]
    exact List.cons_ne_nil first rest
  rw [Text.trim_append_left (blank_gap written (by simp [gaps])), Text.trim_append filled]
  constructor
  · intro c first
    exact solid (List.mem_of_head? first)
  · intro c last
    exact solid (List.mem_of_getLast? last)

def tail (line : RequirementLine) : List Text :=
  [line.afterName, line.extrasText, line.afterExtras, line.specifierText, line.afterSpecifier]

omit written in
theorem flatten_parts : line.parts.flatten = line.lead ++ (line.name ++ line.tail.flatten) := by
  simp only [parts, tail, List.flatten_cons]

theorem first_specifierText {c : Char} (first : line.specifierText.head? = some c) :
    Requirement.isNameChar c = false := by
  rw [specifierText] at first
  cases wrapped : line.wrapped with
  | true =>
      rw [wrapped, if_pos rfl] at first
      cases first
      decide
  | false =>
      rw [wrapped, if_neg Bool.false_ne_true] at first
      rcases first_of_compact written (compact_spelled written) first with blank | operator
      · cases named : Requirement.isNameChar c with
        | false => rfl
        | true =>
            rw [Requirement.isBlank_of_isNameChar named] at blank
            cases blank
      · exact (plain_of_operator operator).1

theorem first_tail {c : Char} (first : line.tail.flatten.head? = some c) :
    Requirement.isNameChar c = false := by
  have gap {blanks : Text} (member : blanks ∈ line.gaps) (starts : blanks.head? = some c) :
      Requirement.isNameChar c = false := by
    rcases eq_of_isGap (written.gaps blanks member c (List.mem_of_head? starts)) with rfl | rfl
    · decide
    · decide
  have extras (starts : line.extrasText.head? = some c) : Requirement.isNameChar c = false := by
    rw [extrasText] at starts
    cases found : line.extras with
    | none =>
        rw [found] at starts
        cases starts
    | some text =>
        rw [found] at starts
        cases starts
        decide
  obtain ⟨part, member, starts⟩ := Text.head?_of_flatten first
  revert starts
  revert part
  simp only [tail, List.forall_mem_cons]
  exact ⟨gap (by simp [gaps]), extras, gap (by simp [gaps]),
    fun starts => first_specifierText written starts, gap (by simp [gaps]),
    fun part member => absurd member List.not_mem_nil⟩

theorem first_trim_specifierText {c : Char} (first : (Text.trim line.specifierText).head? = some c) :
    c ≠ '[' := by
  rw [specifierText] at first
  cases wrapped : line.wrapped with
  | true =>
      rw [wrapped, if_pos rfl, Text.trim_eq_self (Text.isTrimmed_enclosed (by decide) (by decide) _)]
        at first
      cases first
      decide
  | false =>
      rw [wrapped, if_neg Bool.false_ne_true] at first
      have kept := (Text.compact_trim line.spelled).trans (compact_spelled written)
      exact (first_ne_of_compact written kept first).2

theorem afterExtras_tail :
    (Requirement.afterExtras (Text.trim line.tail.flatten)).dropWhile isBlank =
      Text.trim line.specifierText := by
  have behind : Text.trim (line.afterExtras ++ (line.specifierText ++ line.afterSpecifier)) =
      Text.trim line.specifierText := by
    rw [Text.trim_append_left (blank_gap written (by simp [gaps])),
      Text.trim_append_right (blank_gap written (by simp [gaps]))]
  simp only [tail, List.flatten_cons, List.flatten_nil, List.append_nil]
  rw [Text.trim_append_left (blank_gap written (by simp [gaps])), extrasText]
  cases found : line.extras with
  | none =>
      rw [List.nil_append, behind, Requirement.afterExtras_of_first
        fun c first => first_trim_specifierText written first]
      exact Text.trimStart_eq_self (Text.isTrimmed_trim _).first
  | some text =>
      have closed := (written.extras text found).1
      rw [Text.trim_append (List.cons_ne_nil _ _)
        (Text.isTrimmed_enclosed (by decide) (by decide) text),
        Requirement.afterExtras_enclosed fun c member => (closed c member).1]
      rw [← behind]
      exact Text.trimStart_trimEnd _

theorem contains_specifierText : (Text.trim line.specifierText).contains '\n' = false := by
  have spelled : '\n' ∉ line.spelled := by
    intro member
    rcases mem_spelled written member with gap | ⟨text, found, inside⟩
    · exact absurd gap (by decide)
    · exact absurd ((written.specifier text found).plain _ inside).1 (by decide)
  rw [List.contains_eq_mem, decide_eq_false_iff_not]
  intro member
  have inside : '\n' ∈ line.specifierText := (Text.trim_infix _).subset member
  rw [specifierText] at inside
  cases wrapped : line.wrapped with
  | true =>
      rw [wrapped, if_pos rfl, List.mem_cons, List.mem_append, List.mem_singleton] at inside
      rcases inside with opening | member | closing
      · exact absurd opening (by decide)
      · exact spelled member
      · exact absurd closing (by decide)
  | false =>
      rw [wrapped, if_neg Bool.false_ne_true] at inside
      exact spelled inside

theorem readCore?_name : Requirement.readCore? (line.name ++ Text.trimEnd line.tail.flatten) =
    some ⟨String.ofList line.name, (line.specifier.map String.ofList).getD "*"⟩ := by
  obtain ⟨first, rest, split, start, named⟩ := written.name
  have stops : ∀ c, (Text.trimEnd line.tail.flatten).head? = some c →
      Requirement.isNameChar c = false := by
    intro c starts
    apply first_tail written
    obtain ⟨blanks, joined⟩ := List.rdropWhile_prefix isBlank line.tail.flatten
    change Text.trimEnd line.tail.flatten ++ blanks = _ at joined
    rw [← joined, List.head?_append, starts]
    rfl
  have taken := Text.takeWhile_append_of_stop named stops
  have left := Text.dropWhile_append_of_stop named stops
  rw [split, List.cons_append, Requirement.readCore?]
  simp only [start, Bool.not_true, Bool.false_eq_true, if_false, taken, left,
    Text.trimStart_trimEnd, afterExtras_tail written, contains_specifierText written,
    specifierOf_trim written]

/-! ### The comment and the marker -/

def body (line : RequirementLine) : Text :=
  line.parts.flatten ++ line.markerText

omit written in
theorem first_led {mark c : Char} {text : Option Text} (first : (led mark text).head? = some c) :
    c = mark := by
  cases text with
  | none => cases first
  | some text =>
      cases first
      rfl

theorem before_comment : Requirement.before '#' line.text = line.body := by
  apply Requirement.before_append
  · rw [List.mem_append, List.mem_flatten]
    rintro (⟨part, known, member⟩ | member)
    · exact ((isPlain_part written part known).closed _ member).1 rfl
    · rw [markerText] at member
      cases found : line.marker with
      | none =>
          rw [found] at member
          cases member
      | some text =>
          rw [found] at member
          rcases List.mem_cons.mp member with same | later
          · exact absurd same (by decide)
          · exact (written.marker text found).1 later
  · intro c first
    exact first_led first

theorem before_marker : Requirement.before ';' line.body = line.parts.flatten := by
  apply Requirement.before_append
  · rw [List.mem_flatten]
    rintro ⟨part, known, member⟩
    exact ((isPlain_part written part known).closed _ member).2 rfl
  · intro c first
    exact first_led first

theorem not_address_body : ¬ addressMark <:+: line.body := by
  intro found
  have apart : ∀ c, line.markerText.head? = some c → c ∉ addressMark := by
    intro c first
    rw [first_led first]
    decide
  rcases Text.infix_of_infix_append apart found with inside | behind
  · obtain ⟨part, member, inner⟩ := Text.infix_of_infix_flatten (by decide)
      (fun part member => (isPlain_part written part member).apart) inside
    exact (isPlain_part written part member).address inner
  · rw [markerText] at behind
    cases marked : line.marker with
    | none =>
        rw [marked] at behind
        exact absurd (List.infix_nil.mp behind) (by decide)
    | some text =>
        rw [marked] at behind
        exact (written.marker text marked).2 (address_of_cons (by decide) behind)

theorem not_refused : ((Text.trim line.body).isEmpty || (Text.trim line.body).head? == some '-' ||
    Text.occurs "://".toList (Text.trim line.body)) = false := by
  obtain ⟨first, rest, split, start, _⟩ := written.name
  have trimmed : Text.trim line.body =
      line.name ++ Text.trimEnd (line.tail.flatten ++ line.markerText) := by
    rw [body, flatten_parts, List.append_assoc, List.append_assoc, trim_name written]
  have other : first ≠ '-' := by
    rintro rfl
    exact absurd start (by decide)
  rw [Bool.or_eq_false_iff, Bool.or_eq_false_iff]
  constructor
  · constructor
    · rw [trimmed, split]
      rfl
    · rw [trimmed, split, List.cons_append, List.head?_cons, beq_eq_false_iff_ne, ne_eq,
        Option.some_inj]
      exact other
  · rw [Bool.eq_false_iff, ne_eq, Text.occurs_iff_infix]
    intro found
    exact not_address_body written (found.trans (Text.trim_infix _))

end RequirementLine

/-- Reading a line gives back the name and the specifier that it was written with. -/
theorem Requirement.read?_text (line : RequirementLine) (written : line.IsWritten) :
    Requirement.read? line.text =
      some ⟨String.ofList line.name, (line.specifier.map String.ofList).getD "*"⟩ := by
  have core : Text.trim line.parts.flatten = line.name ++ Text.trimEnd line.tail.flatten := by
    rw [RequirementLine.flatten_parts, RequirementLine.trim_name written]
  rw [Requirement.read?, RequirementLine.before_comment written]
  simp only [RequirementLine.not_refused written, Bool.false_eq_true, if_false]
  rw [Requirement.trim_before_trim (by decide), RequirementLine.before_marker written, core]
  exact RequirementLine.readCore?_name written

def RequirementLine.full : RequirementLine where
  lead := "\t ".toList
  name := "langchain-core".toList
  afterName := " ".toList
  extras := some " openai, all[x ".toList
  afterExtras := "\t".toList
  specifier := some ">=0.2,<0.4".toList
  spelled := " >= 0.2,\t< 0.4 ".toList
  wrapped := true
  afterSpecifier := "  ".toList
  marker := some " python_version > (3; ".toList
  comment := some " see https://example; ".toList

theorem Requirement.read?_text_full :
    RequirementLine.full.IsWritten ∧ Requirement.read? RequirementLine.full.text =
      some ⟨"langchain-core", ">=0.2,<0.4"⟩ := by
  have written : RequirementLine.full.IsWritten := by
    constructor
    · simp [RequirementLine.gaps, RequirementLine.full, isGap]
    · refine ⟨'l', "angchain-core".toList, rfl, by decide, ?_⟩
      exact List.all_eq_true.mp (by decide)
    · rintro _ ⟨rfl⟩
      exact ⟨by simp, not_address_of_forall (by simp)⟩
    · rintro _ ⟨rfl⟩
      refine ⟨⟨'>', by decide, rfl⟩, ?_, not_address_of_forall (by simp), by decide⟩
      simp [isBlank, Ranges.classify]
    · decide
    · rintro _ ⟨rfl⟩
      exact ⟨by decide, not_address_of_forall (by simp)⟩
  have whole := Requirement.read?_text RequirementLine.full written
  simp only [RequirementLine.full, Option.map_some, Option.getD_some, String.ofList_toList] at whole
  exact ⟨written, whole⟩

end AgentProbe
