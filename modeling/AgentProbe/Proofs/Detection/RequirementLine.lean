import AgentProbe.Detection.Requirement
import AgentProbe.Proofs.Text.Trimming

set_option autoImplicit false

/-!
Requirement lines as they are written.

A line is put together from a name, extras, a specifier with blanks anywhere in it and maybe
parentheses around it, a marker and a comment, with blanks between them.  Reading gives back the name
and the specifier without blanks, whichever of the parts there are.
-/

namespace AgentProbe

/-! ### Written lines -/

def isGap (c : Char) : Bool :=
  c == ' ' || c == '\t'

def addressMark : Text :=
  "://".toList

def operators : Text :=
  "<>=!~^".toList

/-- A version specifier as it is kept: it starts with an operator, has no blanks, and nothing in it
ends it early. -/
structure IsSpecifier (text : Text) : Prop where
  operator : ∃ c ∈ operators, text.head? = some c
  plain : ∀ c ∈ text, isBlank c = false ∧ c ≠ '#' ∧ c ≠ ';'
  address : ¬ addressMark <:+: text
  closing : text.getLast? ≠ some ')'

/-- The parts of a requirement line.  Blanks behind the marker or the comment belong to these. -/
structure RequirementLine where
  lead : Text
  name : Text
  afterName : Text
  extras : Option Text
  afterExtras : Text
  specifier : Option Text
  /-- The specifier with blanks in it and around it. -/
  spelled : Text
  wrapped : Bool
  afterSpecifier : Text
  marker : Option Text
  comment : Option Text

namespace RequirementLine

def extrasText (line : RequirementLine) : Text :=
  match line.extras with
  | none => []
  | some text => '[' :: (text ++ [']'])

def specifierText (line : RequirementLine) : Text :=
  if line.wrapped then '(' :: (line.spelled ++ [')']) else line.spelled

def led (mark : Char) : Option Text → Text
  | none => []
  | some text => mark :: text

def markerText (line : RequirementLine) : Text :=
  led ';' line.marker

def commentText (line : RequirementLine) : Text :=
  led '#' line.comment

def parts (line : RequirementLine) : List Text :=
  [line.lead, line.name, line.afterName, line.extrasText, line.afterExtras, line.specifierText,
    line.afterSpecifier]

def text (line : RequirementLine) : Text :=
  line.parts.flatten ++ line.markerText ++ line.commentText

def gaps (line : RequirementLine) : List Text :=
  [line.lead, line.afterName, line.afterExtras, line.afterSpecifier]

structure IsWritten (line : RequirementLine) : Prop where
  gaps : ∀ gap ∈ line.gaps, ∀ c ∈ gap, isGap c = true
  name : ∃ c rest, line.name = c :: rest ∧ Requirement.isNameStart c = true ∧
    ∀ d ∈ rest, Requirement.isNameChar d = true
  extras : ∀ text ∈ line.extras, (∀ c ∈ text, c ≠ ']' ∧ c ≠ '#' ∧ c ≠ ';') ∧
    ¬ addressMark <:+: text
  specifier : ∀ text ∈ line.specifier, IsSpecifier text
  spelled : line.spelled.filter (fun c => !isGap c) = line.specifier.getD []
  marker : ∀ text ∈ line.marker, '#' ∉ text ∧ ¬ addressMark <:+: text

end RequirementLine

/-! ### Characters -/

theorem eq_of_isGap {c : Char} (gap : isGap c = true) : c = ' ' ∨ c = '\t' := by
  rcases (Bool.or_eq_true _ _).mp gap with same | same
  · exact Or.inl (beq_iff_eq.mp same)
  · exact Or.inr (beq_iff_eq.mp same)

theorem isBlank_of_isGap {c : Char} (gap : isGap c = true) : isBlank c = true := by
  rcases eq_of_isGap gap with rfl | rfl
  · decide
  · decide

namespace Requirement

theorem bounds_of_isAlphanum {c : Char} (known : c.isAlphanum = true) :
    45 ≤ c.toNat ∧ c.toNat ≤ 122 := by
  rcases (Bool.or_eq_true _ _).mp known with letter | digit
  · rcases (Bool.or_eq_true _ _).mp letter with capital | small
    · have bounds : 65 ≤ c.toNat ∧ c.toNat ≤ 90 :=
        of_decide_eq_true (p := 'A'.val ≤ c.val ∧ c.val ≤ 'Z'.val) capital
      omega
    · obtain ⟨least, most⟩ := (Bool.and_eq_true _ _).mp small
      have lower : 97 ≤ c.toNat := of_decide_eq_true (p := 'a'.val ≤ c.val) least
      have upper : c.toNat ≤ 122 := of_decide_eq_true (p := c.val ≤ 'z'.val) most
      omega
  · have bounds : 48 ≤ c.toNat ∧ c.toNat ≤ 57 := Char.isDigit_iff_toNat.mp digit
    omega

theorem bounds_of_isNameChar {c : Char} (named : isNameChar c = true) :
    45 ≤ c.toNat ∧ c.toNat ≤ 122 := by
  simp only [isNameChar, Bool.or_eq_true, beq_iff_eq] at named
  rcases named with ((letter | rfl) | rfl) | rfl
  · exact bounds_of_isAlphanum letter
  · decide
  · decide
  · decide

theorem isNameChar_of_isNameStart {c : Char} (start : isNameStart c = true) :
    isNameChar c = true := by
  rw [isNameStart] at start
  rw [isNameChar, start]
  rfl

theorem ne_of_isNameChar {c separator : Char} (named : isNameChar c = true)
    (other : isNameChar separator = false) : c ≠ separator := by
  rintro rfl
  rw [other] at named
  cases named

theorem isBlank_of_isNameChar {c : Char} (named : isNameChar c = true) : isBlank c = false := by
  have bounds := bounds_of_isNameChar named
  have low : c.toNat < 128 := by omega
  have space : (c == ' ') = false := by
    rw [beq_eq_false_iff_ne]
    exact ne_of_isNameChar named (by decide)
  simp only [isBlank, Ranges.classify, low, if_true, space, Bool.false_or, Bool.and_eq_false_iff,
    decide_eq_false_iff_not]
  omega

theorem before_append {separator : Char} {front back : Text} (free : separator ∉ front)
    (stops : ∀ c, back.head? = some c → c = separator) :
    before separator (front ++ back) = front := by
  apply Text.takeWhile_append_of_stop
  · intro c member
    rw [bne_iff_ne]
    intro same
    exact free (same ▸ member)
  · intro c first
    rw [stops c first, bne_self_eq_false]

/-- Blanks around a text do not change what stands in front of a separator. -/
theorem trim_before_trim {separator : Char} (solid : isBlank separator = false) (text : Text) :
    Text.trim (before separator (Text.trim text)) = Text.trim (before separator text) := by
  obtain ⟨lead, tail, split, blankLead, blankTail⟩ := Text.trim_split text
  have passes {blanks : Text} (blank : ∀ c ∈ blanks, isBlank c = true) :
      ∀ c ∈ blanks, (c != separator) = true := by
    intro c member
    rw [bne_iff_ne]
    intro same
    have clash := blank c member
    rw [same, solid] at clash
    cases clash
  have whole : before separator text =
      lead ++ (Text.trim text ++ tail).takeWhile (· != separator) := by
    conv_lhs => rw [split]
    exact List.takeWhile_append_of_pos (passes blankLead)
  rw [whole, Text.trim_append_left blankLead, List.takeWhile_append]
  split
  · rename_i ends
    have free : before separator (Text.trim text) = Text.trim text :=
      (List.takeWhile_prefix _).eq_of_length ends
    have rest : tail.takeWhile (· != separator) = tail :=
      List.takeWhile_eq_self_iff.mpr (passes blankTail)
    rw [free, rest, Text.trim_append_right blankTail]
  · rfl

theorem afterExtras_of_first {text : Text} (first : ∀ c, text.head? = some c → c ≠ '[') :
    afterExtras text = text := by
  unfold afterExtras
  split
  · exact absurd rfl (first '[' rfl)
  · rfl

theorem afterExtras_enclosed {extras : Text} (closed : ∀ c ∈ extras, c ≠ ']') (text : Text) :
    afterExtras ('[' :: (extras ++ [']']) ++ text) = text := by
  have stops : (extras ++ ([']'] ++ text)).dropWhile (· != ']') = ']' :: text := by
    rw [List.dropWhile_append_of_pos fun c member => bne_iff_ne.mpr (closed c member)]
    exact List.dropWhile_cons_of_neg (by decide)
  rw [List.cons_append, List.append_assoc, afterExtras]
  simp only [stops]

end Requirement

/-! ### Addresses -/

theorem eq_of_mem_addressMark {c : Char} (member : c ∈ addressMark) : c = ':' ∨ c = '/' := by
  have marks : addressMark = [':', '/', '/'] := by decide
  rw [marks] at member
  simp only [List.mem_cons, List.not_mem_nil, or_false, or_self] at member
  exact member

/-- No operator goes on with a name, opens something or belongs to an address. -/
theorem plain_of_operator {c : Char} (operator : c ∈ operators) :
    Requirement.isNameChar c = false ∧ c ≠ '(' ∧ c ≠ '[' ∧ c ∉ addressMark := by
  have known : operators = ['<', '>', '=', '!', '~', '^'] := by decide
  rw [known] at operator
  simp only [List.mem_cons, List.not_mem_nil, or_false] at operator
  rcases operator with rfl | rfl | rfl | rfl | rfl | rfl
  all_goals decide

theorem not_address_of_forall {text : Text} (free : ∀ c ∈ text, c ≠ ':') :
    ¬ addressMark <:+: text := by
  intro found
  exact free ':' (found.subset (by decide)) rfl

theorem address_of_cons {c : Char} {text : Text} (other : c ≠ ':')
    (found : addressMark <:+: c :: text) : addressMark <:+: text := by
  rcases List.infix_cons_iff.mp found with starts | later
  · obtain ⟨rest, split⟩ := starts
    exact absurd (List.cons.inj split).1.symm other
  · exact later

theorem not_address_enclosed {opening closing : Char} {text : Text} (first : opening ≠ ':')
    (last : closing ∉ addressMark) (free : ¬ addressMark <:+: text) :
    ¬ addressMark <:+: opening :: (text ++ [closing]) := by
  intro found
  have apart : ∀ c, [closing].head? = some c → c ∉ addressMark := by
    intro c same
    cases same
    exact last
  rcases Text.infix_of_infix_append apart (address_of_cons first found) with inside | behind
  · exact free inside
  · have short := behind.length_le
    rw [List.length_singleton] at short
    exact absurd short (by decide)

/-- A part of a line that holds no separator and no address, nor can end one. -/
structure IsPlain (part : Text) : Prop where
  closed : ∀ c ∈ part, c ≠ '#' ∧ c ≠ ';'
  apart : ∀ c, part.head? = some c → c ∉ addressMark
  address : ¬ addressMark <:+: part

theorem isPlain_of_forall {part : Text}
    (plain : ∀ c ∈ part, c ≠ '#' ∧ c ≠ ';' ∧ c ∉ addressMark) : IsPlain part where
  closed := by
    intro c member
    exact ⟨(plain c member).1, (plain c member).2.1⟩
  apart := by
    intro c first
    exact (plain c (List.mem_of_head? first)).2.2
  address := by
    apply not_address_of_forall
    rintro c member rfl
    exact (plain ':' member).2.2 (by decide)

theorem isPlain_gap {gap : Text} (blank : ∀ c ∈ gap, isGap c = true) : IsPlain gap := by
  apply isPlain_of_forall
  intro c member
  rcases eq_of_isGap (blank c member) with rfl | rfl
  · decide
  · decide

theorem isPlain_name {name : Text} (named : ∀ c ∈ name, Requirement.isNameChar c = true) :
    IsPlain name := by
  apply isPlain_of_forall
  intro c member
  have other {separator : Char} (free : Requirement.isNameChar separator = false) : c ≠ separator :=
    Requirement.ne_of_isNameChar (named c member) free
  constructor
  · exact other (by decide)
  constructor
  · exact other (by decide)
  · intro marked
    rcases eq_of_mem_addressMark marked with rfl | rfl
    · exact other (by decide) rfl
    · exact other (by decide) rfl

theorem isPlain_enclosed {opening closing : Char} {text : Text}
    (first : opening ≠ '#' ∧ opening ≠ ';' ∧ opening ∉ addressMark)
    (last : closing ≠ '#' ∧ closing ≠ ';' ∧ closing ∉ addressMark)
    (closed : ∀ c ∈ text, c ≠ '#' ∧ c ≠ ';') (address : ¬ addressMark <:+: text) :
    IsPlain (opening :: (text ++ [closing])) where
  closed := by
    intro c member
    rcases List.mem_cons.mp member with rfl | member
    · exact ⟨first.1, first.2.1⟩
    rcases List.mem_append.mp member with member | member
    · exact closed c member
    · rw [List.mem_singleton.mp member]
      exact ⟨last.1, last.2.1⟩
  apart := by
    intro c same
    cases same
    exact first.2.2
  address := by
    apply not_address_enclosed _ last.2.2 address
    rintro rfl
    exact first.2.2 (by decide)

namespace RequirementLine

variable {line : RequirementLine} (written : line.IsWritten)

include written

/-! ### The specifier -/

theorem compact_spelled : Text.compact line.spelled = line.specifier.getD [] := by
  have gaps : Text.compact line.spelled =
      Text.compact (line.spelled.filter fun c => !isGap c) := by
    rw [Text.compact, Text.compact, List.filter_filter]
    apply List.filter_congr
    intro c _
    cases gap : isGap c with
    | true => rw [isBlank_of_isGap gap]; rfl
    | false => rw [Bool.not_false, Bool.and_true]
  rw [gaps, written.spelled, Text.compact, List.filter_eq_self]
  intro c member
  cases kept : line.specifier with
  | none =>
      rw [kept] at member
      cases member
  | some text =>
      rw [kept] at member
      rw [((written.specifier text kept).plain c member).1]
      rfl

theorem mem_spelled {c : Char} (member : c ∈ line.spelled) :
    isGap c = true ∨ ∃ text, line.specifier = some text ∧ c ∈ text := by
  cases gap : isGap c with
  | true => exact Or.inl rfl
  | false =>
      right
      have kept : c ∈ line.spelled.filter fun c => !isGap c :=
        List.mem_filter.mpr ⟨member, by rw [gap]; rfl⟩
      rw [written.spelled] at kept
      cases found : line.specifier with
      | none =>
          rw [found] at kept
          cases kept
      | some text =>
          rw [found] at kept
          exact ⟨text, rfl, kept⟩

theorem first_of_compact {text : Text} (kept : Text.compact text = line.specifier.getD []) {c : Char}
    (first : text.head? = some c) : isBlank c = true ∨ c ∈ operators := by
  cases blank : isBlank c with
  | true => exact Or.inl rfl
  | false =>
      right
      obtain ⟨rest, split⟩ := List.head?_eq_some_iff.mp first
      rw [split, Text.compact, List.filter_cons_of_pos (by rw [blank]; rfl)] at kept
      cases found : line.specifier with
      | none =>
          rw [found] at kept
          cases kept
      | some spec =>
          rw [found, Option.getD_some] at kept
          obtain ⟨operator, known, starts⟩ := (written.specifier spec found).operator
          rw [← kept, List.head?_cons, Option.some_inj] at starts
          exact starts ▸ known

theorem last_of_compact {text : Text} (kept : Text.compact text = line.specifier.getD []) {c : Char}
    (last : text.getLast? = some c) : c ≠ ')' := by
  rintro rfl
  obtain ⟨front, split⟩ := List.getLast?_eq_some_iff.mp last
  rw [split, Text.compact_append] at kept
  cases found : line.specifier with
  | none =>
      rw [found] at kept
      exact absurd kept (List.append_ne_nil_of_right_ne_nil _ (by decide))
  | some spec =>
      rw [found, Option.getD_some] at kept
      apply (written.specifier spec found).closing
      rw [← kept]
      exact List.getLast?_concat

theorem first_ne_of_compact {text : Text} (kept : Text.compact text = line.specifier.getD [])
    {c : Char} (first : text.head? = some c) : c ≠ '(' ∧ c ≠ '[' := by
  rcases first_of_compact written kept first with blank | operator
  · constructor
    · rintro rfl
      exact absurd blank (by decide)
    · rintro rfl
      exact absurd blank (by decide)
  · obtain ⟨_, opening, bracket, _⟩ := plain_of_operator operator
    exact ⟨opening, bracket⟩

theorem unwrap_bare {text : Text} (kept : Text.compact text = line.specifier.getD []) :
    Requirement.unwrap text = text := by
  have front : text.dropWhile (· == '(') = text := by
    cases text with
    | nil => rfl
    | cons c rest =>
        have other := (first_ne_of_compact written kept rfl).1
        exact List.dropWhile_cons_of_neg (by rw [beq_iff_eq]; exact other)
  have back : List.rdropWhile (· == ')') text = text := by
    rw [List.rdropWhile_eq_self_iff]
    intro filled
    rw [beq_iff_eq]
    exact last_of_compact written kept (List.getLast?_eq_getLast_of_ne_nil filled)
  rw [Requirement.unwrap, front]
  exact back

theorem unwrap_wrapped : Requirement.unwrap ('(' :: (line.spelled ++ [')'])) = line.spelled := by
  have opened : (line.spelled ++ [')']).dropWhile (· == '(') = line.spelled ++ [')'] := by
    cases spelled : line.spelled with
    | nil => rfl
    | cons c rest =>
        have other := (first_ne_of_compact written (compact_spelled written) (by rw [spelled]; rfl)).1
        exact List.dropWhile_cons_of_neg (by rw [beq_iff_eq]; exact other)
  have closed : List.rdropWhile (· == ')') (line.spelled ++ [')']) = line.spelled := by
    rw [List.rdropWhile_concat_pos _ _ _ (by rfl), List.rdropWhile_eq_self_iff]
    intro filled
    rw [beq_iff_eq]
    exact last_of_compact written (compact_spelled written)
      (List.getLast?_eq_getLast_of_ne_nil filled)
  rw [Requirement.unwrap, List.dropWhile_cons_of_pos (by rfl), opened]
  exact closed

theorem specifierOf_trim :
    Requirement.specifierOf (Text.trim line.specifierText) =
      (line.specifier.map String.ofList).getD "*" := by
  have spelled := compact_spelled written
  have kept : Text.compact (Requirement.unwrap (Text.trim line.specifierText)) =
      line.specifier.getD [] := by
    rw [specifierText]
    cases line.wrapped with
    | true =>
        have solid : Text.IsTrimmed ('(' :: (line.spelled ++ [')'])) :=
          Text.isTrimmed_enclosed (by decide) (by decide) line.spelled
        rw [if_pos rfl, Text.trim_eq_self solid, unwrap_wrapped written, spelled]
    | false =>
        have trimmed : Text.compact (Text.trim line.spelled) = line.specifier.getD [] :=
          (Text.compact_trim line.spelled).trans spelled
        rw [if_neg Bool.false_ne_true, unwrap_bare written trimmed, trimmed]
  rw [Requirement.specifierOf, Text.trim_trim, kept]
  cases found : line.specifier with
  | none => rfl
  | some text =>
      obtain ⟨operator, _, first⟩ := (written.specifier text found).operator
      obtain ⟨rest, split⟩ := List.head?_eq_some_iff.mp first
      rw [Option.getD_some, split]
      rfl

/-! ### The parts -/

theorem mem_name {c : Char} (member : c ∈ line.name) : Requirement.isNameChar c = true := by
  obtain ⟨first, rest, split, start, named⟩ := written.name
  rw [split] at member
  rcases List.mem_cons.mp member with rfl | later
  · exact Requirement.isNameChar_of_isNameStart start
  · exact named c later

theorem isPlain_extras : IsPlain line.extrasText := by
  rw [extrasText]
  cases found : line.extras with
  | none => exact isPlain_of_forall fun c member => absurd member List.not_mem_nil
  | some text =>
      obtain ⟨closed, address⟩ := written.extras text found
      exact isPlain_enclosed (by decide) (by decide) (fun c member => (closed c member).2) address

theorem isPlain_specifier : IsPlain line.specifierText := by
  have closed : ∀ c ∈ line.spelled, c ≠ '#' ∧ c ≠ ';' := by
    intro c member
    rcases mem_spelled written member with gap | ⟨text, found, inside⟩
    · rcases eq_of_isGap gap with rfl | rfl
      · decide
      · decide
    · exact ((written.specifier text found).plain c inside).2
  -- Blanks can only part an address, so that what is left without them would hold one too.
  have address : ¬ addressMark <:+: line.spelled := by
    intro found
    have kept := found.filter fun c => !isGap c
    rw [written.spelled] at kept
    cases spec : line.specifier with
    | none =>
        rw [spec] at kept
        exact absurd (List.infix_nil.mp kept) (by decide)
    | some text =>
        rw [spec] at kept
        exact (written.specifier text spec).address kept
  rw [specifierText]
  cases line.wrapped with
  | true => exact isPlain_enclosed (by decide) (by decide) closed address
  | false =>
      refine ⟨closed, ?_, address⟩
      intro c first
      rcases first_of_compact written (compact_spelled written) first with blank | operator
      · intro marked
        rcases eq_of_mem_addressMark marked with rfl | rfl
        · exact absurd blank (by decide)
        · exact absurd blank (by decide)
      · exact (plain_of_operator operator).2.2.2

theorem isPlain_part : ∀ part ∈ line.parts, IsPlain part := by
  have blanks := written.gaps
  simp only [gaps, List.forall_mem_cons] at blanks
  obtain ⟨lead, afterName, afterExtras, afterSpecifier, _⟩ := blanks
  simp only [parts, List.forall_mem_cons]
  exact ⟨isPlain_gap lead, isPlain_name fun c => mem_name written, isPlain_gap afterName,
    isPlain_extras written, isPlain_gap afterExtras, isPlain_specifier written,
    isPlain_gap afterSpecifier, fun part member => absurd member List.not_mem_nil⟩

end RequirementLine

end AgentProbe
