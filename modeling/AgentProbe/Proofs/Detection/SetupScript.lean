import AgentProbe.Detection.Manifest

set_option autoImplicit false

/-!
What is read from the list of requirements in a setup script.

The list ends at the first closing bracket, also one inside a requirement, and a text ends at the next
quote of either kind.  So the texts of the list are found exactly if they have no closing bracket and
no quote in them.
-/

namespace AgentProbe

/-! ### The assignment -/

/-- A text starts with a word to which a list is assigned; `rest` follows the opening bracket. -/
def Assigns (word text rest : Text) : Prop :=
  ∃ space gap, (∀ c ∈ space, isBlank c = true) ∧ (∀ c ∈ gap, isBlank c = true) ∧
    text = word ++ (space ++ '=' :: (gap ++ '[' :: rest))

theorem trimStart_blanks {space rest : Text} {c : Char} (blank : ∀ c ∈ space, isBlank c = true)
    (solid : isBlank c = false) : Text.trimStart (space ++ c :: rest) = c :: rest := by
  rw [Text.trimStart, List.dropWhile_append_of_pos blank,
    List.dropWhile_cons_of_neg (by rw [solid]; exact Bool.false_ne_true)]

theorem trimStart_split (text : Text) :
    ∃ space, (∀ c ∈ space, isBlank c = true) ∧ text = space ++ Text.trimStart text := by
  refine ⟨text.takeWhile isBlank, ?_, List.takeWhile_append_dropWhile.symm⟩
  exact fun c member => List.all_eq_true.mp List.all_takeWhile c member

theorem afterAssignment?_eq_some_iff {word text rest : Text} :
    afterAssignment? word text = some rest ↔ Assigns word text rest := by
  constructor
  · intro found
    unfold afterAssignment? at found
    split at found
    · rename_i starts
      obtain ⟨tail, rfl⟩ := List.isPrefixOf_iff_prefix.mp starts
      rw [List.drop_left] at found
      obtain ⟨space, blank, split⟩ := trimStart_split tail
      split at found
      · rename_i value assigned
        obtain ⟨gap, blankGap, splitGap⟩ := trimStart_split value
        split at found
        · rename_i inner opened
          cases found
          refine ⟨space, gap, blank, blankGap, ?_⟩
          rw [← opened, ← splitGap, ← assigned, ← split]
        · cases found
      · cases found
    · cases found
  · rintro ⟨space, gap, blank, blankGap, rfl⟩
    have starts : word.isPrefixOf (word ++ (space ++ '=' :: (gap ++ '[' :: rest))) = true :=
      List.isPrefixOf_iff_prefix.mpr (List.prefix_append _ _)
    simp only [afterAssignment?, starts, if_true, List.drop_left,
      trimStart_blanks blank (by decide : isBlank '=' = false),
      trimStart_blanks blankGap (by decide : isBlank '[' = false)]

/-- The list is the text up to the first closing bracket, if no list is assigned in front of it. -/
theorem assignedList?_append {word before opening rest : Text} (assigned : Assigns word opening rest)
    (closed : ']' ∈ rest)
    (first : ∀ back, back <:+ before → back ≠ [] → ∀ other, ¬ Assigns word (back ++ opening) other) :
    assignedList? word (before ++ opening) = some (rest.takeWhile (· != ']')) := by
  induction before with
  | nil =>
      have found := afterAssignment?_eq_some_iff.mpr assigned
      rw [List.nil_append]
      cases opening with
      | nil =>
          obtain ⟨space, gap, _, _, split⟩ := assigned
          simp at split
      | cons c opening =>
          have closes : rest.contains ']' = true := List.contains_iff_mem.mpr closed
          simp only [assignedList?, found, closes, if_true]
  | cons c before ih =>
      have missed : afterAssignment? word (c :: (before ++ opening)) = none := by
        cases found : afterAssignment? word (c :: (before ++ opening)) with
        | none => rfl
        | some other =>
            exact absurd (afterAssignment?_eq_some_iff.mp found)
              (first (c :: before) (List.suffix_refl _) (List.cons_ne_nil c before) other)
      rw [List.cons_append, assignedList?, missed]
      apply ih
      intro back shorter
      exact first back (shorter.trans (List.suffix_cons c before))

/-! ### Quoted texts -/

theorem quotedTexts_skip {gap : Text} (clean : ∀ c ∈ gap, isQuote c = false) (rest : Text) :
    quotedTexts none (gap ++ rest) = quotedTexts none rest := by
  induction gap with
  | nil => rfl
  | cons c gap ih =>
      have plain : isQuote c = false := clean c List.mem_cons_self
      rw [List.cons_append, quotedTexts, plain, if_neg Bool.false_ne_true]
      exact ih fun other member => clean other (List.mem_cons_of_mem c member)

theorem quotedTexts_take {piece : Text} (clean : ∀ c ∈ piece, isQuote c = false) (taken rest : Text) :
    quotedTexts (some taken) (piece ++ rest) = quotedTexts (some (piece.reverse ++ taken)) rest := by
  induction piece generalizing taken with
  | nil => rfl
  | cons c piece ih =>
      have plain : isQuote c = false := clean c List.mem_cons_self
      have later := ih fun other member => clean other (List.mem_cons_of_mem c member)
      rw [List.cons_append, List.reverse_cons, List.append_assoc, ← List.singleton_append.symm,
        ← later]
      cases taken with
      | nil => simp only [quotedTexts, plain, Bool.false_eq_true, if_false]
      | cons d taken => simp only [quotedTexts, plain, Bool.false_eq_true, if_false]

theorem quotedTexts_close {piece : Text} {quote : Char} (clean : ∀ c ∈ piece, isQuote c = false)
    (filled : piece ≠ []) (closing : isQuote quote = true) (rest : Text) :
    quotedTexts (some []) (piece ++ quote :: rest) = piece :: quotedTexts none rest := by
  rw [quotedTexts_take clean, List.append_nil]
  cases reversed : piece.reverse with
  | nil => exact absurd (List.reverse_eq_nil_iff.mp reversed) filled
  | cons c taken =>
      have closes : quotedTexts (some (c :: taken)) (quote :: rest) =
          (c :: taken).reverse :: quotedTexts none rest := by
        simp only [quotedTexts, closing, if_true]
      rw [closes, ← reversed, List.reverse_reverse]

theorem quotedTexts_open {quote : Char} (opens : isQuote quote = true) (rest : Text) :
    quotedTexts none (quote :: rest) = quotedTexts (some []) rest := by
  rw [quotedTexts, opens, if_pos rfl]

theorem quotedTexts_unclosed {piece : Text} (clean : ∀ c ∈ piece, isQuote c = false) :
    quotedTexts (some []) piece = [] := by
  have taken := quotedTexts_take clean [] []
  rw [List.append_nil] at taken
  rw [taken, quotedTexts]

/-- What holds of all characters other than quotes holds of all characters that are found. -/
theorem quotedTexts_forall {P : Char → Prop} {begun : Option Text} {text : Text}
    (outside : ∀ c ∈ text, isQuote c = false → P c)
    (inside : ∀ taken, begun = some taken → ∀ c ∈ taken, P c) :
    ∀ found ∈ quotedTexts begun text, ∀ c ∈ found, P c := by
  fun_induction quotedTexts begun text with
  | case1 => simp
  | case2 head rest ih =>
      apply ih fun c member => outside c (List.mem_cons_of_mem head member)
      intro taken same
      split at same
      · cases same
        simp
      · cases same
  | case3 head rest ih =>
      apply ih fun c member => outside c (List.mem_cons_of_mem head member)
      intro taken same c member
      split at same
      · cases same
        cases member
      · rename_i plain
        cases same
        rw [List.mem_singleton.mp member]
        exact outside head List.mem_cons_self (by simpa using plain)
  | case4 head rest taken filled closes ih =>
      intro found member c present
      rcases List.mem_cons.mp member with rfl | later
      · exact inside taken rfl c (List.mem_reverse.mp present)
      · exact ih (fun c member => outside c (List.mem_cons_of_mem head member)) (by simp) found later
          c present
  | case5 head rest taken filled plain ih =>
      apply ih fun c member => outside c (List.mem_cons_of_mem head member)
      intro longer same c member
      cases same
      rcases List.mem_cons.mp member with rfl | before
      · exact outside c List.mem_cons_self (by simpa using plain)
      · exact inside taken rfl c before

/-! ### Written lists -/

/-- A text in quotes, with what stands in front of it: blanks, a comma or nothing. -/
structure QuotedItem where
  gap : Text
  quote : Char
  text : Text

namespace QuotedItem

def written (item : QuotedItem) : Text :=
  item.gap ++ item.quote :: (item.text ++ [item.quote])

/-- An item as it stands in a list: its text is not empty and does not contain its quote, and in front
of it there is no quote and no bracket. -/
structure IsWritten (item : QuotedItem) : Prop where
  gap : ∀ c ∈ item.gap, isQuote c = false ∧ c ≠ ']'
  quote : isQuote item.quote = true
  filled : item.text ≠ []
  apart : item.quote ∉ item.text

/-- The text of an item has no closing bracket and no quote of the other kind. -/
def IsPlain (item : QuotedItem) : Prop :=
  ∀ c ∈ item.text, isQuote c = false ∧ c ≠ ']'

end QuotedItem

def scriptTexts (script : Text) : List Text :=
  ((assignedList? "install_requires".toList script).map (quotedTexts none)).getD []

theorem scriptRequirements_eq (script : Text) :
    scriptRequirements script = (scriptTexts script).filterMap Requirement.read? := by
  unfold scriptRequirements scriptTexts
  cases assignedList? "install_requires".toList script <;> rfl

section Written

variable {items front rest : List QuotedItem} {item : QuotedItem}
  (written : ∀ item ∈ items, item.IsWritten)

include written

theorem quotedTexts_items (clean : ∀ item ∈ items, ∀ c ∈ item.text, isQuote c = false)
    (after : Text) :
    quotedTexts none (items.flatMap QuotedItem.written ++ after) =
      items.map QuotedItem.text ++ quotedTexts none after := by
  induction items with
  | nil => rfl
  | cons item items ih =>
      obtain ⟨gap, quote, filled, _⟩ := written item List.mem_cons_self
      have later := ih (fun other member => written other (List.mem_cons_of_mem item member))
        (fun other member => clean other (List.mem_cons_of_mem item member))
      rw [List.flatMap_cons, QuotedItem.written, List.map_cons, List.cons_append, ← later]
      simp only [List.append_assoc, List.cons_append, List.nil_append]
      rw [quotedTexts_skip fun c member => (gap c member).1, quotedTexts_open quote,
        quotedTexts_close (clean item List.mem_cons_self) filled quote]

theorem open_of_plain (plain : ∀ item ∈ items, item.IsPlain) :
    ∀ c ∈ items.flatMap QuotedItem.written, (c != ']') = true := by
  intro c member
  obtain ⟨item, listed, inside⟩ := List.mem_flatMap.mp member
  have quote : ∀ d, isQuote d = true → d ≠ ']' := by
    rintro d quoted rfl
    exact absurd quoted (by decide)
  have around := (written item listed).quote
  simp only [QuotedItem.written, List.mem_append, List.mem_cons, List.not_mem_nil, or_false] at inside
  rw [bne_iff_ne]
  rcases inside with gap | same | text | same
  · exact ((written item listed).gap c gap).2
  · exact quote c (same ▸ around)
  · exact (plain item listed c text).2
  · exact quote c (same ▸ around)

end Written

/-- A setup script with a list of quoted items: what stands in front of the assignment and behind the
list, and where the list ends.  No other list is assigned in front of it. -/
structure IsScript (before opening : Text) (items : List QuotedItem) (closing after : Text) :
    Prop where
  assigned : Assigns "install_requires".toList opening
    (items.flatMap QuotedItem.written ++ (closing ++ ']' :: after))
  first : ∀ back, back <:+ before → back ≠ [] → ∀ other,
    ¬ Assigns "install_requires".toList (back ++ opening) other
  written : ∀ item ∈ items, item.IsWritten
  closing : ∀ c ∈ closing, isQuote c = false ∧ c ≠ ']'

namespace IsScript

variable {before opening closing after : Text} {items front rest : List QuotedItem}
  {item : QuotedItem} (script : IsScript before opening items closing after)

include script

theorem scriptTexts_eq :
    scriptTexts (before ++ opening) = quotedTexts none
      ((items.flatMap QuotedItem.written ++ (closing ++ ']' :: after)).takeWhile (· != ']')) := by
  have closed : ']' ∈ items.flatMap QuotedItem.written ++ (closing ++ ']' :: after) := by simp
  rw [scriptTexts, assignedList?_append script.assigned closed script.first]
  rfl

theorem scriptTexts_of_plain (plain : ∀ item ∈ items, item.IsPlain) :
    scriptTexts (before ++ opening) = items.map QuotedItem.text := by
  have ends : (closing ++ ']' :: after).takeWhile (· != ']') = closing := by
    rw [List.takeWhile_append_of_pos fun c member => bne_iff_ne.mpr (script.closing c member).2,
      List.takeWhile_cons_of_neg (by decide), List.append_nil]
  have none : quotedTexts none closing = [] := by
    have skipped := quotedTexts_skip (fun c member => (script.closing c member).1) []
    rwa [List.append_nil] at skipped
  rw [script.scriptTexts_eq, List.takeWhile_append_of_pos (open_of_plain script.written plain), ends,
    quotedTexts_items script.written fun item member c inside => (plain item member c inside).1,
    none, List.append_nil]

/-- The items in front of the first that is not plain are found.  Of that one, the text is read up to
the character `c` that is no part of a plain text; what is read from there on is left open. -/
theorem scriptTexts_of_split {head more : Text} {c : Char} (split : items = front ++ item :: rest)
    (plain : ∀ other ∈ front, other.IsPlain) (text : item.text = head ++ c :: more)
    (clean : ∀ d ∈ head, isQuote d = false ∧ d ≠ ']') :
    ∃ tail, scriptTexts (before ++ opening) = front.map QuotedItem.text ++
      quotedTexts (some []) (head ++ (c :: tail).takeWhile (· != ']')) := by
  have written := script.written
  rw [split] at written
  have ahead : ∀ other ∈ front, other.IsWritten :=
    fun other member => written other (List.mem_append_left _ member)
  obtain ⟨gap, quote, _, _⟩ := written item (by simp)
  have opens : (item.quote != ']') = true := by
    rw [bne_iff_ne]
    intro bracket
    rw [bracket] at quote
    exact absurd quote (by decide)
  refine ⟨more ++ item.quote :: (rest.flatMap QuotedItem.written ++ (closing ++ ']' :: after)), ?_⟩
  have shape : items.flatMap QuotedItem.written ++ (closing ++ ']' :: after) =
      front.flatMap QuotedItem.written ++ (item.gap ++ item.quote :: (head ++ c :: (more ++
        item.quote :: (rest.flatMap QuotedItem.written ++ (closing ++ ']' :: after))))) := by
    rw [split, List.flatMap_append, List.flatMap_cons, QuotedItem.written, text]
    simp only [List.append_assoc, List.cons_append, List.nil_append]
  rw [script.scriptTexts_eq, shape,
    List.takeWhile_append_of_pos (open_of_plain ahead plain),
    List.takeWhile_append_of_pos fun d member => bne_iff_ne.mpr (gap d member).2,
    List.takeWhile_cons, if_pos opens,
    List.takeWhile_append_of_pos fun d member => bne_iff_ne.mpr (clean d member).2,
    quotedTexts_items ahead fun other member d inside => (plain other member d inside).1,
    quotedTexts_skip fun d member => (gap d member).1, quotedTexts_open quote]

theorem plain_of_scriptTexts (found : scriptTexts (before ++ opening) = items.map QuotedItem.text) :
    ∀ item ∈ items, item.IsPlain := by
  intro item member
  have present : item.text ∈ scriptTexts (before ++ opening) := by
    rw [found]
    exact List.mem_map_of_mem member
  rw [script.scriptTexts_eq] at present
  refine quotedTexts_forall ?_ (by simp) item.text present
  intro c inside plain
  have open_ := List.all_eq_true.mp List.all_takeWhile c inside
  exact ⟨plain, bne_iff_ne.mp open_⟩

end IsScript

/-- The texts of a list are found exactly if none of them has a closing bracket or a quote in it; then
the requirements are those of the texts, in their order.  If the first text that is different has a
bracket, it is lost with all texts behind it; if it has a quote, its beginning is found. -/
theorem scriptRequirements_written {before opening closing after : Text} {items : List QuotedItem}
    (script : IsScript before opening items closing after) :
    (scriptTexts (before ++ opening) = items.map QuotedItem.text ↔
        ∀ item ∈ items, item.IsPlain) ∧
      ((∀ item ∈ items, item.IsPlain) →
        scriptRequirements (before ++ opening) =
          (items.map QuotedItem.text).filterMap Requirement.read?) ∧
      ∀ front item rest head c more, items = front ++ item :: rest →
        (∀ other ∈ front, other.IsPlain) → item.text = head ++ c :: more →
        (∀ d ∈ head, isQuote d = false ∧ d ≠ ']') →
        (c = ']' → scriptRequirements (before ++ opening) =
          (front.map QuotedItem.text).filterMap Requirement.read?) ∧
        (isQuote c = true → head ≠ [] → ∃ others,
          scriptTexts (before ++ opening) = front.map QuotedItem.text ++ head :: others) := by
  refine ⟨⟨script.plain_of_scriptTexts, script.scriptTexts_of_plain⟩, ?_, ?_⟩
  · intro plain
    rw [scriptRequirements_eq, script.scriptTexts_of_plain plain]
  · intro front item rest head c more split plain text clean
    obtain ⟨tail, found⟩ := script.scriptTexts_of_split split plain text clean
    constructor
    · rintro rfl
      rw [List.takeWhile_cons_of_neg (by decide), List.append_nil,
        quotedTexts_unclosed fun d member => (clean d member).1, List.append_nil] at found
      rw [scriptRequirements_eq, found]
    · intro quote filled
      have stays : (c != ']') = true := by
        rw [bne_iff_ne]
        rintro rfl
        exact absurd quote (by decide)
      rw [List.takeWhile_cons, if_pos stays,
        quotedTexts_close (fun d member => (clean d member).1) filled quote] at found
      exact ⟨_, found⟩

def extrasItems : List QuotedItem :=
  [⟨[], '"', "langchain[openai]>=0.2".toList⟩, ⟨", ".toList, '"', "crewai".toList⟩]

def extrasOpening : Text :=
  "install_requires=[\"langchain[openai]>=0.2\", \"crewai\"])\n".toList

theorem extrasItems_isScript :
    IsScript "setup(".toList extrasOpening extrasItems [] ")\n".toList where
  assigned := ⟨[], [], by simp, by simp, by decide⟩
  first := by
    rintro back suffix filled other ⟨space, gap, _, _, starts⟩
    obtain ⟨c, back, rfl⟩ := List.exists_cons_of_ne_nil filled
    have letter : c = 'i' := (List.cons.inj starts).1
    have absent : 'i' ∉ "setup(".toList := by decide
    exact absent (letter ▸ suffix.subset List.mem_cons_self)
  written := by
    intro item member
    simp only [extrasItems, List.mem_cons, List.not_mem_nil, or_false] at member
    rcases member with rfl | rfl
    · exact ⟨by simp, by decide, by decide, by decide⟩
    · exact ⟨by simp [isQuote], by decide, by decide, by decide⟩
  closing := by simp

theorem scriptRequirements_written_extras :
    scriptTexts ("setup(".toList ++ extrasOpening) ≠ extrasItems.map QuotedItem.text ∧
      scriptRequirements ("setup(".toList ++ extrasOpening) = [] ∧
      (extrasItems.map QuotedItem.text).filterMap Requirement.read? =
        [⟨"langchain", ">=0.2"⟩, ⟨"crewai", "*"⟩] := by
  have bracket : "langchain[openai]>=0.2".toList = "langchain[openai".toList ++ ']' :: ">=0.2".toList :=
    by decide
  obtain ⟨whole, _, lost⟩ := scriptRequirements_written extrasItems_isScript
  have clean : ∀ d ∈ "langchain[openai".toList, isQuote d = false ∧ d ≠ ']' := by
    simp [isQuote]
  refine ⟨?_, (lost [] _ _ _ ']' _ rfl (by simp) bracket clean).1 rfl, by decide +kernel⟩
  intro found
  have plain := whole.mp found _ List.mem_cons_self ']' (by decide)
  exact plain.2 rfl

end AgentProbe
