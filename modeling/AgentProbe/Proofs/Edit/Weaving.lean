import AgentProbe.Edit.Basic
import AgentProbe.Proofs.Text.Offset

set_option autoImplicit false

/-!
What applying edits does to a text, read from left to right.

Edits are applied from the end backwards.  `Woven` says the same without an order of application: the
text is cut at the spans of the edits, the pieces between them are kept, and every span gives way to
the replacement of its edit.  Whenever edits are accepted, their result is woven in this sense.
-/

namespace AgentProbe

/-- `Woven rest offset edits output`: where `rest` starts at `offset`, the edits, in the order of the
text, turn it into `output`. -/
inductive Woven : Text → Nat → List TextEdit → Text → Prop
  | nil (rest : Text) (offset : Nat) : Woven rest offset [] rest
  | cons (kept old rest output : Text) (offset : Nat) (edit : TextEdit) (edits : List TextEdit)
      (starts : edit.start = offset + Text.bytes kept)
      (stops : edit.stop = edit.start + Text.bytes old)
      (tail : Woven rest edit.stop edits output) :
      Woven (kept ++ (old ++ rest)) offset (edit :: edits)
        (kept ++ (edit.replacement ++ output))

/-- What follows in a woven text is what followed before, or an edit that starts there. -/
theorem Woven.follows {rest output : Text} {offset : Nat} {edits : List TextEdit}
    (woven : Woven rest offset edits output) :
    output.head? = rest.head? ∨
      ∃ other ∈ edits, other.start = offset ∧ other.replacement <+: output := by
  cases woven with
  | nil => exact Or.inl rfl
  | cons kept old rest output offset edit edits starts stops tail =>
      cases kept with
      | nil => exact Or.inr ⟨edit, List.mem_cons_self, starts, List.prefix_append _ _⟩
      | cons c kept => exact Or.inl rfl

/-- Around the replacement of an edit stands what stood around its span, or an edit that touches the
span. -/
theorem Woven.around {rest output : Text} {offset : Nat} {edits : List TextEdit} {edit : TextEdit}
    (woven : Woven rest offset edits output) (member : edit ∈ edits) :
    ∃ before old after front back,
      rest = before ++ (old ++ after) ∧ edit.start = offset + Text.bytes before ∧
      edit.stop = edit.start + Text.bytes old ∧ output = front ++ (edit.replacement ++ back) ∧
      (front.getLast? = before.getLast? ∨
        ∃ other ∈ edits, other.stop = edit.start ∧ other.replacement <:+ front) ∧
      (back.head? = after.head? ∨
        ∃ other ∈ edits, other.start = edit.stop ∧ other.replacement <+: back) := by
  induction woven with
  | nil => cases member
  | cons kept old rest output offset first edits starts stops tail ih =>
      rcases List.mem_cons.mp member with rfl | later
      · refine ⟨kept, old, rest, kept, output, rfl, starts, stops, rfl, Or.inl rfl, ?_⟩
        rcases tail.follows with same | ⟨other, present, touches⟩
        · exact Or.inl same
        · exact Or.inr ⟨other, List.mem_cons_of_mem _ present, touches⟩
      · obtain ⟨before, gone, after, front, back, split, startAt, stopAt, written, left, right⟩ :=
          ih later
        refine ⟨kept ++ old ++ before, gone, after, kept ++ first.replacement ++ front, back,
          by rw [split]; simp only [List.append_assoc], ?_, stopAt,
          by rw [written]; simp only [List.append_assoc], ?_, ?_⟩
        · rw [startAt, stops, starts, Text.bytes_append, Text.bytes_append]
          omega
        · rcases left with same | ⟨other, present, ends, suffix⟩
          · cases ending : before.getLast? with
            | none =>
                -- Nothing is kept between the two edits, so they touch.
                rw [ending] at same
                rw [List.getLast?_eq_none_iff] at ending same
                refine Or.inr ⟨first, List.mem_cons_self, ?_, ?_⟩
                · rw [startAt, ending]
                  rfl
                · rw [same, List.append_nil]
                  exact List.suffix_append _ _
            | some c =>
                refine Or.inl ?_
                rw [List.getLast?_append, same, ending, Option.some_or, List.getLast?_append, ending,
                  Option.some_or]
          · exact Or.inr ⟨other, List.mem_cons_of_mem _ present, ends,
              suffix.trans (List.suffix_append _ _)⟩
        · rcases right with same | ⟨other, present, touches⟩
          · exact Or.inl same
          · exact Or.inr ⟨other, List.mem_cons_of_mem _ present, touches⟩

namespace TextEdit

theorem fits_iff {source : Text} {edit : TextEdit} :
    edit.fits source = true ↔
      edit.start ≤ edit.stop ∧ edit.stop ≤ Text.bytes source ∧
        Text.isBoundary source edit.start = true ∧ Text.isBoundary source edit.stop = true := by
  simp only [fits, Bool.and_eq_true, decide_eq_true_eq, and_assoc]

/-- A span that fits cuts the text in three. -/
theorem fits_split {source : Text} {edit : TextEdit} (fit : edit.fits source = true) :
    ∃ before old after, source = before ++ (old ++ after) ∧ Text.bytes before = edit.start ∧
      edit.stop = edit.start + Text.bytes old := by
  obtain ⟨ordered, _, opens, closes⟩ := fits_iff.mp fit
  obtain ⟨before, tail, outer, startAt⟩ := Text.isBoundary_iff.mp opens
  obtain ⟨front, after, inner, stopAt⟩ := Text.isBoundary_iff.mp closes
  obtain ⟨old, longer, rest⟩ :=
    Text.split_of_bytes_le (outer.symm.trans inner) (by rw [startAt, stopAt]; exact ordered)
  refine ⟨before, old, after, by rw [outer, rest], startAt, ?_⟩
  rw [← stopAt, longer, Text.bytes_append, startAt]

theorem mem_ordered {edits : List TextEdit} {edit : TextEdit} :
    edit ∈ ordered edits ↔ edit ∈ edits :=
  (List.mergeSort_perm edits precedes).mem_iff

/-- The first edit behind an edit that does not overlap it starts after its end. -/
theorem overlap?_cons {first : TextEdit} {rest : List TextEdit}
    (apart : overlap? (first :: rest) = none) :
    (∀ next, rest.head? = some next → first.stop ≤ next.start) ∧ overlap? rest = none := by
  cases rest with
  | nil =>
      refine ⟨?_, rfl⟩
      intro next found
      cases found
  | cons second others =>
      rw [overlap?] at apart
      split at apart
      · cases apart
      · rename_i clear
        refine ⟨?_, apart⟩
        intro next found
        cases found
        omega

/-- Applying edits backwards weaves them in.  The induction runs over the edits in the order of the
text; `before` is what lies in front of the first of them. -/
theorem foldr_apply_woven (source : Text) (edits : List TextEdit) (before rest : Text)
    (split : source = before ++ rest) (fit : ∀ edit ∈ edits, edit.fits source = true)
    (apart : overlap? edits = none)
    (later : ∀ next, edits.head? = some next → Text.bytes before ≤ next.start) :
    ∃ output, Woven rest (Text.bytes before) edits output ∧
      edits.foldr (fun edit text => edit.apply text) source = before ++ output := by
  induction edits generalizing before rest with
  | nil => exact ⟨rest, .nil rest _, split⟩
  | cons edit edits ih =>
      obtain ⟨front, old, after, cutting, startAt, stopAt⟩ :=
        fits_split (fit edit List.mem_cons_self)
      have reached : Text.bytes before ≤ Text.bytes front := by
        rw [startAt]
        exact later edit rfl
      obtain ⟨kept, longer, inner⟩ :=
        Text.split_of_bytes_le (split.symm.trans cutting) reached
      have stopSize : Text.bytes (front ++ old) = edit.stop := by
        rw [Text.bytes_append, startAt, stopAt]
      obtain ⟨behind, apartRest⟩ := overlap?_cons apart
      obtain ⟨output, woven, folded⟩ := ih (front ++ old) after
        (by rw [cutting, List.append_assoc])
        (fun other member => fit other (List.mem_cons_of_mem edit member)) apartRest
        (by rw [stopSize]; exact behind)
      rw [stopSize] at woven
      refine ⟨kept ++ (edit.replacement ++ output), ?_, ?_⟩
      · rw [inner]
        refine .cons kept old after output _ edit edits ?_ stopAt woven
        rw [← startAt, longer, Text.bytes_append]
      · rw [List.foldr_cons, folded]
        -- The edits behind have left everything up to the end of this one as it was.
        have upTo : Text.upTo (front ++ old ++ output) edit.start = front := by
          rw [← startAt, List.append_assoc, Text.upTo_append]
        have since : Text.since (front ++ old ++ output) edit.stop = output := by
          rw [← stopSize, Text.since_append]
        rw [apply, upTo, since, longer]
        simp only [List.append_assoc]

end TextEdit

/-- Edits are applied exactly when every span fits and no two neighbours overlap. -/
theorem applyEdits_eq_ok_iff {source text : Text} {edits : List TextEdit} :
    applyEdits source edits = .ok text ↔
      (∀ edit ∈ edits, edit.fits source = true) ∧
        TextEdit.overlap? (TextEdit.ordered edits) = none ∧
        (TextEdit.ordered edits).foldr (fun edit text => edit.apply text) source = text := by
  simp only [applyEdits]
  cases misfit : (TextEdit.ordered edits).find? fun edit => !edit.fits source with
  | some edit =>
      have found := List.find?_some misfit
      have member := TextEdit.mem_ordered.mp (List.mem_of_find?_eq_some misfit)
      constructor
      · intro impossible
        cases impossible
      · rintro ⟨fit, _⟩
        rw [fit edit member] at found
        cases found
  | none =>
      have fit : ∀ edit ∈ edits, edit.fits source = true := by
        intro edit member
        have checked := List.find?_eq_none.mp misfit edit (TextEdit.mem_ordered.mpr member)
        simpa using checked
      cases overlap : TextEdit.overlap? (TextEdit.ordered edits) with
      | some pair =>
          simp only [reduceCtorEq, false_and, and_false]
      | none =>
          simp only [Except.ok.injEq, true_and]
          exact ⟨fun same => ⟨fit, same⟩, fun both => both.2⟩

theorem applyEdits_woven {source text : Text} {edits : List TextEdit}
    (applied : applyEdits source edits = .ok text) :
    Woven source 0 (TextEdit.ordered edits) text := by
  obtain ⟨fit, apart, folded⟩ := applyEdits_eq_ok_iff.mp applied
  obtain ⟨output, woven, same⟩ := TextEdit.foldr_apply_woven source (TextEdit.ordered edits) []
    source rfl (fun edit member => fit edit (TextEdit.mem_ordered.mp member)) apart
    (fun _ _ => Nat.zero_le _)
  have result : output = text := by
    rw [← folded, same]
    rfl
  rw [← result]
  exact woven

end AgentProbe
