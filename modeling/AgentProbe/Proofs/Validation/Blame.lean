import Mathlib.Data.List.Nodup
import AgentProbe.Proofs.Edit.Realisation
import AgentProbe.Proofs.Edit.Selection
import AgentProbe.Proofs.Plan.Draft
import AgentProbe.Validation.Basic

set_option autoImplicit false

/-!
A text that edits have broken has an edit to blame.

Any selection from edits that were applied together can be applied, so an edit is blamed only for a
text that reads with an error.  All edits together are the longest of the prefixes that are tried: if
they break the text, one of them is found, and its id leads back to the point of the plan.
-/

namespace AgentProbe

open Syntax (SyntaxTree)

def Breaks (source : Text) (edits : List TextEdit) : Prop :=
  ∃ text, applyEdits source edits = .ok text ∧ breaks text = true

/-- The edit between `before` and `after` is the one to blame: it is the first that breaks the text on
its own, or none does and it is the last of the shortest run of edits that break it together. -/
def IsToBlame (source : Text) (before : List TextEdit) (edit : TextEdit) (after : List TextEdit) :
    Prop :=
  (Breaks source [edit] ∧ ∀ other ∈ before, ¬ Breaks source [other]) ∨
    ((∀ other ∈ before ++ edit :: after, ¬ Breaks source [other]) ∧
      Breaks source (before ++ [edit]) ∧
      ∀ first, first <+: before → first ≠ [] → ¬ Breaks source first)

variable {source text : Text} {edits part : List TextEdit}

/-- A selection from edits that can be applied breaks a text by what it makes of it. -/
theorem breaksWith_iff (applied : applyEdits source edits = .ok text) (chosen : part.Sublist edits) :
    breaksWith source part = true ↔ Breaks source part := by
  obtain ⟨result, made⟩ := applyEdits_of_sublist applied chosen
  unfold breaksWith Breaks
  rw [made]
  constructor
  · intro broken
    exact ⟨result, rfl, broken⟩
  · rintro ⟨other, same, broken⟩
    cases same
    exact broken

/-! ### Prefixes -/

theorem isPrefix_concat_cases {first before : List TextEdit} {edit : TextEdit}
    (opens : first <+: before ++ [edit]) : first <+: before ∨ first = before ++ [edit] := by
  rcases List.prefix_concat_iff.mp opens with whole | shorter
  · exact Or.inr whole
  · exact Or.inl shorter

/-- The search through growing prefixes.  `applied` are the edits in front, none of whose prefixes was
found to break the text. -/
theorem blamePrefix_spec (source : Text) (applied edits : List TextEdit)
    (calm : ∀ first, first <+: applied → first ≠ [] → breaksWith source first = false) :
    (blamePrefix source applied edits = none ∧
        ∀ first, first <+: applied ++ edits → first ≠ [] → breaksWith source first = false) ∨
      ∃ before edit after, edits = before ++ edit :: after ∧
        blamePrefix source applied edits = some edit.id ∧
        breaksWith source (applied ++ before ++ [edit]) = true ∧
        ∀ first, first <+: applied ++ before → first ≠ [] → breaksWith source first = false := by
  induction edits generalizing applied with
  | nil =>
      refine Or.inl ⟨rfl, ?_⟩
      rw [List.append_nil]
      exact calm
  | cons edit edits ih =>
      rw [blamePrefix]
      cases broken : breaksWith source (applied ++ [edit]) with
      | true =>
          refine Or.inr ⟨[], edit, edits, rfl, if_pos rfl, ?_, ?_⟩
          · rw [List.append_nil]
            exact broken
          · rw [List.append_nil]
            exact calm
      | false =>
          have longer : ∀ first, first <+: applied ++ [edit] → first ≠ [] →
              breaksWith source first = false := by
            intro first opens filled
            rcases isPrefix_concat_cases opens with shorter | rfl
            · exact calm first shorter filled
            · exact broken
          rw [if_neg Bool.false_ne_true]
          rcases ih (applied ++ [edit]) longer with
            ⟨none, whole⟩ | ⟨before, last, after, split, found, together, shorter⟩
          · rw [List.append_assoc, List.singleton_append] at whole
            exact Or.inl ⟨none, whole⟩
          · refine Or.inr ⟨edit :: before, last, after, by rw [split]; rfl, found, ?_, ?_⟩
            · rw [List.append_assoc applied, List.singleton_append] at together
              exact together
            · rw [List.append_assoc, List.singleton_append] at shorter
              exact shorter

/-- The whole search: it finds nothing, or the edit that it names breaks the text as it should. -/
theorem blame_spec (source : Text) (edits : List TextEdit) :
    (blame source edits = none ∧ (∀ edit ∈ edits, breaksWith source [edit] = false) ∧
        ∀ first, first <+: edits → first ≠ [] → breaksWith source first = false) ∨
      ∃ before edit after, edits = before ++ edit :: after ∧ blame source edits = some edit.id ∧
        ((breaksWith source [edit] = true ∧ ∀ other ∈ before, breaksWith source [other] = false) ∨
          ((∀ other ∈ edits, breaksWith source [other] = false) ∧
            breaksWith source (before ++ [edit]) = true ∧
            ∀ first, first <+: before → first ≠ [] → breaksWith source first = false)) := by
  unfold blame
  cases found : edits.find? fun edit => breaksWith source [edit] with
  | some edit =>
      obtain ⟨broken, before, after, split, calm⟩ := List.find?_eq_some_iff_append.mp found
      refine Or.inr ⟨before, edit, after, split, rfl, Or.inl ⟨broken, ?_⟩⟩
      intro other member
      simpa using calm other member
  | none =>
      have alone : ∀ edit ∈ edits, breaksWith source [edit] = false := by
        intro edit member
        have missed := List.find?_eq_none.mp found edit member
        rwa [Bool.not_eq_true] at missed
      have nothing : ∀ first, first <+: [] → first ≠ [] → breaksWith source first = false := by
        intro first opens filled
        exact absurd (List.prefix_nil.mp opens) filled
      rcases blamePrefix_spec source [] edits nothing with
        ⟨none, whole⟩ | ⟨before, edit, after, split, named, together, shorter⟩
      · exact Or.inl ⟨none, alone, whole⟩
      · exact Or.inr ⟨before, edit, after, split, named, Or.inr ⟨alone, together, shorter⟩⟩

/-- Nothing is blamed exactly when no edit and no run of first edits breaks the text. -/
theorem blame_eq_none_iff :
    blame source edits = none ↔
      (∀ edit ∈ edits, breaksWith source [edit] = false) ∧
        ∀ first, first <+: edits → first ≠ [] → breaksWith source first = false := by
  rcases blame_spec source edits with
    ⟨none, alone, together⟩ | ⟨before, edit, after, split, named, reason⟩
  · exact ⟨fun _ => ⟨alone, together⟩, fun _ => none⟩
  · rw [named]
    refine ⟨fun impossible => absurd impossible (Option.some_ne_none _), ?_⟩
    rintro ⟨alone, together⟩
    have member : edit ∈ edits := by
      rw [split]
      exact List.mem_append_right before List.mem_cons_self
    have opens : before ++ [edit] <+: edits := ⟨after, by rw [split]; simp⟩
    rcases reason with ⟨broken, _⟩ | ⟨_, broken, _⟩
    · rw [alone edit member] at broken
      cases broken
    · rw [together _ opens (by simp)] at broken
      cases broken

/-- Of edits that can be applied, one is named only if it is to blame for an error in the text. -/
theorem blame_cases (applied : applyEdits source edits = .ok text) :
    (blame source edits = none ∧
        ∀ first, first <+: edits → first ≠ [] → ¬ Breaks source first) ∨
      ∃ before edit after, edits = before ++ edit :: after ∧ blame source edits = some edit.id ∧
        IsToBlame source before edit after := by
  have calm {chosen : List TextEdit} (among : chosen.Sublist edits)
      (reads : breaksWith source chosen = false) : ¬ Breaks source chosen := by
    intro breaking
    rw [(breaksWith_iff applied among).mpr breaking] at reads
    cases reads
  have single {edit : TextEdit} (member : edit ∈ edits) : [edit].Sublist edits :=
    List.singleton_sublist.mpr member
  rcases blame_spec source edits with
    ⟨none, _, together⟩ | ⟨before, edit, after, split, named, reason⟩
  · refine Or.inl ⟨none, ?_⟩
    intro first opens filled
    exact calm opens.sublist (together first opens filled)
  have front : before.Sublist edits := by
    rw [split]
    exact List.sublist_append_left before _
  have here : edit ∈ edits := by
    rw [split]
    exact List.mem_append_right before List.mem_cons_self
  refine Or.inr ⟨before, edit, after, split, named, ?_⟩
  rcases reason with ⟨alone, earlier⟩ | ⟨alone, together, shorter⟩
  · refine Or.inl ⟨(breaksWith_iff applied (single here)).mp alone, ?_⟩
    intro other member
    exact calm (single (front.subset member)) (earlier other member)
  · refine Or.inr ⟨?_, ?_, ?_⟩
    · rw [← split]
      intro other member
      exact calm (single member) (alone other member)
    · have opens : before ++ [edit] <+: edits := ⟨after, by rw [split]; simp⟩
      exact (breaksWith_iff applied opens.sublist).mp together
    · intro first opens nonempty
      exact calm (opens.sublist.trans front) (shorter first opens nonempty)

/-- Edits that were applied and broke the text have one that is to blame. -/
theorem exists_blamed (applied : applyEdits source edits = .ok text) (broken : breaks text = true)
    (filled : edits ≠ []) :
    ∃ before edit after, edits = before ++ edit :: after ∧ blame source edits = some edit.id ∧
      IsToBlame source before edit after := by
  rcases blame_cases applied with ⟨_, calm⟩ | found
  · exact absurd ⟨text, applied, broken⟩ (calm edits (List.prefix_refl edits) filled)
  · exact found

/-! ### From the edit to its point -/

theorem EditPlan.find?_number {first : Nat} {points : List InjectionPoint} {point : InjectionPoint}
    (member : point ∈ number first points) :
    ((number first points).find? fun other => other.id == point.id) = some point := by
  cases found : (number first points).find? fun other => other.id == point.id with
  | none =>
      have missed := List.find?_eq_none.mp found point member
      exact absurd (beq_self_eq_true point.id) missed
  | some other =>
      have matched := List.find?_some found
      have same : other = point := List.inj_on_of_nodup_map (number_id_nodup first points)
        (List.mem_of_find?_eq_some found) member (eq_of_beq matched)
      rw [same]

/-- Every failure of a validation has a real culprit: the verdict keeps the text before the edits and
names a point of the plan whose edit is to blame.  A selection of edits that can be applied can always
be applied, so that no edit is named which is not to blame for an error in the text; and nothing is
named exactly when no edit and no run of first edits breaks the text. -/
theorem validate_blames (formatter : Formatter) :
    (∀ tree path points injection, points ≠ [] →
        inject tree (EditPlan.ofPoints path points) = .ok injection →
        injection.tree.hasErrors = true →
        (validate formatter tree.source (EditPlan.ofPoints path points) injection).success = false ∧
          (validate formatter tree.source (EditPlan.ofPoints path points) injection).text =
            tree.source ∧
          ∃ before edit after point, injection.edits = before ++ edit :: after ∧
            IsToBlame tree.source before edit after ∧
            point ∈ (EditPlan.ofPoints path points).points ∧ point.edit tree = .ok edit ∧
            (validate formatter tree.source (EditPlan.ofPoints path points) injection).culprit =
              some ⟨point.id, point.patternId, point.line⟩) ∧
      (∀ source edits text, applyEdits source edits = .ok text →
        (∀ part, part.Sublist edits → ∃ result, applyEdits source part = .ok result) ∧
          ∀ id, blame source edits = some id →
            ∃ before edit after, edits = before ++ edit :: after ∧ edit.id = id ∧
              IsToBlame source before edit after) ∧
      ∀ source edits,
        blame source edits = none ↔
          (∀ edit ∈ edits, breaksWith source [edit] = false) ∧
            ∀ first, first <+: edits → first ≠ [] → breaksWith source first = false := by
  refine ⟨?_, ?_, fun _ _ => blame_eq_none_iff⟩
  · intro tree path points injection filled injected broken
    obtain ⟨made, applied, read⟩ := inject_eq_ok injected
    have mapped := editsFor_eq_ok made
    have someEdits : injection.edits ≠ [] := by
      intro empty
      cases points with
      | nil => exact filled rfl
      | cons point points =>
          obtain ⟨first, rest, _, _, same⟩ := Sequencing.mapM_cons_eq_ok mapped
          rw [empty] at same
          cases same
    rw [read] at broken
    obtain ⟨before, edit, after, split, named, toBlame⟩ := exists_blamed applied broken someEdits
    have present : edit ∈ injection.edits := by
      rw [split]
      exact List.mem_append_right before List.mem_cons_self
    obtain ⟨point, planned, realised⟩ := Sequencing.mem_of_mapM_eq_ok mapped present
    have found := EditPlan.find?_number planned
    rw [← InjectionPoint.edit_id realised] at found
    rw [← read] at broken
    simp only [validate, broken, if_true, true_and]
    refine ⟨before, edit, after, point, split, toBlame, planned, realised, ?_⟩
    rw [named, Option.bind_some]
    change Option.map _ ((EditPlan.number 0 points).find? fun other => other.id == edit.id) = _
    rw [found, Option.map_some, InjectionPoint.edit_id realised]
  · intro source edits text applied
    refine ⟨fun part chosen => applyEdits_of_sublist applied chosen, ?_⟩
    intro id named
    rcases blame_cases applied with ⟨none, _⟩ | ⟨before, edit, after, split, found, toBlame⟩
    · rw [none] at named
      cases named
    · rw [found, Option.some.injEq] at named
      exact ⟨before, edit, after, split, named, toBlame⟩

def importTree : SyntaxTree :=
  SyntaxTree.parse "import os\n".toList

def unclosedPoints : List InjectionPoint :=
  [{ anchor := ⟨"import_statement", [0]⟩, kind := .insertImport, payload := "import acme"
     patternId := "p", line := 1 },
   { anchor := ⟨"import_statement", [0]⟩, kind := .insertAfter, payload := "acme.setup("
     patternId := "q", line := 1 }]

def unclosedEdits : List TextEdit :=
  [.insert 0 9 "\nimport acme".toList 0, .insert 1 9 "\n\nacme.setup(".toList 1]

theorem validate_blames_unclosed :
    ∃ injection, inject importTree (EditPlan.ofPoints "app.py" unclosedPoints) = .ok injection ∧
      injection.tree.hasErrors = true ∧
      ∃ point ∈ (EditPlan.ofPoints "app.py" unclosedPoints).points,
        (validate Formatter.identity importTree.source (EditPlan.ofPoints "app.py" unclosedPoints)
          injection).culprit = some ⟨point.id, point.patternId, point.line⟩ := by
  have made : editsFor importTree (EditPlan.ofPoints "app.py" unclosedPoints) = .ok unclosedEdits :=
    Sequencing.eq_ok_of_toOption (by decide +kernel)
  have order : TextEdit.ordered unclosedEdits = unclosedEdits :=
    List.mergeSort_of_pairwise (by decide +kernel)
  have applied : applyEdits importTree.source unclosedEdits =
      .ok "import os\nimport acme\n\nacme.setup(\n".toList := by
    refine applyEdits_eq_ok_iff.mpr ⟨by decide +kernel, ?_, ?_⟩
    · rw [order]
      decide +kernel
    · rw [order]
      decide +kernel
  have broken : breaks "import os\nimport acme\n\nacme.setup(\n".toList = true := by
    decide +kernel
  obtain ⟨injection, injected, written⟩ := inject_of_applied made applied
  have hasErrors : injection.tree.hasErrors = true := by
    rw [(inject_eq_ok injected).2.2, written]
    exact broken
  refine ⟨injection, injected, hasErrors, ?_⟩
  obtain ⟨_, _, _, _, _, point, _, _, planned, _, named⟩ :=
    (validate_blames Formatter.identity).1 importTree "app.py" unclosedPoints injection
      (List.cons_ne_nil _ _) injected hasErrors
  exact ⟨point, planned, named⟩

end AgentProbe
