import Mathlib.Data.List.Chain
import Mathlib.Data.List.Nodup
import Mathlib.Data.Prod.Lex
import AgentProbe.Proofs.Edit.Selection

set_option autoImplicit false

/-!
Applying edits is splicing.

The edits change a text in place and from its end backwards, with offsets of the text before any edit.
This works because an edit leaves everything in front of its span as it was: when its turn comes, an
edit still finds its span where it was.  The outcome is the text that is put together from left to
right, and with distinct ids the order in which the edits are given does not matter.
-/

namespace AgentProbe

/-- The text from an offset on, with edits put in from left to right. -/
def splice (source : Text) (offset : Nat) : List TextEdit → Text
  | [] => Text.since source offset
  | edit :: edits =>
    Text.slice source offset edit.start ++ edit.replacement ++ splice source edit.stop edits

theorem Woven.eq_splice {source rest output : Text} {offset : Nat} {edits : List TextEdit}
    (woven : Woven rest offset edits output) (before : Text) (split : source = before ++ rest)
    (place : Text.bytes before = offset) : output = splice source offset edits := by
  induction woven generalizing before with
  | nil rest offset => rw [splice, split, ← place, Text.since_append]
  | cons kept old rest output offset edit edits starts stops tail ih =>
      have later : output = splice source edit.stop edits := by
        apply ih (before ++ kept ++ old)
        · simp only [split, List.append_assoc]
        · rw [Text.bytes_append, Text.bytes_append, place, stops, starts]
      have between : Text.slice source offset edit.start = kept := by
        rw [split, starts, ← place, Text.slice_append]
      rw [splice, between, ← later, List.append_assoc]

namespace TextEdit

/-! ### The order of edits -/

def key (edit : TextEdit) : Nat ×ₗ Nat ×ₗ Nat :=
  toLex (edit.start, toLex (edit.rank, edit.id))

theorem precedes_iff_key {left right : TextEdit} :
    left.precedes right = true ↔ left.key ≤ right.key := by
  simp only [key, Prod.Lex.toLex_le_toLex, precedes_iff]

theorem ordered_sorted (edits : List TextEdit) :
    (ordered edits).Pairwise fun left right => left.key ≤ right.key := by
  have sorted := List.pairwise_mergeSort precedes_trans precedes_total edits
  exact sorted.imp fun early => precedes_iff_key.mp early

theorem ordered_eq_of_perm {edits others : List TextEdit} (distinct : (edits.map id).Nodup)
    (shuffled : others.Perm edits) : ordered others = ordered edits := by
  have sameEdits : (ordered others).Perm (ordered edits) :=
    (List.mergeSort_perm others precedes).trans
      (shuffled.trans (List.mergeSort_perm edits precedes).symm)
  apply List.Perm.eq_of_pairwise _ (ordered_sorted others) (ordered_sorted edits) sameEdits
  intro left right leftMember rightMember early late
  -- Edits with the same key have the same id, and only one edit has it.
  have sameId : left.id = right.id := by
    have same := congrArg (fun key => (ofLex (ofLex key).2).2) (le_antisymm early late)
    exact same
  have leftListed : left ∈ edits := shuffled.subset (mem_ordered.mp leftMember)
  exact List.inj_on_of_nodup_map distinct leftListed (mem_ordered.mp rightMember) sameId

theorem overlap?_eq_none_iff_isChain {edits : List TextEdit} :
    overlap? edits = none ↔ edits.IsChain fun left right => left.stop ≤ right.start := by
  induction edits with
  | nil => exact ⟨fun _ => .nil, fun _ => rfl⟩
  | cons first edits ih =>
      cases edits with
      | nil => exact ⟨fun _ => .singleton first, fun _ => rfl⟩
      | cons second rest =>
          rw [overlap?, List.isChain_cons_cons]
          by_cases apart : first.stop ≤ second.start
          · rw [if_neg (Nat.not_lt.mpr apart), ih]
            exact (and_iff_right apart).symm
          · rw [if_pos (Nat.lt_of_not_le apart)]
            constructor
            · intro impossible
              cases impossible
            · intro both
              exact absurd both.1 apart

/-! ### One step of the loop -/

/-- The edits behind an edit leave its span where it was. -/
theorem fits_edited {source : Text} {edit : TextEdit} {behind : List TextEdit}
    (fit : ∀ other ∈ edit :: behind, other.fits source = true)
    (apart : overlap? (edit :: behind) = none) :
    edit.fits (behind.foldr (fun other text => other.apply text) source) = true := by
  obtain ⟨front, old, after, cutting, startAt, stopAt⟩ := fits_split (fit edit List.mem_cons_self)
  obtain ⟨next, apartBehind⟩ := overlap?_cons apart
  have stopSize : Text.bytes (front ++ old) = edit.stop := by
    rw [Text.bytes_append, startAt, stopAt]
  obtain ⟨output, _, folded⟩ := foldr_apply_woven source behind (front ++ old) after
    (by rw [cutting, List.append_assoc])
    (fun other member => fit other (List.mem_cons_of_mem edit member)) apartBehind
    (by rw [stopSize]; exact next)
  rw [folded, fits_iff]
  refine ⟨by omega, ?_, ?_, ?_⟩
  · rw [Text.bytes_append, stopSize]
    exact Nat.le_add_right _ _
  · rw [Text.isBoundary_iff]
    exact ⟨front, old ++ output, List.append_assoc _ _ _, startAt⟩
  · rw [Text.isBoundary_iff]
    exact ⟨front ++ old, output, rfl, stopSize⟩

end TextEdit

/-- Edits are accepted exactly if every span delimits a piece of the text and no two neighbours in the
order of start, rank and id overlap.  Accepted edits find their spans in range when their turn comes,
and they give the text that is spliced from left to right.  With distinct ids, neither the text nor
an error depends on how the edits were listed. -/
theorem applyEdits_splices (source : Text) (edits : List TextEdit) :
    ((TextEdit.ordered edits).Perm edits ∧
        (TextEdit.ordered edits).Pairwise fun left right => left.key ≤ right.key) ∧
      ((∃ text, applyEdits source edits = .ok text) ↔
        (∀ edit ∈ edits, edit.start ≤ edit.stop ∧ edit.stop ≤ Text.bytes source ∧
          Text.isBoundary source edit.start = true ∧ Text.isBoundary source edit.stop = true) ∧
        (TextEdit.ordered edits).IsChain fun left right => left.stop ≤ right.start) ∧
      (∀ text, applyEdits source edits = .ok text →
        text = splice source 0 (TextEdit.ordered edits) ∧
        ∀ ahead edit behind, TextEdit.ordered edits = ahead ++ edit :: behind →
          edit.fits (behind.foldr (fun other text => other.apply text) source) = true) ∧
      ((edits.map TextEdit.id).Nodup → ∀ others : List TextEdit, others.Perm edits →
        applyEdits source others = applyEdits source edits) := by
  refine ⟨⟨List.mergeSort_perm edits _, TextEdit.ordered_sorted edits⟩, ?_, ?_, ?_⟩
  · simp only [applyEdits_eq_ok_iff, TextEdit.fits_iff, TextEdit.overlap?_eq_none_iff_isChain]
    constructor
    · rintro ⟨_, fit, apart, _⟩
      exact ⟨fit, apart⟩
    · rintro ⟨fit, apart⟩
      exact ⟨_, fit, apart, rfl⟩
  · intro text applied
    constructor
    · exact (applyEdits_woven applied).eq_splice [] rfl rfl
    · intro ahead edit behind listed
      obtain ⟨fit, apart, _⟩ := applyEdits_eq_ok_iff.mp applied
      apply TextEdit.fits_edited
      · intro other member
        apply fit
        rw [← TextEdit.mem_ordered, listed]
        exact List.mem_append_right ahead member
      · rw [TextEdit.overlap?_eq_none_iff_isChain, listed] at apart
        exact TextEdit.overlap?_eq_none_iff_isChain.mpr (apart.suffix (List.suffix_append _ _))
  · intro distinct others shuffled
    unfold applyEdits
    rw [TextEdit.ordered_eq_of_perm distinct shuffled]

end AgentProbe
