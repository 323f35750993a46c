import Mathlib.Data.String.Basic
import AgentProbe.Data.Keyed

set_option autoImplicit false

/-!
What putting in an entry does to entries in the order of their keys.

A lookup under the new key finds the new value exactly if there was none before, and every other
lookup finds what it found.  For that the keys have to be in strict order, which insertion keeps.
-/

namespace AgentProbe.Keyed

variable {α : Type}

def IsOrdered (entries : List (String × α)) : Prop :=
  entries.Pairwise fun left right => left.1 < right.1

theorem mem_keys_insert (key : String) (value : α) (other : String) (entries : List (String × α)) :
    other ∈ (insert key value entries).map Prod.fst ↔ other = key ∨ other ∈ entries.map Prod.fst := by
  induction entries with
  | nil => simp [insert]
  | cons head entries ih =>
      rw [insert]
      by_cases known : head.1 = key
      · rw [if_pos (beq_iff_eq.mpr known), List.map_cons, List.mem_cons, known]
        exact or_self_left.symm
      · rw [if_neg (mt beq_iff_eq.mp known)]
        split
        · rw [List.map_cons, List.mem_cons]
        · rw [List.map_cons, List.mem_cons, ih, List.map_cons, List.mem_cons]
          exact or_left_comm

theorem mem_of_mem_insert {key : String} {value : α} {entry : String × α}
    {entries : List (String × α)} (member : entry ∈ insert key value entries) :
    entry = (key, value) ∨ entry ∈ entries := by
  induction entries with
  | nil => exact Or.inl (List.mem_singleton.mp member)
  | cons head entries ih =>
      rw [insert] at member
      split at member
      · exact Or.inr member
      · split at member
        · exact List.mem_cons.mp member
        · rcases List.mem_cons.mp member with same | later
          · exact Or.inr (same ▸ List.mem_cons_self)
          · exact (ih later).imp_right (List.mem_cons_of_mem head)

theorem IsOrdered.insert {entries : List (String × α)} (ordered : IsOrdered entries) (key : String)
    (value : α) : IsOrdered (Keyed.insert key value entries) := by
  induction entries with
  | nil => exact List.pairwise_singleton _ _
  | cons head entries ih =>
      obtain ⟨first, rest⟩ := List.pairwise_cons.mp ordered
      rw [Keyed.insert]
      split
      · exact ordered
      · rename_i unknown
        rw [beq_iff_eq] at unknown
        split
        · rename_i early
          apply List.Pairwise.cons _ ordered
          intro entry member
          rcases List.mem_cons.mp member with same | later
          · exact same ▸ early
          · exact early.trans (first entry later)
        · rename_i late
          apply List.Pairwise.cons _ (ih rest)
          intro entry member
          rcases mem_of_mem_insert member with same | old
          · rw [same]
            exact lt_of_le_of_ne (not_lt.mp late) unknown
          · exact first entry old

theorem lookup_eq_none_of_lt {key : String} {entries : List (String × α)}
    (early : ∀ entry ∈ entries, key < entry.1) : entries.lookup key = none := by
  rw [List.lookup_eq_none_iff]
  intro entry member
  exact bne_iff_ne.mpr (early entry member).ne

theorem lookup_insert {entries : List (String × α)} (ordered : IsOrdered entries) (key : String)
    (value : α) (other : String) :
    (insert key value entries).lookup other =
      (entries.lookup other).or (if other = key then some value else none) := by
  induction entries with
  | nil =>
      by_cases same : other = key
      · simp [insert, same]
      · simp [insert, same, List.lookup_cons, beq_false_of_ne same]
  | cons head entries ih =>
      obtain ⟨first, rest⟩ := List.pairwise_cons.mp ordered
      obtain ⟨name, old⟩ := head
      rw [insert]
      split
      · rename_i known
        rw [beq_iff_eq] at known
        by_cases same : other = key
        · rw [same, ← known, List.lookup_cons_self]
          rfl
        · rw [if_neg same, Option.or_none]
      · rename_i unknown
        rw [beq_iff_eq] at unknown
        split
        · rename_i early
          by_cases same : other = key
          · have absent : ((name, old) :: entries).lookup key = none := by
              apply lookup_eq_none_of_lt
              intro entry member
              rcases List.mem_cons.mp member with here | later
              · exact here ▸ early
              · exact early.trans (first entry later)
            rw [same, absent, List.lookup_cons_self, if_pos rfl]
            rfl
          · rw [if_neg same, Option.or_none, List.lookup_cons, beq_false_of_ne same]
        · rw [List.lookup_cons, List.lookup_cons, ih rest]
          split
          · rfl
          · rfl

theorem length_insert {key : String} {entries : List (String × α)}
    (free : entries.lookup key = none) (value : α) :
    (insert key value entries).length = entries.length + 1 := by
  induction entries with
  | nil => rfl
  | cons head entries ih =>
      rw [List.lookup_eq_none_iff] at free
      have unknown : ¬ (head.1 == key) = true := by
        have differ := free head List.mem_cons_self
        rw [bne_iff_ne] at differ
        rw [beq_iff_eq]
        exact differ.symm
      rw [insert, if_neg unknown]
      split
      · rfl
      · have later := ih (List.lookup_eq_none_iff.mpr fun entry member =>
          free entry (List.mem_cons_of_mem head member))
        rw [List.length_cons, later, List.length_cons]

end AgentProbe.Keyed
