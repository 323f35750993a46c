import Mathlib.Data.List.Nodup
import AgentProbe.Proofs.Files.Order
import AgentProbe.Proofs.Files.Placement

set_option autoImplicit false

/-!
A scan lists every file once.

The names in a directory are distinct, so a walk comes to no location twice; and a path tells the
location that it was written for by its steps.
-/

namespace AgentProbe

/-! ### The steps of written paths -/

namespace Path

/-- The steps of a path that ends in a slash and a name are those in front of it and the name. -/
theorem steps_of_slash {path : Path} {before : Text} {word : String} (proper : isName word = true)
    (written : path.text.toList = before ++ '/' :: word.toList) :
    path.steps = (if path.isAbsolute then [Step.root]
        else if (Text.splitOn '/' before).head? == some ['.'] then [Step.here] else []) ++
      ((Text.splitOn '/' before).map Step.ofPiece).filter (· != .here) ++ [.name word] := by
  have step : Step.ofPiece word.toList = .name word := by
    simp only [isName, Bool.and_eq_true, beq_iff_eq] at proper
    exact proper.2
  have pieces : Text.splitOn '/' path.text.toList = Text.splitOn '/' before ++ [word.toList] := by
    rw [written, ← splitOn_name proper]
    exact Text.splitBy_append (by simp) before word.toList
  have first : (Text.splitOn '/' before ++ [word.toList]).head? = (Text.splitOn '/' before).head? :=
    List.head?_append_of_ne_nil _ (Text.splitBy_ne_nil _ before)
  have named : ([Step.name word].filter (· != .here)) = [.name word] := rfl
  simp only [steps, pieces, first, List.map_append, List.filter_append, List.map_singleton, step,
    named, List.append_assoc]

theorem steps_join {path : Path} {word : String} (filled : path.text.isEmpty = false)
    (proper : isName word = true) : (path.join word).steps = path.steps ++ [.name word] := by
  have absolute := (isAbsolute_join filled proper).1
  rcases toList_join filled proper with ⟨before, closed, written⟩ | written
  · -- The closing slash opens an empty piece, which is no step.
    have pieces : Text.splitOn '/' path.text.toList = Text.splitOn '/' before ++ [[]] := by
      rw [closed]
      exact Text.splitBy_append (by simp) before []
    have first : (Text.splitOn '/' before ++ [[]]).head? = (Text.splitOn '/' before).head? :=
      List.head?_append_of_ne_nil _ (Text.splitBy_ne_nil _ before)
    have empty : ([Step.ofPiece []].filter (· != .here)) = [] := rfl
    rw [steps_of_slash proper written, absolute]
    simp only [steps, pieces, first, List.map_append, List.filter_append, List.map_singleton, empty,
      List.append_nil]
  · rw [steps_of_slash proper written, absolute]
    rfl

theorem steps_joinAll {path : Path} {names : List String} (filled : path.text.isEmpty = false)
    (proper : ∀ name ∈ names, isName name = true) :
    (path.joinAll names).steps = path.steps ++ names.map .name := by
  induction names generalizing path with
  | nil =>
      rw [List.map_nil, List.append_nil]
      rfl
  | cons name names ih =>
      have here := proper name List.mem_cons_self
      have later := ih (isAbsolute_join filled here).2 fun other member =>
        proper other (List.mem_cons_of_mem name member)
      rw [steps_join filled here, List.append_assoc] at later
      exact later

end Path

/-! ### Walks -/

namespace Entry

mutual

theorem walk_nodup (excluded : Location → Bool) (place : Location) :
    (entry : Entry) → entry.isProper = true → (entry.walk excluded place).Nodup
  | .file _ _, _ => by
      rw [walk]
      exact List.nodup_singleton place
  | .link _, _ => by
      rw [walk]
      exact List.nodup_nil
  | .directory entries, proper => by
      rw [walk]
      rw [isProper, Bool.and_eq_true, decide_eq_true_eq] at proper
      exact walkAll_nodup excluded place entries proper.1 proper.2

theorem walkAll_nodup (excluded : Location → Bool) (place : Location) :
    (entries : List (String × Entry)) → (entries.map Prod.fst).Nodup → areProper entries = true →
      (walkAll excluded place entries).Nodup
  | [], _, _ => by
      rw [walkAll]
      exact List.nodup_nil
  | (name, entry) :: entries, distinct, proper => by
      rw [List.map_cons, List.nodup_cons] at distinct
      rw [areProper, Bool.and_eq_true, Bool.and_eq_true] at proper
      rw [walkAll]
      have later := walkAll_nodup excluded place entries distinct.2 proper.2
      split
      · exact later
      · refine List.Nodup.append (walk_nodup excluded (place ++ [name]) entry proper.1.2) later ?_
        -- What lies below the first entry starts with its name, which no other entry has.
        intro location here there
        obtain ⟨names, first, _⟩ :=
          mem_walk excluded (place ++ [name]) entry proper.1.2 location here
        obtain ⟨other, inner, rest, inside, second, _⟩ :=
          mem_walkAll excluded place entries proper.2 location there
        rw [first, List.append_assoc] at second
        have same := List.append_cancel_left second
        rw [List.singleton_append, List.cons.injEq] at same
        refine distinct.1 (List.mem_map.mpr ⟨(other, inner), inside, ?_⟩)
        exact same.1.symm

end

end Entry

theorem Disk.steps_pythonFiles_nodup {disk : Disk} (proper : disk.top.isProper = true)
    (excluded : Location → Bool) (root : Path) :
    ((disk.pythonFiles excluded root).map Path.steps).Nodup := by
  unfold pythonFiles
  cases opened : disk.entry root with
  | error fault => exact List.nodup_nil
  | ok entry =>
      obtain ⟨base, located, found⟩ := entry_eq_ok opened
      have filled := (text_of_locate located).1
      have whole := Entry.isProper_get? proper found
      have sorts := (Path.sorted_perm
        (((entry.walk excluded []).filter isPythonName).map root.joinAll)).map Path.steps
      refine sorts.nodup_iff.mpr ?_
      rw [List.map_map]
      refine List.Nodup.map_on ?_ ((entry.walk_nodup excluded [] whole).filter isPythonName)
      intro left inLeft right inRight same
      obtain ⟨lefts, rfl, _, leftNamed⟩ :=
        Entry.mem_walk excluded [] entry whole left (List.mem_of_mem_filter inLeft)
      obtain ⟨rights, rfl, _, rightNamed⟩ :=
        Entry.mem_walk excluded [] entry whole right (List.mem_of_mem_filter inRight)
      change (root.joinAll left).steps = (root.joinAll right).steps at same
      rw [Path.steps_joinAll filled leftNamed, Path.steps_joinAll filled rightNamed] at same
      have words := List.append_cancel_left same
      rw [List.map_injective_iff.mpr (fun _ _ step => Path.Step.name.inj step) words]

end AgentProbe
