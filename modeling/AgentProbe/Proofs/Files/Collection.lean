import AgentProbe.Proofs.Files.Listing

set_option autoImplicit false

/-!
What a scan collects.

The files of a walk are told apart by the steps of their paths, and sorting by these steps leaves no
two alike.  What is left of the walk are the files with the extension of Python.
-/

namespace AgentProbe

/-! ### The paths of the files -/

namespace Path

theorem extension_joinAll {path : Path} {names : List String} (filled : path.text.isEmpty = false)
    (proper : ∀ name ∈ names, isName name = true) (below : names ≠ []) :
    (path.joinAll names).extension = names.getLast?.bind extensionOf := by
  have last : (path.joinAll names).steps.getLast? = names.getLast?.map Step.name := by
    rw [steps_joinAll filled proper, List.getLast?_append_of_ne_nil _ (by simpa using below),
      List.getLast?_map]
  rw [extension, fileName, last]
  cases names.getLast? with
  | none => rfl
  | some name => rfl

theorem compareSteps_eq_lt {left right : Path} (low : left.le right = true)
    (unlike : left.steps ≠ right.steps) : compareSteps left.steps right.steps = .lt := by
  rw [le, bne_iff_ne] at low
  cases order : compareSteps left.steps right.steps with
  | lt => rfl
  | eq =>
      rw [compareSteps_eq_lex] at order
      exact absurd (Std.LawfulEqCmp.eq_of_compare order) unlike
  | gt => exact absurd order low

end Path

theorem isPythonName_iff {location : Location} :
    isPythonName location = true ↔ location.getLast?.bind Path.extensionOf = some "py" := by
  unfold isPythonName
  cases location.getLast? with
  | none =>
      constructor
      · intro impossible
        cases impossible
      · intro impossible
        cases impossible
  | some name => exact beq_iff_eq

namespace Disk

/-- The files that are collected below a directory come in the order of their paths, none twice, and
they are the regular files with the extension of Python for which no non-empty beginning of the path
below the root is excluded.  Links are neither reported nor followed, and what `excluded` says of the
root itself does not matter.  An entry that does not show itself, for example in a directory that
cannot be listed, is passed over like an excluded one. -/
theorem pythonFiles_collects {disk : Disk} {root : Path} {entries : List (String × Entry)}
    (proper : disk.top.isProper = true) (opened : disk.entry root = .ok (.directory entries))
    (excluded : Location → Bool) :
    (disk.pythonFiles excluded root).Pairwise
        (fun left right => Path.compareSteps left.steps right.steps = .lt) ∧
      ∀ path, path ∈ disk.pythonFiles excluded root ↔
        ∃ names, path = root.joinAll names ∧
          (∃ mode content, (Entry.directory entries).get? names = some (.file mode content)) ∧
          path.extension = some "py" ∧
          ∀ front, front ≠ [] → front <+: names → excluded front = false := by
  obtain ⟨base, located, found⟩ := entry_eq_ok opened
  have filled := (text_of_locate located).1
  have whole := Entry.isProper_get? proper found
  have listed : disk.pythonFiles excluded root = Path.sorted
      ((((Entry.directory entries).walk excluded []).filter isPythonName).map root.joinAll) := by
    rw [pythonFiles, opened]
  constructor
  · have distinct := steps_pythonFiles_nodup proper excluded root
    rw [List.Nodup, List.pairwise_map] at distinct
    have ordered : (disk.pythonFiles excluded root).Pairwise fun left right =>
        left.le right = true := by
      rw [listed]
      exact Path.sorted_ordered _
    exact (ordered.and distinct).imp fun both => Path.compareSteps_eq_lt both.1 both.2
  · intro path
    rw [listed, (Path.sorted_perm _).mem_iff, List.mem_map]
    constructor
    · rintro ⟨names, chosen, rfl⟩
      obtain ⟨walked, python⟩ := List.mem_filter.mp chosen
      obtain ⟨_, rfl, file, spared⟩ :=
        (Entry.mem_walk_iff excluded [] (.directory entries) whole names).mp walked
      refine ⟨_, rfl, file, ?_, spared⟩
      have below : names ≠ [] := by
        rintro rfl
        cases python
      rw [Path.extension_joinAll filled (file.isName whole) below]
      exact isPythonName_iff.mp python
    · rintro ⟨names, rfl, file, python, spared⟩
      have named := Entry.HasFile.isName file whole
      have below : names ≠ [] := by
        rintro rfl
        obtain ⟨_, _, file⟩ := file
        cases file
      rw [Path.extension_joinAll filled named below] at python
      refine ⟨names, List.mem_filter.mpr ⟨?_, isPythonName_iff.mpr python⟩, rfl⟩
      exact (Entry.mem_walk_iff excluded [] (.directory entries) whole names).mpr
        ⟨names, rfl, file, spared⟩

/-- What lies in a project: a directory that is named like a file, a link to a file in it, a directory
of tests, and a text file. -/
def nestedEntries : List (String × Entry) :=
  [("pkg.py", .directory [("agent.py", .file 0o644 []), ("notes.txt", .file 0o644 [])]),
    ("alias.py", .link ⟨"pkg.py/agent.py"⟩), ("tests", .directory [("agent.py", .file 0o644 [])])]

theorem pythonFiles_collects_nested :
    let disk : Disk := { top := .directory nestedEntries }
    let excluded : Location → Bool := fun names => names == ["tests"]
    disk.top.isProper = true ∧ disk.entry ⟨"."⟩ = .ok (.directory nestedEntries) ∧
      ⟨"./pkg.py/agent.py"⟩ ∈ disk.pythonFiles excluded ⟨"."⟩ ∧
      (⟨"."⟩ : Path).joinAll ["tests", "agent.py"] ∉ disk.pythonFiles excluded ⟨"."⟩ := by
  intro disk excluded
  have proper : disk.top.isProper = true := by decide +kernel
  have opened : disk.entry ⟨"."⟩ = .ok (.directory nestedEntries) := entry_dot nestedEntries
  have collects := (pythonFiles_collects proper opened excluded).2
  refine ⟨proper, opened, ?_, ?_⟩
  · refine (collects _).mpr ⟨["pkg.py", "agent.py"], rfl, ⟨0o644, [], rfl⟩, by decide +kernel, ?_⟩
    intro front filled begins
    refine beq_false_of_ne ?_
    rintro rfl
    exact absurd (List.cons_prefix_cons.mp begins).1 (by decide)
  · intro member
    obtain ⟨names, same, ⟨mode, content, file⟩, _, spared⟩ := (collects _).mp member
    have steps := congrArg Path.steps same
    rw [Path.steps_joinAll rfl (by decide +kernel),
      Path.steps_joinAll rfl (Entry.HasFile.isName ⟨mode, content, file⟩ proper)] at steps
    have words : ["tests", "agent.py"] = names :=
      List.map_injective_iff.mpr (fun _ _ step => Path.Step.name.inj step)
        (List.append_cancel_left steps)
    have kept := spared ["tests"] (List.cons_ne_nil _ _) (words ▸ List.prefix_append _ ["agent.py"])
    exact absurd kept (by decide)

end Disk

end AgentProbe
