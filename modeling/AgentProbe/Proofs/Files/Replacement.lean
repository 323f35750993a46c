import AgentProbe.Files.Commit
import AgentProbe.Proofs.Files.Way

set_option autoImplicit false

/-!
Replacing a file is all or nothing.

A commit goes through a temporary file.  Whatever happens on the way, the file system at the end is
either the one before or the one in which the file has the new content; the temporary file is in
neither.
-/

namespace AgentProbe

namespace Disk

/-! ### The temporary file -/

theorem length_le_longest {name : String} {taken : List String} (member : name ∈ taken) :
    name.length ≤ (taken.map String.length).foldr max 0 := by
  induction taken with
  | nil => cases member
  | cons head taken ih =>
      rw [List.map_cons, List.foldr_cons]
      rcases List.mem_cons.mp member with rfl | later
      · exact Nat.le_max_left _ _
      · exact Nat.le_trans (ih later) (Nat.le_max_right _ _)

theorem freshName_not_mem (taken : List String) : freshName taken ∉ taken := by
  intro member
  have short := length_le_longest member
  simp only [freshName, String.length_append, String.length_ofList, List.length_replicate] at short
  have four : ".tmp".length = 4 := rfl
  omega

def Fresh (disk : Disk) (directory : Location) (name : String) : Prop :=
  ∃ entries, disk.top.get? directory = some (.directory entries) ∧ name ∉ entries.map Prod.fst

namespace Fresh

variable {disk : Disk} {directory : Location} {name : String}

theorem viewAt_eq_none (fresh : disk.Fresh directory name) (rest : Location) :
    disk.top.viewAt (directory ++ name :: rest) = none := by
  obtain ⟨entries, found, unused⟩ := fresh
  have absent : entries.lookup name = none := by
    refine List.lookup_eq_none_iff.mpr ?_
    intro entry member
    refine bne_iff_ne.mpr ?_
    rintro rfl
    exact unused (List.mem_map.mpr ⟨entry, member, rfl⟩)
  rw [Entry.viewAt, Entry.get?_append, found, Option.bind_some]
  change ((entries.lookup name).bind (Entry.get? rest)).map Entry.view = none
  rw [absent]
  rfl

theorem parent (fresh : disk.Fresh directory name) :
    disk.top.viewAt directory = some .directory := by
  obtain ⟨entries, found, _⟩ := fresh
  rw [Entry.viewAt, found]
  rfl

theorem keptIn_put (fresh : disk.Fresh directory name) (mode : Nat) (content : Bytes) :
    disk.top.KeptIn (disk.put (directory ++ [name]) (.file mode content)).top := by
  intro location shown outlined
  have elsewhere : location ≠ directory ++ [name] := by
    rintro rfl
    rw [Entry.outlineAt, fresh.viewAt_eq_none []] at outlined
    cases outlined
  rw [Entry.outlineAt] at outlined ⊢
  rw [← outlined]
  exact congrArg (Option.map View.outline) (Entry.viewAt_put mode content fresh.parent
    (fun step rest => fresh.viewAt_eq_none (step :: rest)) elsewhere)

theorem erase_put (fresh : disk.Fresh directory name) (entry : Entry) :
    (disk.put (directory ++ [name]) entry).erase (directory ++ [name]) = disk := by
  obtain ⟨entries, found, unused⟩ := fresh
  simp only [put, erase, Entry.erase_put entry found unused]

end Fresh

theorem stage_eq_put (disk : Disk) (temporary : Location) (path : Path) (content : Bytes) :
    ∃ mode, disk.stage temporary path content = disk.put temporary (.file mode content) := by
  simp only [stage]
  split
  · rename_i mode old found
    refine ⟨mode, ?_⟩
    simp only [put, Entry.put_put]
  · exact ⟨0o600, rfl⟩

theorem list_eq_ok {disk : Disk} {path : Path} {names : List String} {location : Location}
    (listed : disk.list path = .ok names) (located : disk.locate true path = .ok location) :
    ∃ entries, disk.top.get? location = some (.directory entries) ∧
      names = entries.map Prod.fst := by
  obtain ⟨entry, opened, shown⟩ := Sequencing.bind_eq_ok.mp listed
  obtain ⟨other, same, found⟩ := entry_eq_ok opened
  rw [located] at same
  cases same
  cases entry with
  | file mode content => cases shown
  | link target => cases shown
  | directory entries =>
      cases shown
      exact ⟨entries, found, rfl⟩

theorem locate_of_keptIn {disk other : Disk} {last : Bool} {path : Path} {location : Location}
    (located : disk.locate last path = .ok location) (here : other.here = disk.here)
    (kept : disk.top.KeptIn other.top) : other.locate last path = .ok location := by
  obtain ⟨filled, links, within, way⟩ := locate_eq_ok_iff.mp located
  rw [← here] at way
  exact locate_eq_ok_iff.mpr ⟨filled, links, within, way.keptIn kept⟩

/-! ### The commit -/

section Commit

variable (refusals : Refusals) {disk : Disk} {path : Path}

theorem commitUnder_unlocated {fault : FileFault}
    (parent : disk.locate true path.directory = .error fault) (expected : String)
    (content : Bytes) :
    disk.commitUnder refusals path expected content =
      (.error (.noTemporary fault (path.directory.join (freshName path.fileName.toList))), disk) := by
  simp only [commitUnder, parent]

theorem commitUnder_unlisted {fault : FileFault} {directory : Location}
    (parent : disk.locate true path.directory = .ok directory)
    (unlisted : disk.list path.directory = .error fault) (expected : String) (content : Bytes) :
    disk.commitUnder refusals path expected content =
      (.error (.noTemporary fault (path.directory.join (freshName path.fileName.toList))), disk) := by
  simp only [commitUnder, parent, unlisted]

/-- A commit whose directory can be listed: the steps in their order, each with the error that ends
the commit if it is refused.  The temporary file is gone wherever the commit ends. -/
theorem commitUnder_listed {directory : Location} {names : List String}
    (parent : disk.locate true path.directory = .ok directory)
    (listed : disk.list path.directory = .ok names) (expected : String) (content : Bytes) :
    ∃ name mode, name = freshName (disk.wayTexts path ++ names) ∧ disk.Fresh directory name ∧
      disk.stage (directory ++ [name]) path content =
        disk.put (directory ++ [name]) (.file mode content) ∧
      disk.commitUnder refusals path expected content =
        (unlessRefused (refusals .create) (.noTemporary · (path.directory.join name)) disk <|
        unlessRefused (refusals .write) (.noTemporary · (path.directory.join name)) disk <|
        unlessRefused (refusals .sync) .io disk <|
        unlessRefused (if (disk.put (directory ++ [name]) (.file 0o600 content)).contains path
          then refusals .permit else none) .io disk <|
        unlessRefused (refusals .read) .io disk <|
        (disk.put (directory ++ [name]) (.file mode content)).exchange refusals
          (directory ++ [name]) path expected) := by
  obtain ⟨entries, found, named⟩ := list_eq_ok listed parent
  generalize chosen : freshName (disk.wayTexts path ++ names) = name
  have fresh : disk.Fresh directory name := by
    refine ⟨entries, found, ?_⟩
    intro member
    refine freshName_not_mem (disk.wayTexts path ++ names) ?_
    rw [chosen, named]
    exact List.mem_append_right _ member
  obtain ⟨mode, staged⟩ := disk.stage_eq_put (directory ++ [name]) path content
  refine ⟨name, mode, rfl, fresh, staged, ?_⟩
  simp only [commitUnder, parent, listed, chosen, staged, fresh.erase_put]

/-- The temporary file becomes the file, once it is decided that it shall. -/
theorem persist_put {directory place : Location} {name : String} (fresh : disk.Fresh directory name)
    (located : disk.locate false path = .ok place) (mode : Nat) (content : Bytes) :
    (disk.put (directory ++ [name]) (.file mode content)).persist (directory ++ [name]) path =
      .ok (disk.put place (.file mode content)) := by
  have still : (disk.put (directory ++ [name]) (.file mode content)).locate false path = .ok place :=
    locate_of_keptIn located rfl (fresh.keptIn_put mode content)
  have moved : (disk.put (directory ++ [name]) (.file mode content)).top.get? (directory ++ [name]) =
      some (.file mode content) :=
    Entry.get?_put (.file mode content) fresh.parent
  simp only [persist, still, moved, fresh.erase_put]
  rfl

/-- The exchange is decided by what is read beside the temporary file. -/
theorem exchange_put {directory place : Location} {name : String} (fresh : disk.Fresh directory name)
    (located : disk.locate false path = .ok place) (expected : String) (mode : Nat)
    (content : Bytes) :
    (disk.put (directory ++ [name]) (.file mode content)).exchange refusals (directory ++ [name])
        path expected =
      match (disk.put (directory ++ [name]) (.file mode content)).read path with
      | .error fault => (.error (.io fault), disk)
      | .ok current =>
        if Digest.ofBytes current != expected then (.error (.changedOnDisk path), disk)
        else unlessRefused (refusals .rename) .io disk
          (.ok (), disk.put place (.file mode content)) := by
  cases reading : (disk.put (directory ++ [name]) (.file mode content)).read path with
  | error fault => simp only [exchange, reading, fresh.erase_put]
  | ok current => simp only [exchange, reading, fresh.erase_put, persist_put fresh located]

/-- A commit that nothing refuses, whose directory can be listed, writes a temporary file and compares
what it then reads; with that, it is decided. -/
theorem commit_listed {place directory : Location} {names : List String}
    (located : disk.locate false path = .ok place)
    (parent : disk.locate true path.directory = .ok directory)
    (listed : disk.list path.directory = .ok names) (expected : String) (content : Bytes) :
    ∃ name mode, disk.Fresh directory name ∧ disk.commit path expected content =
      match (disk.put (directory ++ [name]) (.file mode content)).read path with
      | .error fault => (.error (.io fault), disk)
      | .ok current =>
        if Digest.ofBytes current != expected then (.error (.changedOnDisk path), disk)
        else (.ok (), disk.put place (.file mode content)) := by
  obtain ⟨name, mode, _, fresh, _, decided⟩ := commitUnder_listed _ parent listed expected content
  refine ⟨name, mode, fresh, decided.trans ?_⟩
  simp only [unlessRefused, ite_self]
  exact exchange_put _ fresh located expected mode content

/-- Either nothing has changed, or the place of the file holds the new content. -/
theorem commit_cases {place : Location}
    (located : disk.locate false path = .ok place) (expected : String) (content : Bytes) :
    (∃ error, disk.commit path expected content = (.error error, disk)) ∨
      ∃ mode, disk.commit path expected content = (.ok (), disk.put place (.file mode content)) := by
  cases parent : disk.locate true path.directory with
  | error fault => exact Or.inl ⟨_, commitUnder_unlocated _ parent expected content⟩
  | ok directory =>
      cases listed : disk.list path.directory with
      | error fault => exact Or.inl ⟨_, commitUnder_unlisted _ parent listed expected content⟩
      | ok names =>
          obtain ⟨name, mode, _, decided⟩ := commit_listed located parent listed expected content
          rw [decided]
          split
          · exact Or.inl ⟨_, rfl⟩
          · split
            · exact Or.inl ⟨_, rfl⟩
            · exact Or.inr ⟨mode, rfl⟩

end Commit

end Disk

end AgentProbe
