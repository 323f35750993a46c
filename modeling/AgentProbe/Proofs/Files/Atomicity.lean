import AgentProbe.Proofs.Files.Placement
import AgentProbe.Proofs.Files.Replacement

set_option autoImplicit false

/-!
A commit replaces a file or does nothing, whatever step of it is refused.

While a commit runs, a temporary file stands beside the old one.  No path that led anywhere before
leads to it, since its name occurs neither in the path nor in the target of any link; so what is read
under way is what was there before.  At the end the temporary file is gone, or it has taken the place
of the old file or of the link that led to it.
-/

namespace AgentProbe

/-! ### The targets of links -/

namespace Entry

mutual

theorem mem_linkTargets : (top : Entry) → (place : Location) → (target : Path) →
    top.get? place = some (.link target) → target ∈ top.linkTargets
  | .file mode content, place, target, found => by
      cases place <;> cases found
  | .link _, place, target, found => by
      cases place with
      | nil =>
          cases found
          rw [linkTargets]
          exact List.mem_singleton_self _
      | cons name rest => cases found
  | .directory entries, place, target, found => by
      cases place with
      | nil => cases found
      | cons name rest =>
          rw [linkTargets]
          obtain ⟨inner, named, below⟩ := Option.bind_eq_some_iff.mp found
          exact mem_linkTargetsAll entries name inner rest target named below

theorem mem_linkTargetsAll : (entries : List (String × Entry)) → (name : String) →
    (inner : Entry) → (rest : Location) → (target : Path) → entries.lookup name = some inner →
    inner.get? rest = some (.link target) → target ∈ linkTargetsAll entries
  | [], _, _, _, _, named, _ => by cases named
  | (other, entry) :: entries, name, inner, rest, target, named, below => by
      rw [linkTargetsAll, List.mem_append]
      rw [List.lookup_cons] at named
      split at named
      · cases named
        exact Or.inl (mem_linkTargets entry rest target below)
      · exact Or.inr (mem_linkTargetsAll entries name inner rest target named below)

end

end Entry

/-! ### The name of the temporary file -/

theorem Path.length_of_mem_trail {path : Path} {word : String}
    (member : Step.name word ∈ path.trail) : word.length ≤ path.text.length := by
  obtain ⟨piece, among, same⟩ := List.mem_map.mp member
  have short : piece.length ≤ path.text.length := by
    rw [← String.length_toList]
    exact Text.length_le_of_mem_splitBy among
  unfold Step.ofPiece at same
  split at same
  · cases same
  · cases same
  · cases same
  · cases same
    rw [String.length_ofList]
    exact short

namespace Disk

variable {disk : Disk} {path : Path} {directory place : Location}
  {name : String} {mode : Nat} {content current : Bytes}

/-- No step of a path has the name, nor a step of any link, nor a directory on the way to the current
one. -/
structure Unsaid (disk : Disk) (path : Path) (name : String) : Prop where
  here : name ∉ disk.here
  path : Path.Step.name name ∉ path.trail
  links : ∀ location target, disk.top.get? location = some (.link target) →
    Path.Step.name name ∉ target.trail

theorem length_lt_freshName {text : String} {taken : List String} (member : text ∈ taken) :
    text.length < (freshName taken).length := by
  have short := length_le_longest member
  simp only [freshName, String.length_append, String.length_ofList, List.length_replicate]
  have four : ".tmp".length = 4 := rfl
  omega

theorem unsaid_freshName (disk : Disk) (path : Path) (names : List String) :
    disk.Unsaid path (freshName (disk.wayTexts path ++ names)) := by
  have shorter {text : String} (member : text ∈ disk.wayTexts path) :
      text.length < (freshName (disk.wayTexts path ++ names)).length :=
    length_lt_freshName (List.mem_append_left names member)
  refine ⟨?_, ?_, ?_⟩
  · intro member
    refine Nat.lt_irrefl _ (shorter ?_)
    exact List.mem_append_left _ (List.mem_cons_of_mem _ member)
  · intro member
    refine Nat.lt_irrefl _ (Nat.lt_of_le_of_lt (Path.length_of_mem_trail member) (shorter ?_))
    exact List.mem_append_left _ List.mem_cons_self
  · intro location target found member
    refine Nat.lt_irrefl _ (Nat.lt_of_le_of_lt (Path.length_of_mem_trail member) (shorter ?_))
    refine List.mem_append_right _ (List.mem_map_of_mem ?_)
    exact Entry.mem_linkTargets disk.top location target found

/-! ### Beside the temporary file -/

theorem Fresh.viewAt_put (fresh : disk.Fresh directory name) (mode : Nat) (content : Bytes)
    {location : Location} (clear : name ∉ location) :
    (disk.put (directory ++ [name]) (.file mode content)).top.viewAt location =
      disk.top.viewAt location := by
  refine Entry.viewAt_put mode content fresh.parent
    (fun step rest => fresh.viewAt_eq_none (step :: rest)) ?_
  rintro rfl
  exact clear (List.mem_append_right _ (List.mem_singleton_self name))

/-- With the temporary file there, a path leads to a file exactly if it led to that file before. -/
theorem entry_put_temporary (fresh : disk.Fresh directory name) (unsaid : disk.Unsaid path name)
    (temporary : Nat) (filler : Bytes) :
    (disk.put (directory ++ [name]) (.file temporary filler)).entry path =
        .ok (.file mode current) ↔
      disk.entry path = .ok (.file mode current) := by
  have same (location : Location) (clear : name ∉ location) :=
    fresh.viewAt_put temporary filler clear
  have base : name ∉ Entry.linkBase path disk.here := by
    rw [Entry.linkBase]
    split
    · exact List.not_mem_nil
    · exact unsaid.here
  rw [entry_file_iff, entry_file_iff]
  constructor
  · rintro ⟨place, located, shown⟩
    obtain ⟨filled, links, within, way⟩ := locate_eq_ok_iff.mp located
    -- A location without the name shows the same link in both trees.
    have links_unsaid (location : Location) (target : Path) (clear : name ∉ location)
        (found : (disk.put (directory ++ [name]) (.file temporary filler)).top.get? location =
          some (.link target)) : Path.Step.name name ∉ target.trail := by
      have seen := same location clear
      rw [Entry.viewAt, found] at seen
      obtain ⟨entry, before, alike⟩ := Option.map_eq_some_iff.mp seen.symm
      rw [Entry.view_eq_link alike] at before
      exact unsaid.links location target before
    obtain ⟨onward, clear⟩ := way.avoiding (fun location clear => (same location clear).symm)
      links_unsaid base unsaid.path
    exact ⟨place, locate_eq_ok_iff.mpr ⟨filled, links, within, onward⟩,
      (same place clear).symm.trans shown⟩
  · rintro ⟨place, located, shown⟩
    obtain ⟨filled, links, within, way⟩ := locate_eq_ok_iff.mp located
    obtain ⟨onward, clear⟩ := way.avoiding same (fun location target _ => unsaid.links location target)
      base unsaid.path
    exact ⟨place, locate_eq_ok_iff.mpr ⟨filled, links, within, onward⟩,
      (same place clear).trans shown⟩

theorem read_put_temporary (fresh : disk.Fresh directory name) (unsaid : disk.Unsaid path name)
    (temporary : Nat) (filler : Bytes) :
    (disk.put (directory ++ [name]) (.file temporary filler)).read path = .ok current ↔
      disk.read path = .ok current := by
  simp only [read_eq_ok_iff_entry, entry_put_temporary fresh unsaid]

theorem stage_eq_put_mode (fresh : disk.Fresh directory name) (unsaid : disk.Unsaid path name)
    (opened : disk.entry path = .ok (.file mode current)) (content : Bytes) :
    disk.stage (directory ++ [name]) path content =
      disk.put (directory ++ [name]) (.file mode content) := by
  have seen := (entry_put_temporary fresh unsaid 0o600 content).mpr opened
  simp only [stage, seen]
  simp only [put, Entry.put_put]

/-! ### The place of the file -/

/-- A path that leads to a file leads, if a link at its end is not followed, to the same file or to
a link that leads there. -/
theorem locate_false_of_entry (opened : disk.entry path = .ok (.file mode current)) :
    ∃ place goal, disk.locate false path = .ok place ∧
      disk.top.get? goal = some (.file mode current) ∧
      (place = goal ∨ ∃ target more, disk.top.get? place = some (.link target) ∧
        disk.top.Way true more (Entry.linkBase target place.dropLast) target.trail goal) := by
  obtain ⟨goal, located, found⟩ := entry_eq_ok opened
  obtain ⟨filled, links, within, way⟩ := locate_eq_ok_iff.mp located
  obtain ⟨fewer, less, place, onward, ends⟩ := way.without_last
  exact ⟨place, goal, locate_eq_ok_iff.mpr ⟨filled, fewer, Nat.le_trans less within, onward⟩, found,
    ends⟩

/-- What it means that a file was replaced.  The path held bytes with the expected digest; it holds
the new bytes now, with the permission bits that it had, in the place of the file or of the link that
led to it; and every other location shows what it showed. -/
structure Replaced (before : Disk) (path : Path) (expected : String) (content : Bytes)
    (after : Disk) : Prop where
  held : ∃ mode current, before.entry path = .ok (.file mode current) ∧
    Digest.ofBytes current = expected ∧ after.entry path = .ok (.file mode content)
  elsewhere : ∃ place, before.locate false path = .ok place ∧ after.locate true path = .ok place ∧
    ∀ location, location ≠ place → after.top.viewAt location = before.top.viewAt location
  here : after.here = before.here

/-- Putting the new file in the place of the old one, or of the link to it, replaces the file. -/
theorem replaced_put (opened : disk.entry path = .ok (.file mode current))
    (located : disk.locate false path = .ok place) (content : Bytes) :
    disk.Replaced path (Digest.ofBytes current) content (disk.put place (.file mode content)) := by
  obtain ⟨spot, goal, placed, found, ends⟩ := locate_false_of_entry opened
  rw [located, Except.ok.injEq] at placed
  subst placed
  -- A file or a link stands at the place.
  obtain ⟨old, there, leaf⟩ : ∃ old, disk.top.get? place = some old ∧
      ∀ entries, old ≠ .directory entries := by
    rcases ends with rfl | ⟨target, _, link, _⟩
    · exact ⟨_, found, fun _ => by rintro ⟨⟩⟩
    · exact ⟨_, link, fun _ => by rintro ⟨⟩⟩
  obtain ⟨shown, elsewhere⟩ := Entry.viewAt_put_leaf there leaf mode content
  obtain ⟨entry, new, alike⟩ := Option.map_eq_some_iff.mp shown
  rw [Entry.view_eq_file alike] at new
  -- No way goes on behind the place: from a file there is none, and a link leads to the old file.
  have dead (target : Path) (more : Nat) (middle : Location)
      (link : disk.top.get? place = some (.link target))
      (way : disk.top.Way true more (Entry.linkBase target place.dropLast) target.trail middle)
      (entries : List (String × Entry)) : disk.top.get? middle ≠ some (.directory entries) := by
    rcases ends with rfl | ⟨other, again, same, onward⟩
    · rw [link] at found
      cases found
    · rw [link] at same
      cases same
      rw [way.goal_unique onward, found]
      rintro ⟨⟩
  obtain ⟨filled, links, within, way⟩ := locate_eq_ok_iff.mp located
  obtain ⟨fewer, less, again⟩ := way.to_new_file elsewhere new
    (fun entries directory => by rw [there, Option.some.injEq] at directory; exact leaf _ directory)
    dead rfl
  have relocated : (disk.put place (.file mode content)).locate true path = .ok place :=
    locate_eq_ok_iff.mpr ⟨filled, fewer, Nat.le_trans less within, again⟩
  exact ⟨⟨mode, current, opened, rfl, entry_file_iff.mpr ⟨place, relocated, shown⟩⟩,
    ⟨place, located, relocated, elsewhere⟩, rfl⟩

/-! ### The exchange -/

/-- The exchange reads what was there before the temporary file, and with that it is decided. -/
theorem exchange_cases (refusals : Refusals) (fresh : disk.Fresh directory name)
    (unsaid : disk.Unsaid path name)
    (staged : disk.stage (directory ++ [name]) path content =
      disk.put (directory ++ [name]) (.file mode content)) (expected : String) :
    ((∀ current, disk.read path ≠ .ok current) ∧ ∃ fault,
        (disk.put (directory ++ [name]) (.file mode content)).exchange refusals
          (directory ++ [name]) path expected = (.error (.io fault), disk)) ∨
      ∃ current, disk.read path = .ok current ∧
        (Digest.ofBytes current ≠ expected ∧
            (disk.put (directory ++ [name]) (.file mode content)).exchange refusals
              (directory ++ [name]) path expected = (.error (.changedOnDisk path), disk) ∨
          Digest.ofBytes current = expected ∧ ∃ after, disk.Replaced path expected content after ∧
            (disk.put (directory ++ [name]) (.file mode content)).exchange refusals
              (directory ++ [name]) path expected =
                unlessRefused (refusals .rename) .io disk (.ok (), after)) := by
  have unchanged {bytes : Bytes} :
      (disk.put (directory ++ [name]) (.file mode content)).read path = .ok bytes ↔
        disk.read path = .ok bytes :=
    read_put_temporary fresh unsaid mode content
  cases reading : (disk.put (directory ++ [name]) (.file mode content)).read path with
  | error fault =>
      refine Or.inl ⟨?_, fault, ?_⟩
      · intro current read
        rw [unchanged.mpr read] at reading
        cases reading
      · simp only [exchange, reading, fresh.erase_put]
  | ok current =>
      have read := unchanged.mp reading
      refine Or.inr ⟨current, read, ?_⟩
      obtain ⟨oldMode, opened⟩ := read_eq_ok_iff_entry.mp read
      obtain ⟨place, _, located, _⟩ := locate_false_of_entry opened
      rw [staged.symm.trans (stage_eq_put_mode fresh unsaid opened content)] at reading ⊢
      rw [exchange_put refusals fresh located, reading]
      by_cases seen : Digest.ofBytes current = expected
      · refine Or.inr ⟨seen, _, seen ▸ replaced_put opened located content, ?_⟩
        exact if_neg fun differs => bne_iff_ne.mp differs seen
      · exact Or.inl ⟨seen, if_pos (bne_iff_ne.mpr seen)⟩

/-! ### The commit -/

/-- How a commit can end. -/
inductive Concluded (disk : Disk) (path : Path) (expected : String) (content : Bytes) :
    Except CommitError Unit × Disk → Prop where
  | failed {error : CommitError} (other : ∀ changed, error ≠ .changedOnDisk changed) :
      Concluded disk path expected content (.error error, disk)
  | changed {current : Bytes} (read : disk.read path = .ok current)
      (differs : Digest.ofBytes current ≠ expected) :
      Concluded disk path expected content (.error (.changedOnDisk path), disk)
  | replaced {after : Disk} (replaced : disk.Replaced path expected content after) :
      Concluded disk path expected content (.ok (), after)

/-- A step that is refused ends the commit with nothing changed. -/
theorem Concluded.unlessRefused {expected : String} {rest : Except CommitError Unit × Disk}
    (concluded : disk.Concluded path expected content rest) (refused : Option FileFault)
    {error : FileFault → CommitError} (other : ∀ fault changed, error fault ≠ .changedOnDisk changed) :
    disk.Concluded path expected content (disk.unlessRefused refused error rest) := by
  cases refused with
  | some fault => exact .failed (other fault)
  | none => exact concluded

theorem commitUnder_concluded (refusals : Refusals) (disk : Disk) (path : Path) (expected : String)
    (content : Bytes) :
    disk.Concluded path expected content (disk.commitUnder refusals path expected content) := by
  cases parent : disk.locate true path.directory with
  | error fault =>
      rw [commitUnder_unlocated refusals parent]
      exact .failed fun _ => by rintro ⟨⟩
  | ok directory =>
      cases listed : disk.list path.directory with
      | error fault =>
          rw [commitUnder_unlisted refusals parent listed]
          exact .failed fun _ => by rintro ⟨⟩
      | ok names =>
          obtain ⟨name, mode, chosen, fresh, staged, decided⟩ :=
            commitUnder_listed refusals parent listed expected content
          have unsaid : disk.Unsaid path name := chosen ▸ disk.unsaid_freshName path names
          have exchanged : disk.Concluded path expected content
              ((disk.put (directory ++ [name]) (.file mode content)).exchange refusals
                (directory ++ [name]) path expected) := by
            rcases exchange_cases refusals fresh unsaid staged expected with
              ⟨_, fault, ended⟩ | ⟨current, read, ⟨differs, ended⟩ | ⟨_, after, replaced, ended⟩⟩
            · rw [ended]
              exact .failed fun _ => by rintro ⟨⟩
            · rw [ended]
              exact .changed read differs
            · rw [ended]
              exact (Concluded.replaced replaced).unlessRefused _ fun _ _ => by rintro ⟨⟩
          rw [decided]
          exact ((((exchanged.unlessRefused _ fun _ _ => by rintro ⟨⟩).unlessRefused _
            fun _ _ => by rintro ⟨⟩).unlessRefused _ fun _ _ => by rintro ⟨⟩).unlessRefused _
            fun _ _ => by rintro ⟨⟩).unlessRefused _ fun _ _ => by rintro ⟨⟩

theorem unlessRefused_fst_ok {refused : Option FileFault} {error : FileFault → CommitError}
    {rest : Except CommitError Unit × Disk} :
    (disk.unlessRefused refused error rest).1 = .ok () ↔ refused = none ∧ rest.1 = .ok () := by
  cases refused with
  | some fault =>
      constructor
      · rintro ⟨⟩
      · rintro ⟨⟨⟩, _⟩
  | none => exact (and_iff_right rfl).symm

/-- The exchange succeeds if the file is what it was expected to be and the renaming is not refused. -/
theorem exchange_fst_ok (refusals : Refusals) (fresh : disk.Fresh directory name)
    (unsaid : disk.Unsaid path name)
    (staged : disk.stage (directory ++ [name]) path content =
      disk.put (directory ++ [name]) (.file mode content)) {expected : String} :
    ((disk.put (directory ++ [name]) (.file mode content)).exchange refusals
        (directory ++ [name]) path expected).1 = .ok () ↔
      refusals .rename = none ∧
        ∃ current, disk.read path = .ok current ∧ Digest.ofBytes current = expected := by
  rcases exchange_cases refusals fresh unsaid staged expected with
    ⟨unread, fault, ended⟩ | ⟨current, read, ⟨differs, ended⟩ | ⟨seen, after, replaced, ended⟩⟩
  · rw [ended]
    constructor
    · rintro ⟨⟩
    · rintro ⟨_, current, read, _⟩
      exact absurd read (unread current)
  · rw [ended]
    constructor
    · rintro ⟨⟩
    · rintro ⟨_, other, again, seen⟩
      rw [read] at again
      cases again
      exact absurd seen differs
  · rw [ended, unlessRefused_fst_ok]
    exact ⟨fun granted => ⟨granted.1, current, read, seen⟩, fun granted => ⟨granted.1, rfl⟩⟩

/-- A commit succeeds exactly if no step is refused, the directory of the file can be listed, and the
file has the expected digest. -/
theorem commitUnder_fst_ok (refusals : Refusals) (disk : Disk) (path : Path) (expected : String)
    (content : Bytes) :
    (disk.commitUnder refusals path expected content).1 = .ok () ↔
      (∀ step, refusals step = none) ∧ (∃ names, disk.list path.directory = .ok names) ∧
        ∃ current, disk.read path = .ok current ∧ Digest.ofBytes current = expected := by
  cases parent : disk.locate true path.directory with
  | error fault =>
      rw [commitUnder_unlocated refusals parent]
      constructor
      · rintro ⟨⟩
      · rintro ⟨_, ⟨names, listed⟩, _⟩
        simp only [list, entry, parent, bind, Except.bind] at listed
        cases listed
  | ok directory =>
      cases listed : disk.list path.directory with
      | error fault =>
          rw [commitUnder_unlisted refusals parent listed]
          constructor
          · rintro ⟨⟩
          · rintro ⟨_, ⟨names, impossible⟩, _⟩
            cases impossible
      | ok names =>
          obtain ⟨name, mode, chosen, fresh, staged, decided⟩ :=
            commitUnder_listed refusals parent listed expected content
          have unsaid : disk.Unsaid path name := chosen ▸ disk.unsaid_freshName path names
          -- A path that can be read has permission bits that the temporary file is to get.
          have bits {current : Bytes} (read : disk.read path = .ok current) :
              (disk.put (directory ++ [name]) (.file 0o600 content)).contains path = true := by
            obtain ⟨oldMode, opened⟩ := read_eq_ok_iff_entry.mp read
            rw [contains, (entry_put_temporary fresh unsaid 0o600 content).mpr opened]
            rfl
          rw [decided, unlessRefused_fst_ok, unlessRefused_fst_ok, unlessRefused_fst_ok,
            unlessRefused_fst_ok, unlessRefused_fst_ok, exchange_fst_ok refusals fresh unsaid staged]
          constructor
          · rintro ⟨create, write, sync, permit, reads, rename, current, read, seen⟩
            rw [if_pos (bits read)] at permit
            refine ⟨?_, ⟨names, rfl⟩, current, read, seen⟩
            intro step
            cases step <;> assumption
          · rintro ⟨granted, _, current, read, seen⟩
            refine ⟨granted _, granted _, granted _, ?_, granted _, granted _, current, read, seen⟩
            rw [if_pos (bits read)]
            exact granted _

/-- A commit is all or nothing, for every disk and whatever steps are refused.  If it succeeds, the path
held bytes with the expected digest and holds the new ones with the same permission bits, and no other
location shows anything else than before.  If it fails, the file system is the one before.  It blames
a change of the file only if the file could be read and had another digest.  It succeeds if nothing
is refused, the directory of the file can be listed and the file has the expected digest. -/
theorem commitUnder_all_or_nothing (refusals : Refusals) (disk : Disk) (path : Path)
    (expected : String) (content : Bytes) :
    let ended := disk.commitUnder refusals path expected content
    (ended.1 = .ok () → disk.Replaced path expected content ended.2) ∧
      (ended.1 ≠ .ok () → ended.2 = disk) ∧
      (∀ changed, ended.1 = .error (.changedOnDisk changed) →
        changed = path ∧ ∃ current, disk.read path = .ok current ∧
          Digest.ofBytes current ≠ expected) ∧
      (ended.1 = .ok () ↔ (∀ step, refusals step = none) ∧
        (∃ names, disk.list path.directory = .ok names) ∧
        ∃ current, disk.read path = .ok current ∧ Digest.ofBytes current = expected) := by
  intro ended
  have concluded : disk.Concluded path expected content ended :=
    commitUnder_concluded refusals disk path expected content
  refine ⟨?_, ?_, ?_, commitUnder_fst_ok refusals disk path expected content⟩
  · intro succeeded
    generalize ended = result at concluded succeeded
    cases concluded with
    | failed other => cases succeeded
    | changed read differs => cases succeeded
    | replaced replaced => exact replaced
  · intro unsuccessful
    generalize ended = result at concluded unsuccessful
    cases concluded with
    | failed other => rfl
    | changed read differs => rfl
    | replaced replaced => exact absurd rfl unsuccessful
  · intro changed blamed
    generalize ended = result at concluded blamed
    cases concluded with
    | failed other => exact absurd (Except.error.inj blamed) (other changed)
    | changed read differs =>
        cases blamed
        exact ⟨rfl, _, read, differs⟩
    | replaced replaced => cases blamed

end Disk

end AgentProbe
