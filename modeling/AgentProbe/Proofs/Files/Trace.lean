import AgentProbe.Proofs.Files.View

set_option autoImplicit false

/-!
The way that a path takes through a tree of files.

A trace looks at directories and links only, so it ends where it ended as long as these stay, whatever
becomes of the bytes of files.  A trace of more steps continues the trace of the first of them.
-/

namespace AgentProbe

namespace Entry

variable {top : Entry} {last : Bool} {links : Nat} {place : Location} {rest : List Path.Step}
  {entries : List (String × Entry)}

/-! ### One step -/

theorem trace_here (found : top.get? place = some (.directory entries)) :
    top.trace last links place (.here :: rest) = top.trace last links place rest := by
  rw [trace]
  simp only [found]

theorem trace_root (found : top.get? place = some (.directory entries)) :
    top.trace last links place (.root :: rest) = top.trace last links place rest := by
  rw [trace]
  simp only [found]

theorem trace_up (found : top.get? place = some (.directory entries)) :
    top.trace last links place (.up :: rest) = top.trace last links place.dropLast rest := by
  rw [trace]
  simp only [found]

theorem trace_missing {name : String} (found : top.get? place = some (.directory entries))
    (absent : entries.lookup name = none) :
    top.trace last links place (.name name :: rest) = .error .notFound := by
  rw [trace]
  simp only [found, absent]

theorem trace_plain {name : String} {entry : Entry}
    (found : top.get? place = some (.directory entries)) (named : entries.lookup name = some entry)
    (plain : ∀ target, entry ≠ .link target) :
    top.trace last links place (.name name :: rest) =
      top.trace last links (place ++ [name]) rest := by
  rw [trace]
  simp only [found, named]

theorem trace_link {name : String} {target : Path}
    (found : top.get? place = some (.directory entries))
    (named : entries.lookup name = some (.link target)) :
    top.trace last links place (.name name :: rest) =
      if rest.isEmpty && !last then .ok (place ++ [name])
      else match links with
        | 0 => .error .linkLoop
        | links + 1 =>
          top.trace last links (if target.isAbsolute then [] else place) (target.trail ++ rest) := by
  cases links with
  | zero =>
      rw [trace]
      simp only [found, named]
  | succ links =>
      rw [trace]
      simp only [found, named]

theorem trace_notDirectory {step : Path.Step} {entry : Entry} (found : top.get? place = some entry)
    (notDirectory : ∀ entries, entry ≠ .directory entries) :
    top.trace last links place (step :: rest) = .error .notDirectory := by
  rw [trace]
  simp only [found]

theorem trace_nowhere {step : Path.Step} (found : top.get? place = none) :
    top.trace last links place (step :: rest) = .error .notFound := by
  rw [trace]
  simp only [found]

/-! ### Trees of the same outline -/

/-- What a location shows, without the content of a file. -/
def outlineAt (top : Entry) (location : Location) : Option View :=
  (top.viewAt location).map View.outline

theorem outlineAt_eq_some {shown : View} :
    top.outlineAt place = some shown ↔
      ∃ entry, top.get? place = some entry ∧ entry.view.outline = shown := by
  simp only [outlineAt, viewAt, Option.map_map, Option.map_eq_some_iff, Function.comp_apply]

/-- Whatever is in one tree is in the other, the content of files apart. -/
def KeptIn (top other : Entry) : Prop :=
  ∀ location shown, top.outlineAt location = some shown → other.outlineAt location = some shown

namespace KeptIn

variable {other : Entry}

theorem entry {entry : Entry} (kept : top.KeptIn other) (found : top.get? place = some entry) :
    ∃ inner, other.get? place = some inner ∧ inner.view.outline = entry.view.outline :=
  outlineAt_eq_some.mp (kept place entry.view.outline (outlineAt_eq_some.mpr ⟨entry, found, rfl⟩))

theorem directory (kept : top.KeptIn other) (found : top.get? place = some (.directory entries)) :
    ∃ inner, other.get? place = some (.directory inner) := by
  obtain ⟨inner, present, outlined⟩ := kept.entry found
  cases inner with
  | file mode content => cases outlined
  | link target => cases outlined
  | directory inner => exact ⟨inner, present⟩

theorem link {target : Path} (kept : top.KeptIn other)
    (found : top.get? place = some (.link target)) : other.get? place = some (.link target) := by
  obtain ⟨inner, present, outlined⟩ := kept.entry found
  cases inner with
  | file mode content => cases outlined
  | link target =>
      cases outlined
      exact present
  | directory inner => cases outlined

theorem plain {entry : Entry} (kept : top.KeptIn other) (found : top.get? place = some entry)
    (plain : ∀ target, entry ≠ .link target) :
    ∃ inner, other.get? place = some inner ∧ ∀ target, inner ≠ .link target := by
  obtain ⟨inner, present, outlined⟩ := kept.entry found
  refine ⟨inner, present, ?_⟩
  rintro target rfl
  cases entry with
  | file mode content => cases outlined
  | link target => exact plain target rfl
  | directory inner => cases outlined

theorem absent (kept : top.KeptIn other) (missing : other.get? place = none) :
    top.get? place = none := by
  cases found : top.get? place with
  | none => rfl
  | some entry =>
      obtain ⟨inner, present, _⟩ := kept.entry found
      rw [missing] at present
      cases present

end KeptIn

/-- In two trees of the same outline a trace ends alike, also where it fails. -/
theorem trace_congr {other : Entry} (kept : top.KeptIn other) (back : other.KeptIn top)
    (last : Bool) (links : Nat) (place : Location) (steps : List Path.Step) :
    other.trace last links place steps = top.trace last links place steps := by
  induction links, place, steps using trace.induct top last with
  | case1 links place => rw [trace, trace]
  | case2 links place rest entries found ih =>
      obtain ⟨inner, here⟩ := kept.directory found
      rw [trace_root found, trace_root here, ih]
  | case3 links place rest entries found ih =>
      obtain ⟨inner, here⟩ := kept.directory found
      rw [trace_here found, trace_here here, ih]
  | case4 links place rest entries found ih =>
      obtain ⟨inner, here⟩ := kept.directory found
      rw [trace_up found, trace_up here, ih]
  | case5 links place rest entries found name absent =>
      obtain ⟨inner, here⟩ := kept.directory found
      have missing := back.absent ((get?_child found name).trans absent)
      rw [get?_child here] at missing
      rw [trace_missing found absent, trace_missing here missing]
  | case6 links place rest entries found name target named ends =>
      obtain ⟨inner, here⟩ := kept.directory found
      have linked := kept.link ((get?_child found name).trans named)
      rw [get?_child here] at linked
      rw [trace_link found named, trace_link here linked, if_pos ends, if_pos ends]
  | case7 place rest entries found name target named goes =>
      obtain ⟨inner, here⟩ := kept.directory found
      have linked := kept.link ((get?_child found name).trans named)
      rw [get?_child here] at linked
      rw [trace_link found named, trace_link here linked, if_neg goes]
  | case8 place rest entries found name target named goes links ih =>
      obtain ⟨inner, here⟩ := kept.directory found
      have linked := kept.link ((get?_child found name).trans named)
      rw [get?_child here] at linked
      rw [trace_link found named, trace_link here linked, if_neg goes, if_neg goes]
      exact ih
  | case9 links place rest entries found name entry plain named ih =>
      obtain ⟨inner, here⟩ := kept.directory found
      obtain ⟨below, present, notLink⟩ := kept.plain ((get?_child found name).trans named) plain
      rw [get?_child here] at present
      rw [trace_plain found named plain, trace_plain here present notLink, ih]
  | case10 links place step rest entry notDirectory found =>
      obtain ⟨inner, here, outlined⟩ := kept.entry found
      have neither : ∀ entries, inner ≠ .directory entries := by
        rintro entries rfl
        obtain ⟨opened, there⟩ := back.directory here
        rw [found] at there
        cases there
        exact notDirectory opened rfl
      rw [trace_notDirectory found notDirectory, trace_notDirectory here neither]
  | case11 links place step rest found =>
      rw [trace_nowhere found, trace_nowhere (back.absent found)]

/-! ### More steps -/

/-- How a trace goes on behind its first steps: it fails where they fail, and otherwise it starts
again at the place they lead to. -/
theorem trace_append (top : Entry) (last : Bool) (links : Nat) (place : Location)
    (steps more : List Path.Step) (goesOn : more ≠ []) :
    (∃ fault, top.trace true links place steps = .error fault ∧
        top.trace last links place (steps ++ more) = .error fault) ∨
      ∃ middle left, top.trace true links place steps = .ok middle ∧
        top.trace last links place (steps ++ more) = top.trace last left middle more := by
  induction links, place, steps using trace.induct top true with
  | case1 links place =>
      refine Or.inr ⟨place, links, ?_, rfl⟩
      rw [trace]
  | case2 links place rest entries found ih =>
      rw [List.cons_append, trace_root found, trace_root found]
      exact ih
  | case3 links place rest entries found ih =>
      rw [List.cons_append, trace_here found, trace_here found]
      exact ih
  | case4 links place rest entries found ih =>
      rw [List.cons_append, trace_up found, trace_up found]
      exact ih
  | case5 links place rest entries found name absent =>
      rw [List.cons_append, trace_missing found absent, trace_missing found absent]
      exact Or.inl ⟨_, rfl, rfl⟩
  | case6 links place rest entries found name target named ends =>
      -- The first steps follow a link at their end, as more steps make the longer trace do.
      rw [Bool.not_true, Bool.and_false] at ends
      cases ends
  | case7 place rest entries found name target named goes =>
      have longer : ¬ ((rest ++ more).isEmpty && !last) = true := by simp [goesOn]
      rw [List.cons_append, trace_link found named, trace_link found named, if_neg goes,
        if_neg longer]
      exact Or.inl ⟨_, rfl, rfl⟩
  | case8 place rest entries found name target named goes links ih =>
      have longer : ¬ ((rest ++ more).isEmpty && !last) = true := by simp [goesOn]
      rw [List.cons_append, trace_link found named, trace_link found named, if_neg goes,
        if_neg longer]
      dsimp only
      rw [← List.append_assoc]
      exact ih
  | case9 links place rest entries found name entry plain named ih =>
      rw [List.cons_append, trace_plain found named plain, trace_plain found named plain]
      exact ih
  | case10 links place step rest entry notDirectory found =>
      rw [List.cons_append, trace_notDirectory found notDirectory,
        trace_notDirectory found notDirectory]
      exact Or.inl ⟨_, rfl, rfl⟩
  | case11 links place step rest found =>
      rw [List.cons_append, trace_nowhere found, trace_nowhere found]
      exact Or.inl ⟨_, rfl, rfl⟩

end Entry

/-! ### What a path leads to -/

namespace Disk

theorem entry_eq_ok {disk : Disk} {path : Path} {entry : Entry}
    (opened : disk.entry path = .ok entry) :
    ∃ place, disk.locate true path = .ok place ∧ disk.top.get? place = some entry := by
  obtain ⟨place, located, present⟩ := Sequencing.bind_eq_ok.mp opened
  cases found : disk.top.get? place with
  | none =>
      rw [found] at present
      cases present
  | some inner =>
      rw [found] at present
      cases present
      exact ⟨place, located, found⟩

/-- A path leads to a file with some bytes when its location shows that file. -/
theorem entry_file_iff {disk : Disk} {path : Path} {mode : Nat} {bytes : Bytes} :
    disk.entry path = .ok (.file mode bytes) ↔
      ∃ place, disk.locate true path = .ok place ∧
        disk.top.viewAt place = some (.file mode bytes) := by
  constructor
  · intro opened
    obtain ⟨place, located, found⟩ := entry_eq_ok opened
    exact ⟨place, located, by rw [Entry.viewAt, found]; rfl⟩
  · rintro ⟨place, located, shown⟩
    obtain ⟨inner, found, same⟩ := Option.map_eq_some_iff.mp shown
    cases inner with
    | file _ _ =>
        cases same
        simp only [entry, located, bind, Except.bind, found]
    | link target => cases same
    | directory entries => cases same

theorem read_eq_ok_iff_entry {disk : Disk} {path : Path} {bytes : Bytes} :
    disk.read path = .ok bytes ↔ ∃ mode, disk.entry path = .ok (.file mode bytes) := by
  constructor
  · intro read
    obtain ⟨inner, opened, content⟩ := Sequencing.bind_eq_ok.mp read
    cases inner with
    | file mode old =>
        cases content
        exact ⟨mode, opened⟩
    | link target => cases content
    | directory entries => cases content
  · rintro ⟨mode, opened⟩
    simp only [read, opened, bind, Except.bind]

/-- A path holds bytes when it leads to a file with these bytes. -/
theorem read_eq_ok_iff {disk : Disk} {path : Path} {bytes : Bytes} :
    disk.read path = .ok bytes ↔
      ∃ place mode, disk.locate true path = .ok place ∧
        disk.top.viewAt place = some (.file mode bytes) := by
  simp only [read_eq_ok_iff_entry, entry_file_iff]
  exact exists_comm

theorem locate_dot (entries : List (String × Entry)) (last : Bool) :
    ({ top := .directory entries } : Disk).locate last ⟨"."⟩ = .ok [] := by
  change (Entry.directory entries).trace last Entry.linkLimit [] [.here] = .ok []
  rw [Entry.trace_here rfl, Entry.trace]

theorem entry_dot (entries : List (String × Entry)) :
    ({ top := .directory entries } : Disk).entry ⟨"."⟩ = .ok (.directory entries) := by
  simp only [entry, locate_dot]
  rfl

theorem isDirectory_dot (entries : List (String × Entry)) :
    ({ top := .directory entries } : Disk).isDirectory ⟨"."⟩ = true := by
  simp only [isDirectory, entry_dot]

end Disk

end AgentProbe
