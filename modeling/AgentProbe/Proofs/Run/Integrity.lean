import AgentProbe.Proofs.Files.Placement
import AgentProbe.Proofs.Files.Replacement
import AgentProbe.Proofs.Run.Preparation
import AgentProbe.Proofs.Run.Recording
import AgentProbe.Proofs.Text.Utf8
import AgentProbe.Run.Execution

set_option autoImplicit false

/-!
What working on files does to the file system.

Working on one file either leaves the file system alone or gives that one file a text that reads
without an error.  Files stay where they are, so what holds of one holds of many: only the places of
committed files are changed, and each of them holds a text that reads without an error.
-/

namespace AgentProbe

open Syntax (SyntaxTree)

namespace Disk

/-! ### What a file system holds -/

/-- A location with a text that reads without an error. -/
def Clean (disk : Disk) (location : Location) : Prop :=
  ∃ mode text, disk.top.viewAt location = some (.file mode (Utf8.encode text)) ∧
    breaks text = false

/-- One file system comes from another by giving files clean texts, and only at the places of
`chosen`. -/
structure Rewritten (chosen : Location → Prop) (before after : Disk) : Prop where
  here : after.here = before.here
  outline : ∀ location, after.top.outlineAt location = before.top.outlineAt location
  changed : ∀ location, after.top.viewAt location = before.top.viewAt location ∨
    (chosen location ∧ after.Clean location)

namespace Rewritten

variable {before middle after disk : Disk} {chosen other : Location → Prop}

theorem refl (chosen : Location → Prop) (disk : Disk) : Rewritten chosen disk disk :=
  ⟨rfl, fun _ => rfl, fun _ => Or.inl rfl⟩

theorem trans (first : Rewritten chosen before middle) (second : Rewritten other middle after) :
    Rewritten (fun location => chosen location ∨ other location) before after := by
  refine ⟨second.here.trans first.here, ?_, ?_⟩
  · intro location
    exact (second.outline location).trans (first.outline location)
  · intro location
    rcases second.changed location with same | ⟨picked, clean⟩
    · rcases first.changed location with still | ⟨picked, mode, text, shown, clean⟩
      · exact Or.inl (same.trans still)
      · exact Or.inr ⟨Or.inl picked, mode, text, same.trans shown, clean⟩
    · exact Or.inr ⟨Or.inr picked, clean⟩

theorem mono (rewritten : Rewritten chosen before after)
    (wider : ∀ location, chosen location → other location) : Rewritten other before after := by
  refine ⟨rewritten.here, rewritten.outline, ?_⟩
  intro location
  rcases rewritten.changed location with same | ⟨picked, clean⟩
  · exact Or.inl same
  · exact Or.inr ⟨wider location picked, clean⟩

theorem clean (rewritten : Rewritten chosen before after) {location : Location}
    (was : before.Clean location) : after.Clean location := by
  rcases rewritten.changed location with same | ⟨_, clean⟩
  · obtain ⟨mode, text, shown, clean⟩ := was
    exact ⟨mode, text, same.trans shown, clean⟩
  · exact clean

theorem keptIn (rewritten : Rewritten chosen before after) :
    before.top.KeptIn after.top ∧ after.top.KeptIn before.top := by
  constructor
  · intro location shown outlined
    rw [rewritten.outline]
    exact outlined
  · intro location shown outlined
    rw [← rewritten.outline]
    exact outlined

theorem locate_eq (rewritten : Rewritten chosen before after) (last : Bool) (path : Path) :
    after.locate last path = before.locate last path := by
  obtain ⟨kept, back⟩ := rewritten.keptIn
  unfold Disk.locate
  rw [rewritten.here, Entry.trace_congr kept back]

theorem locate (rewritten : Rewritten chosen before after) {last : Bool} {path : Path}
    {place : Location} :
    after.locate last path = .ok place ↔ before.locate last path = .ok place := by
  rw [rewritten.locate_eq]

theorem placed (rewritten : Rewritten chosen before after) {path : Path} {place : Location}
    (was : before.Placed path place) : after.Placed path place := by
  obtain ⟨located, mode, content, found⟩ := was
  refine ⟨fun last => rewritten.locate.mpr (located last), ?_⟩
  have shown : after.top.outlineAt place = some (.file 0 []) := by
    rw [rewritten.outline]
    exact Entry.outlineAt_eq_some.mpr ⟨_, found, rfl⟩
  obtain ⟨entry, present, outlined⟩ := Entry.outlineAt_eq_some.mp shown
  cases entry with
  | file newMode newContent => exact ⟨newMode, newContent, present⟩
  | link target => cases outlined
  | directory entries => cases outlined

theorem put {path : Path} {place : Location} (there : disk.Placed path place) (mode : Nat)
    {text : Text} (clean : breaks text = false) :
    Rewritten (fun location => location = place) disk
        (disk.put place (.file mode (Utf8.encode text))) ∧
      (disk.put place (.file mode (Utf8.encode text))).Clean place := by
  obtain ⟨_, oldMode, old, found⟩ := there
  obtain ⟨shown, elsewhere⟩ :=
    Entry.viewAt_put_leaf found (fun _ => by rintro ⟨⟩) mode (Utf8.encode text)
  have cleaned : (disk.put place (.file mode (Utf8.encode text))).Clean place :=
    ⟨mode, text, shown, clean⟩
  refine ⟨⟨rfl, ?_, ?_⟩, cleaned⟩
  · intro location
    change ((Entry.put (.file mode (Utf8.encode text)) place disk.top).viewAt location).map _ = _
    by_cases same : location = place
    · subst same
      rw [shown, Entry.outlineAt, Entry.viewAt, found]
      rfl
    · rw [elsewhere location same]
      rfl
  · intro location
    by_cases same : location = place
    · subst same
      exact Or.inr ⟨rfl, cleaned⟩
    · exact Or.inl (elsewhere location same)

end Rewritten

end Disk

/-! ### One file -/

namespace RunContext

/-- What working on the file at a place does: its outcome says whether that place was given a clean
text, and nothing else is changed. -/
structure Treated (context : RunContext) (file : SourceFile) (place : Location) (before : Disk)
    (outcome : FileOutcome) (after : Disk) : Prop where
  path : outcome.path = file.path
  dry : context.dryRun = true → after = before
  rewritten : before.Rewritten (fun location => outcome.state = .committed ∧ location = place) after
  committed : outcome.state = .committed →
    file.tree.faults = [] ∧ (context.dryRun = false → after.Clean place)

/-- Nothing was done, and nothing is claimed to have been done. -/
theorem Treated.untouched {context : RunContext} {file : SourceFile} {place : Location}
    {disk : Disk} {outcome : FileOutcome} (path : outcome.path = file.path)
    (open_ : outcome.state ≠ .committed) : context.Treated file place disk outcome disk :=
  ⟨path, fun _ => rfl, .refl _ disk, fun done => absurd done open_⟩

theorem conclude_treated {context : RunContext} {file : SourceFile} {place : Location} {disk : Disk}
    {prepared : Prepared} (sound : prepared.Sound file) (there : disk.Placed file.path place) :
    context.Treated file place disk (context.conclude disk file prepared).1
      (context.conclude disk file prepared).2 := by
  cases prepared with
  | ended outcome => exact .untouched sound.1 sound.2
  | ready outcome text =>
      obtain ⟨path, validated, clear, clean⟩ := sound
      have named (next : FileState) : (outcome.advance next).path = file.path :=
        (outcome.advance_path next).trans path
      rw [conclude]
      split
      · rename_i dry
        refine ⟨named _, fun _ => rfl, .refl _ disk, fun _ => ⟨clear, ?_⟩⟩
        intro wet
        rw [dry] at wet
        cases wet
      · rename_i wet
        rcases disk.commit_cases (there.1 false) file.digest (Utf8.encode text) with
          ⟨error, failed⟩ | ⟨mode, written⟩
        · rw [failed]
          refine .untouched ((FileOutcome.advance_path _ _).trans path)
            (FileOutcome.advance_state_ne ?_ (by decide))
          rw [FileOutcome.push_state, validated]
          decide
        · rw [written]
          obtain ⟨rewritten, cleaned⟩ := Disk.Rewritten.put there mode clean
          have done : (outcome.advance .committed).state = .committed := by
            rw [FileOutcome.advance_state, validated]
            rfl
          refine ⟨named _, fun dry => absurd dry wet, ?_, fun _ => ⟨clear, fun _ => cleaned⟩⟩
          exact rewritten.mono fun location same => ⟨done, same⟩

theorem process_treated {context : RunContext} {shared : Shared} {file : SourceFile}
    {place : Location} (there : shared.disk.Placed file.path place) :
    context.Treated file place shared.disk (context.process shared file).1
      (context.process shared file).2.disk :=
  conclude_treated (prepare_sound shared.memo file) there

/-! ### All files -/

/-- What working on some of the files, in whatever order, has done. -/
structure Worked (context : RunContext) (files : List SourceFile) (before : Disk)
    (outcomes : List FileOutcome) (after : Disk) : Prop where
  dry : context.dryRun = true → after = before
  rewritten : before.Rewritten (fun location => ∃ outcome ∈ outcomes,
    outcome.state = .committed ∧ before.locate true outcome.path = .ok location) after
  committed : ∀ outcome ∈ outcomes, outcome.state = .committed →
    ∃ file ∈ files, outcome.path = file.path ∧ file.tree.faults = [] ∧
      (context.dryRun = false →
        ∃ place, before.locate true outcome.path = .ok place ∧ after.Clean place)

namespace Worked

variable {context : RunContext} {files : List SourceFile} {before now after : Disk}
  {outcomes others : List FileOutcome}

theorem none (context : RunContext) (files : List SourceFile) (disk : Disk) :
    context.Worked files disk [] disk :=
  ⟨fun _ => rfl, .refl _ disk, fun _ member => by cases member⟩

theorem perm (worked : context.Worked files before outcomes after) (same : outcomes.Perm others) :
    context.Worked files before others after := by
  refine ⟨worked.dry, worked.rewritten.mono ?_, ?_⟩
  · rintro location ⟨outcome, member, picked⟩
    exact ⟨outcome, same.mem_iff.mp member, picked⟩
  · intro outcome member
    exact worked.committed outcome (same.mem_iff.mpr member)

/-- The step lemma.  Files stay where they are while others are worked on, and what was clean stays
clean. -/
theorem add (worked : context.Worked files before outcomes now) {file : SourceFile}
    (member : file ∈ files) {place : Location} (there : before.Placed file.path place)
    {outcome : FileOutcome} (treated : context.Treated file place now outcome after) :
    context.Worked files before (outcomes ++ [outcome]) after := by
  have located : before.locate true outcome.path = .ok place := by
    rw [treated.path]
    exact there.1 true
  refine ⟨?_, ?_, ?_⟩
  · intro dry
    exact (treated.dry dry).trans (worked.dry dry)
  · refine (worked.rewritten.trans treated.rewritten).mono ?_
    rintro location (⟨other, earlier, picked⟩ | ⟨done, rfl⟩)
    · exact ⟨other, List.mem_append_left _ earlier, picked⟩
    · exact ⟨outcome, List.mem_append_right _ List.mem_cons_self, done, located⟩
  · intro other among done
    rcases List.mem_append.mp among with earlier | last
    · obtain ⟨source, present, path, clear, cleaned⟩ := worked.committed other earlier done
      refine ⟨source, present, path, clear, ?_⟩
      intro wet
      obtain ⟨spot, found, clean⟩ := cleaned wet
      exact ⟨spot, found, treated.rewritten.clean clean⟩
    · obtain rfl := List.mem_singleton.mp last
      obtain ⟨clear, cleaned⟩ := treated.committed done
      exact ⟨file, member, treated.path, clear, fun wet => ⟨place, located, cleaned wet⟩⟩

end Worked

/-- The run lemma. -/
theorem processAll_worked {context : RunContext} (shared : Shared) {start : Disk}
    {files order : List SourceFile} {outcomes : List FileOutcome}
    (worked : context.Worked files start outcomes shared.disk)
    (there : ∀ file ∈ files, ∃ place, start.Placed file.path place)
    (among : ∀ file ∈ order, file ∈ files) :
    context.Worked files start (outcomes ++ (context.processAll shared order).1)
      (context.processAll shared order).2.disk := by
  induction order generalizing shared outcomes with
  | nil =>
      change context.Worked files start (outcomes ++ []) shared.disk
      rw [List.append_nil]
      exact worked
  | cons file order ih =>
      have member := among file List.mem_cons_self
      obtain ⟨place, placed⟩ := there file member
      have step := context.process_treated (worked.rewritten.placed placed)
      have rest := ih _ (worked.add member placed step) fun other later =>
        among other (List.mem_cons_of_mem file later)
      rw [List.append_assoc] at rest
      exact rest

end RunContext

/-! ### The report -/

theorem Report.mem_modified {outcomes : List FileOutcome} {report : Report} {path : Path} :
    path ∈ (outcomes.foldl record report).modified ↔
      path ∈ report.modified ∨
        ∃ outcome ∈ outcomes, outcome.state = .committed ∧ outcome.path = path := by
  rw [foldl_record]
  simp only [after, reaching, List.mem_append, List.mem_map, List.mem_filter, beq_iff_eq, and_assoc]

/-! ### A whole run -/

theorem SourceFile.load_eq_ok {disk : Disk} {path : Path} {file : SourceFile}
    (loaded : load disk path = .ok file) : file.path = path := by
  unfold load at loaded
  split at loaded
  · unfold ofBytes at loaded
    split at loaded
    · cases loaded
      rfl
    · cases loaded
  · cases loaded

theorem SourceFile.load_of_clean {disk : Disk} {path : Path} {place : Location}
    (located : disk.locate true path = .ok place) (clean : disk.Clean place) :
    ∃ file, load disk path = .ok file ∧ file.tree.hasErrors = false := by
  obtain ⟨mode, text, shown, whole⟩ := clean
  have read : disk.read path = .ok (Utf8.encode text) :=
    Disk.read_eq_ok_iff.mpr ⟨place, mode, located, shown⟩
  refine ⟨ofText path text, ?_, whole⟩
  simp only [load, read, ofBytes, Utf8.decode_encode]

namespace Setup

/-- The files of a scan are where it found them, with what it read there. -/
theorem mem_scan_files {setup : Setup} {disk : Disk} {root : Path} {scan : Scan}
    (scanned : setup.scan disk root = .ok scan) {file : SourceFile} (member : file ∈ scan.files) :
    file.path ∈ disk.pythonFiles (Glob.excludes setup.excludes) root ∧
      SourceFile.load disk file.path = .ok file := by
  unfold Setup.scan at scanned
  split at scanned
  · cases scanned
    obtain ⟨⟨path, loaded⟩, listed, kept⟩ := List.mem_filterMap.mp member
    obtain ⟨other, found, same⟩ := List.mem_map.mp listed
    cases same
    cases outcome : SourceFile.load disk path with
    | error error =>
        rw [outcome] at kept
        cases kept
    | ok read =>
        rw [outcome] at kept
        cases kept
        rw [SourceFile.load_eq_ok outcome]
        exact ⟨found, outcome⟩
  · cases scanned

theorem mem_execute_modified {setup : Setup} {disk : Disk} {platform : Platform} {root : Path}
    {scan : Scan} {order : List SourceFile} {cancelled : Bool} {path : Path} :
    path ∈ (setup.execute disk platform root scan order cancelled).report.modified ↔
      ∃ outcome ∈ ((setup.context disk platform scan.detection.found).processAll { disk } order).1,
        outcome.state = .committed ∧ outcome.path = path := by
  refine (List.mergeSort_perm _ _).mem_iff.trans (Report.mem_modified.trans ?_)
  simp only [openReport, List.not_mem_nil, false_or]

theorem run_eq_ok {setup : Setup} {disk : Disk} {root : Path} {limit : Option Nat}
    {execution : Execution} (ran : setup.run disk root limit = .ok execution) :
    ∃ platform scan order, setup.registry.get setup.settings.platform = .ok platform ∧
      setup.scan disk root = .ok scan ∧ (∀ file ∈ order, file ∈ scan.files) ∧
      execution = setup.execute disk platform root scan order limit.isSome := by
  unfold run at ran
  split at ran
  · cases ran
  · rename_i platform registered
    obtain ⟨scan, scanned, executed⟩ := Sequencing.bind_eq_ok.mp ran
    cases executed
    refine ⟨platform, scan, _, registered, scanned, ?_, rfl⟩
    intro file member
    cases limit with
    | none => exact member
    | some count => exact List.mem_of_mem_take member

end Setup

/-! ### Projects that are one file -/

def soloProject (text : Text) : Disk :=
  { top := .directory [("agent.py", .file 0o644 (Utf8.encode text))] }

theorem soloProject_placed (text : Text) :
    (soloProject text).Placed ⟨"./agent.py"⟩ ["agent.py"] := by
  refine ⟨fun last => ?_, 0o644, Utf8.encode text, rfl⟩
  change (soloProject text).top.trace last Entry.linkLimit [] [.here, .name "agent.py"] = _
  rw [Entry.trace_here rfl, Entry.trace_plain rfl rfl (by rintro target ⟨⟩), Entry.trace]
  rfl

theorem soloProject_load (text : Text) :
    SourceFile.load (soloProject text) ⟨"./agent.py"⟩ = .ok (.ofText ⟨"./agent.py"⟩ text) := by
  have read : (soloProject text).read ⟨"./agent.py"⟩ = .ok (Utf8.encode text) :=
    Disk.read_eq_ok_iff.mpr ⟨_, 0o644, (soloProject_placed text).1 true, rfl⟩
  simp only [SourceFile.load, read, SourceFile.ofBytes, Utf8.decode_encode]

theorem Setup.scan_soloProject {setup : Setup} (spared : setup.excludes = []) (text : Text) :
    setup.scan (soloProject text) ⟨"."⟩ =
      .ok (setup.scanFiles (soloProject text) ⟨"."⟩ [⟨"./agent.py"⟩]) := by
  have directory : (soloProject text).isDirectory ⟨"."⟩ = true := Disk.isDirectory_dot _
  have entry : (soloProject text).entry ⟨"."⟩ = .ok (soloProject text).top := Disk.entry_dot _
  have listed : (soloProject text).pythonFiles (Glob.excludes setup.excludes) ⟨"."⟩ =
      [⟨"./agent.py"⟩] := by
    have walked : Entry.walk (Glob.excludes []) [] (soloProject text).top = [["agent.py"]] := rfl
    simp only [spared, Disk.pythonFiles, entry, walked, Path.sorted]
    decide +kernel
  rw [Setup.scan, if_pos directory, listed]

end AgentProbe
