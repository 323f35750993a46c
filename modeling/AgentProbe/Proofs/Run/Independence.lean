import AgentProbe.Proofs.Run.Integrity

set_option autoImplicit false

/-!
What becomes of a file does not depend on the other files of a run.

Two things pass from one file to the next: the memo of patterns and the file system.  A memo holds
nothing but the answers that would be given anyway.  The file system changes only at the places of
files that were committed, and whether another file can be replaced does not depend on these.
-/

namespace AgentProbe

/-! ### The file system -/

namespace Disk

/-- Whether a file is replaced is decided by its directory and its bytes. -/
theorem commit_result {disk : Disk} {path : Path} {place : Location} {mode : Nat} {current : Bytes}
    (located : ∀ last, disk.locate last path = .ok place)
    (shown : disk.top.viewAt place = some (.file mode current)) (expected : String)
    (content : Bytes) :
    (disk.commit path expected content).1 =
      match disk.list path.directory with
      | .error fault =>
        .error (.noTemporary fault (path.directory.join (freshName path.fileName.toList)))
      | .ok _ =>
        if Digest.ofBytes current != expected then .error (.changedOnDisk path) else .ok () := by
  cases parent : disk.locate true path.directory with
  | error fault =>
      have unlisted : disk.list path.directory = .error fault := by
        simp only [list, entry, parent, bind, Except.bind]
      rw [commit, commitUnder_unlocated _ parent, unlisted]
  | ok directory =>
      cases listed : disk.list path.directory with
      | error fault => rw [commit, commitUnder_unlisted _ parent listed]
      | ok names =>
          obtain ⟨name, temporary, fresh, decided⟩ :=
            commit_listed (located false) parent listed expected content
          -- The temporary file is not at the place of the file, which still shows its bytes.
          have apart : place ≠ directory ++ [name] := by
            rintro rfl
            rw [fresh.viewAt_eq_none []] at shown
            cases shown
          have read : (disk.put (directory ++ [name]) (.file temporary content)).read path =
              .ok current := by
            refine read_eq_ok_iff.mpr ⟨place, mode, ?_, ?_⟩
            · exact locate_of_keptIn (located true) rfl (fresh.keptIn_put temporary content)
            · rw [← shown]
              exact Entry.viewAt_put temporary content fresh.parent
                (fun step rest => fresh.viewAt_eq_none (step :: rest)) apart
          rw [decided, read]
          dsimp only
          split
          · rfl
          · rfl

namespace Rewritten

variable {chosen : Location → Prop} {before after : Disk}

/-- The same directories can be listed. -/
theorem list_congr (rewritten : Rewritten chosen before after) (path : Path) :
    (∃ fault, after.list path = .error fault ∧ before.list path = .error fault) ∨
      ∃ names others, after.list path = .ok names ∧ before.list path = .ok others := by
  obtain ⟨kept, back⟩ := rewritten.keptIn
  simp only [list, Disk.entry, rewritten.locate_eq true path, bind, Except.bind]
  cases before.locate true path with
  | error fault => exact Or.inl ⟨fault, rfl, rfl⟩
  | ok place =>
      dsimp only
      cases found : before.top.get? place with
      | none =>
          rw [back.absent found]
          exact Or.inl ⟨_, rfl, rfl⟩
      | some inner =>
          obtain ⟨other, present, outlined⟩ := kept.entry found
          rw [present]
          cases inner with
          | directory entries =>
              cases other with
              | directory others => exact Or.inr ⟨_, _, rfl, rfl⟩
              | file _ _ => cases outlined
              | link _ => cases outlined
          | file mode content =>
              cases other with
              | directory others => cases outlined
              | file _ _ => exact Or.inl ⟨_, rfl, rfl⟩
              | link _ => cases outlined
          | link target =>
              cases other with
              | directory others => cases outlined
              | file _ _ => cases outlined
              | link _ => exact Or.inl ⟨_, rfl, rfl⟩

/-- A file that was not rewritten is replaced or refused as it would have been at first. -/
theorem commit_eq (rewritten : Rewritten chosen before after) {path : Path} {place : Location}
    (there : before.Placed path place) (spared : ¬ chosen place) (expected : String)
    (content : Bytes) :
    (after.commit path expected content).1 = (before.commit path expected content).1 := by
  obtain ⟨located, mode, current, found⟩ := there
  have shown : before.top.viewAt place = some (.file mode current) := by
    rw [Entry.viewAt, found]
    rfl
  have still : after.top.viewAt place = some (.file mode current) := by
    rcases rewritten.changed place with same | ⟨picked, _⟩
    · exact same.trans shown
    · exact absurd picked spared
  have relocated (last : Bool) : after.locate last path = .ok place :=
    (rewritten.locate_eq last path).trans (located last)
  rw [commit_result located shown, commit_result relocated still]
  rcases rewritten.list_congr path.directory with
    ⟨fault, unlisted, unlistedBefore⟩ | ⟨names, others, listed, listedBefore⟩
  · rw [unlisted, unlistedBefore]
  · rw [listed, listedBefore]

end Rewritten

end Disk

/-! ### The memo -/

namespace RunContext

variable {context : RunContext} {memo : PatternMemo}

/-- A memo that answers the requests of a run as they would be answered without it. -/
def Faithful (context : RunContext) (memo : PatternMemo) : Prop :=
  ∀ usage answer, memo.answers.lookup (context.request usage).key = some answer →
    answer = (context.request usage).answer context.source

theorem Faithful.empty (context : RunContext) : context.Faithful {} := by
  intro usage answer found
  cases found

/-- Requests of one run that have the same key are the same request. -/
theorem request_eq_of_key {left right : Usage}
    (same : (context.request left).key = (context.request right).key) :
    context.request left = context.request right := by
  simp only [request, PatternRequest.key, Prod.mk.injEq, and_true] at same
  simp only [request, same.1, same.2]

theorem Faithful.resolve (faithful : context.Faithful memo) (usage : Usage) :
    (memo.resolve context.source (context.request usage)).1 =
        (context.request usage).answer context.source ∧
      context.Faithful (memo.resolve context.source (context.request usage)).2 := by
  unfold PatternMemo.resolve
  cases found : memo.answers.lookup (context.request usage).key with
  | some answer => exact ⟨faithful usage answer found, faithful⟩
  | none =>
      refine ⟨rfl, ?_⟩
      intro other answer present
      dsimp only at present
      rw [List.lookup_append] at present
      cases old : memo.answers.lookup (context.request other).key with
      | some earlier =>
          rw [old] at present
          cases present
          exact faithful other _ old
      | none =>
          rw [old, Option.none_or, List.lookup_cons] at present
          cases same : (context.request other).key == (context.request usage).key with
          | false =>
              rw [same] at present
              cases present
          | true =>
              rw [same] at present
              cases present
              rw [request_eq_of_key (eq_of_beq same)]

def gather (context : RunContext) (outcome : FileOutcome) :
    List Usage → List PlanInput × FileOutcome
  | [] => ([], outcome)
  | usage :: usages =>
    match (context.request usage).answer context.source with
    | .ok pattern =>
      (context.input usage pattern :: (context.gather outcome usages).1,
        (context.gather outcome usages).2)
    | .error error => context.gather (outcome.push (context.missing usage error)) usages

theorem Faithful.resolve_eq_gather (faithful : context.Faithful memo) (outcome : FileOutcome)
    (usages : List Usage) :
    ((context.resolve memo outcome usages).1, (context.resolve memo outcome usages).2.1) =
        context.gather outcome usages ∧
      context.Faithful (context.resolve memo outcome usages).2.2 := by
  induction usages generalizing memo outcome with
  | nil => exact ⟨rfl, faithful⟩
  | cons usage usages ih =>
      obtain ⟨answered, kept⟩ := faithful.resolve usage
      rw [RunContext.resolve, gather, ← answered]
      generalize memo.resolve context.source (context.request usage) = result at kept
      obtain ⟨answer, next⟩ := result
      cases answer with
      | ok pattern =>
          obtain ⟨same, still⟩ := ih kept outcome
          refine ⟨?_, still⟩
          rw [← same]
      | error error => exact ih kept (outcome.push (context.missing usage error))

/-! ### Preparing -/

def prepareInputs (context : RunContext) (file : SourceFile) (inputs : List PlanInput)
    (outcome : FileOutcome) : Prepared :=
  match inputs with
  | [] => .ended (outcome.advance .skipped)
  | inputs =>
    context.preparePlan file (planFile context.targets file.path.text file.tree inputs)
      ({ outcome with platformUsed := true }.advance .planned)

theorem prepareUsages_eq (context : RunContext) (memo : PatternMemo) (file : SourceFile)
    (usages : List Usage) (outcome : FileOutcome) :
    context.prepareUsages memo file usages outcome =
      (context.prepareInputs file (context.resolve memo outcome usages).1
        (context.resolve memo outcome usages).2.1, (context.resolve memo outcome usages).2.2) := by
  unfold prepareUsages
  generalize context.resolve memo outcome usages = resolved
  obtain ⟨inputs, found, later⟩ := resolved
  cases inputs with
  | nil => rfl
  | cons input inputs => rfl

def detected (file : SourceFile) : FileOutcome :=
  ({ path := file.path } : FileOutcome).advance .detected

/-- Whether patterns are looked up for a file: it uses frameworks and has no syntax errors. -/
def needsPatterns (context : RunContext) (file : SourceFile) : Bool :=
  !(context.usages file).isEmpty && file.tree.faults.isEmpty

theorem prepare_of_needsPatterns {file : SourceFile} (needs : context.needsPatterns file = true)
    (memo : PatternMemo) :
    context.prepare memo file =
      context.prepareUsages memo file (context.usages file) (detected file) := by
  rw [needsPatterns, Bool.and_eq_true, Bool.not_eq_true', List.isEmpty_iff] at needs
  simp only [prepare, needs.2]
  cases used : context.usages file with
  | nil =>
      rw [used] at needs
      cases needs.1
  | cons usage usages => rfl

theorem prepare_of_not_needsPatterns {file : SourceFile}
    (needs : context.needsPatterns file = false) (memo : PatternMemo) :
    context.prepare memo file = ((context.prepare {} file).1, memo) := by
  simp only [prepare]
  cases used : context.usages file with
  | nil => rfl
  | cons usage usages =>
      cases broken : file.tree.faults with
      | cons first others => rfl
      | nil =>
          rw [needsPatterns, used, broken] at needs
          cases needs

/-- A file that needs patterns is prepared from those that are gathered for it. -/
theorem Faithful.prepare_eq (faithful : context.Faithful memo) {file : SourceFile}
    (needs : context.needsPatterns file = true) :
    (context.prepare memo file).1 =
        context.prepareInputs file (context.gather (detected file) (context.usages file)).1
          (context.gather (detected file) (context.usages file)).2 ∧
      context.Faithful (context.prepare memo file).2 := by
  obtain ⟨same, kept⟩ := faithful.resolve_eq_gather (detected file) (context.usages file)
  rw [prepare_of_needsPatterns needs, prepareUsages_eq, ← same]
  exact ⟨rfl, kept⟩

/-- Preparing a file gives the same with every memo that is faithful. -/
theorem Faithful.prepare (faithful : context.Faithful memo) (file : SourceFile) :
    (context.prepare memo file).1 = (context.prepare {} file).1 ∧
      context.Faithful (context.prepare memo file).2 := by
  cases needs : context.needsPatterns file with
  | true =>
      obtain ⟨same, kept⟩ := faithful.prepare_eq needs
      exact ⟨same.trans ((Faithful.empty context).prepare_eq needs).1.symm, kept⟩
  | false =>
      rw [prepare_of_not_needsPatterns needs]
      exact ⟨rfl, faithful⟩

/-! ### Outcomes -/

def outcome (context : RunContext) (disk : Disk) (file : SourceFile) : FileOutcome :=
  (context.process { disk } file).1

/-- Writing a prepared file ends alike after other files were rewritten. -/
theorem conclude_congr {chosen : Location → Prop} {before after : Disk} {file : SourceFile}
    {place : Location} (rewritten : before.Rewritten chosen after)
    (there : before.Placed file.path place) (spared : ¬ chosen place) (prepared : Prepared) :
    (context.conclude after file prepared).1 = (context.conclude before file prepared).1 := by
  cases prepared with
  | ended outcome => rfl
  | ready outcome text =>
      have same := rewritten.commit_eq there spared file.digest (Utf8.encode text)
      rw [conclude, conclude]
      split
      · rfl
      · generalize after.commit file.path file.digest (Utf8.encode text) = second at same
        generalize before.commit file.path file.digest (Utf8.encode text) = first at same
        obtain ⟨answer, written⟩ := second
        obtain ⟨other, kept⟩ := first
        cases same
        cases answer with
        | ok _ => rfl
        | error _ => rfl

/-- A prepared text is written to a file that has not changed since it was read. -/
theorem conclude_ready {disk : Disk} {file : SourceFile} {place : Location} {mode : Nat}
    {current : Bytes} (located : ∀ last, disk.locate last file.path = .ok place)
    (shown : disk.top.viewAt place = some (.file mode current))
    (listed : ∃ names, disk.list file.path.directory = .ok names)
    (same : Digest.ofBytes current = file.digest) (outcome : FileOutcome) (text : Text) :
    (context.conclude disk file (.ready outcome text)).1 = outcome.advance .committed := by
  obtain ⟨names, listed⟩ := listed
  have written : (disk.commit file.path file.digest (Utf8.encode text)).1 = .ok () := by
    rw [Disk.commit_result located shown, listed, same, bne_self_eq_false]
    rfl
  rw [conclude]
  split
  · rfl
  · generalize disk.commit file.path file.digest (Utf8.encode text) = result at written
    obtain ⟨answer, after⟩ := result
    cases written
    rfl

/-- Files that are still to be worked on: each is at a place of its own, and nothing has been
rewritten but places where none of them is. -/
structure Pending (start : Disk) (files : List SourceFile) (now : Disk) : Prop where
  placed : ∀ file ∈ files, ∃ place, start.Placed file.path place
  apart : files.Pairwise fun left right =>
    start.locate true left.path ≠ start.locate true right.path
  rewritten : start.Rewritten
    (fun location => ∀ file ∈ files, start.locate true file.path ≠ .ok location) now

namespace Pending

variable {start now : Disk} {file : SourceFile} {files others : List SourceFile}

theorem perm (pending : Pending start files now) (same : files.Perm others) :
    Pending start others now := by
  refine ⟨?_, ?_, ?_⟩
  · intro file member
    exact pending.placed file (same.mem_iff.mpr member)
  · exact same.pairwise pending.apart fun different => different.symm
  · refine pending.rewritten.mono ?_
    intro location elsewhere file member
    exact elsewhere file (same.mem_iff.mpr member)

/-- Writing one of the files ends as it would have at first, and the others stay as they are. -/
theorem conclude (pending : Pending start (file :: files) now) (context : RunContext)
    {prepared : Prepared} (sound : prepared.Sound file) :
    (context.conclude now file prepared).1 = (context.conclude start file prepared).1 ∧
      Pending start files (context.conclude now file prepared).2 := by
  obtain ⟨place, there⟩ := pending.placed file List.mem_cons_self
  have treated := context.conclude_treated sound (pending.rewritten.placed there)
  obtain ⟨apart, others⟩ := List.pairwise_cons.mp pending.apart
  refine ⟨conclude_congr pending.rewritten there ?_ prepared, ?_, others, ?_⟩
  · intro spared
    exact spared file List.mem_cons_self (there.1 true)
  · intro other member
    exact pending.placed other (List.mem_cons_of_mem file member)
  · refine (pending.rewritten.trans treated.rewritten).mono ?_
    rintro location (elsewhere | ⟨_, rfl⟩) other member
    · exact elsewhere other (List.mem_cons_of_mem file member)
    · rw [← there.1 true]
      exact (apart other member).symm

end Pending

/-- Files that are worked on one after another end as each would alone. -/
theorem processAll_outcomes {start : Disk} {shared : Shared} {files : List SourceFile}
    (pending : Pending start files shared.disk) (faithful : context.Faithful shared.memo) :
    (context.processAll shared files).1 = files.map (context.outcome start) := by
  induction files generalizing shared with
  | nil => rfl
  | cons file files ih =>
      obtain ⟨prepared, kept⟩ := faithful.prepare file
      obtain ⟨concluded, later⟩ := pending.conclude context (prepare_sound shared.memo file)
      have first : (context.process shared file).1 = context.outcome start file := by
        change (context.conclude shared.disk file (context.prepare shared.memo file).1).1 =
          (context.conclude start file (context.prepare {} file).1).1
        rw [concluded, prepared]
      have rest : (context.processAll (context.process shared file).2 files).1 =
          files.map (context.outcome start) := ih later kept
      rw [processAll, List.map_cons, ← first, ← rest]

end RunContext

end AgentProbe
