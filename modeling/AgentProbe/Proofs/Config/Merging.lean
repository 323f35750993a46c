import AgentProbe.Config.Load
import AgentProbe.Proofs.Sequencing

set_option autoImplicit false

/-!
Where each setting comes from.

Settings are merged by two passes over a preset, each of which overwrites some fields and extends
others; a level, in either pass, overwrites the targets too.  What comes out is described here field
by field: which source gives the value, if several do.
-/

namespace AgentProbe

/-- The value of the options if they give one, else that of the workspace, else that of the preset. -/
def firstGiven {α : Type} (option workspace : Option α) (preset : α) : α :=
  (option.or workspace).getD preset

namespace Settings

/-! ### One pass -/

theorem withLevel_eq (settings : Settings) (level : Option Level) :
    settings.withLevel level =
      { settings with
        level := level.getD settings.level
        targets := (level.map Level.targets).getD settings.targets } := by
  cases level with
  | none => rfl
  | some level => rfl

/-- A list with those elements of another that it does not hold, each once, in the order in which they
first occur there. -/
def extendedBy (list elements : List String) : List String :=
  list ++ (elements.filter fun element => !list.contains element).eraseDups

theorem foldl_addNew (list elements : List String) :
    elements.foldl addNew list = extendedBy list elements := by
  induction elements generalizing list with
  | nil => rw [List.foldl_nil, extendedBy, List.filter_nil, List.eraseDups_nil, List.append_nil]
  | cons element elements ih =>
      rw [List.foldl_cons, ih, addNew, extendedBy, extendedBy, List.filter_cons]
      cases known : list.contains element with
      | true => simp only [if_true, Bool.not_true, Bool.false_eq_true, if_false]
      | false =>
          simp only [Bool.false_eq_true, if_false, Bool.not_false, if_true, List.eraseDups_cons,
            List.append_assoc, List.singleton_append, List.filter_filter]
          -- What is new behind the element is new in front of it and unlike it.
          have same : (fun other => !(list ++ [element]).contains other) =
              fun other => !other == element && !list.contains other := by
            funext other
            rw [List.contains_append, List.contains_cons, List.contains_nil, Bool.or_false,
              Bool.not_or, Bool.and_comm]
          rw [same]

/-! ### Both passes -/

/-- The settings that come from a workspace, if there is one, and options.  The targets chosen by a
level count as given by the source of that level, after the targets that the source names itself. -/
structure MergedFrom (workspace : Option Workspace) (options : Options) (settings : Settings) :
    Prop where
  platform : settings.platform =
    firstGiven options.platform (workspace.bind Workspace.platform) (preset .standard).platform
  level : settings.level =
    firstGiven options.level (workspace.bind Workspace.level) (preset .standard).level
  targets : settings.targets =
    firstGiven (options.targets.or (options.level.map Level.targets))
      ((workspace.bind Workspace.targets).or ((workspace.bind Workspace.level).map Level.targets))
      (preset .standard).targets
  frameworks : settings.frameworks =
    firstGiven options.frameworks (workspace.bind Workspace.frameworks) (preset .standard).frameworks
  excludes : settings.excludes =
    extendedBy ((workspace.bind Workspace.excludes).getD (preset .standard).excludes)
      options.excludes
  jobs : settings.jobs =
    firstGiven (options.jobs.map Jobs.count) ((workspace.bind Workspace.jobs).map Jobs.count)
      (preset .standard).jobs
  minConfidence : settings.minConfidence =
    firstGiven options.minConfidence (workspace.bind Workspace.minConfidence)
      (preset .standard).minConfidence
  dryRun : settings.dryRun =
    firstGiven options.dryRun (workspace.bind Workspace.dryRun) (preset .standard).dryRun
  formatter : settings.formatter =
    (options.formatter.or (workspace.bind Workspace.formatter)).or (preset .standard).formatter
  platformDirectories : settings.platformDirectories =
    (workspace.bind Workspace.platformDirectories).getD [] ++ options.platformDirectories
  patternDirectories : settings.patternDirectories =
    (workspace.bind Workspace.patternDirectories).getD [] ++ options.patternDirectories

/-- The two passes, field by field: with no workspace there is only the second. -/
theorem merge_mergedFrom (workspace : Option Workspace) (options : Options) :
    MergedFrom workspace options (merge workspace options) := by
  have noPlatforms : (preset .standard).platformDirectories = [] := rfl
  have noPatterns : (preset .standard).patternDirectories = [] := rfl
  cases workspace with
  | none =>
      constructor <;>
        simp [merge, withOptions, withLevel_eq, foldl_addNew, firstGiven, Option.getD_or,
          noPlatforms, noPatterns]
  | some workspace =>
      constructor <;>
        simp [merge, withOptions, withWorkspace, withLevel_eq, foldl_addNew, firstGiven,
          Option.getD_or, Option.or_assoc, noPlatforms, noPatterns]

theorem mergedFrom_iff {workspace : Option Workspace} {options : Options} {settings : Settings} :
    MergedFrom workspace options settings ↔ settings = merge workspace options := by
  constructor
  · intro merged
    have expected := merge_mergedFrom workspace options
    cases settings
    cases result : merge workspace options
    rw [result] at expected
    simp only [Settings.mk.injEq]
    exact ⟨merged.platform.trans expected.platform.symm, merged.level.trans expected.level.symm,
      merged.targets.trans expected.targets.symm, merged.frameworks.trans expected.frameworks.symm,
      merged.excludes.trans expected.excludes.symm, merged.jobs.trans expected.jobs.symm,
      merged.minConfidence.trans expected.minConfidence.symm,
      merged.dryRun.trans expected.dryRun.symm, merged.formatter.trans expected.formatter.symm,
      merged.platformDirectories.trans expected.platformDirectories.symm,
      merged.patternDirectories.trans expected.patternDirectories.symm⟩
  · rintro rfl
    exact merge_mergedFrom workspace options

/-! ### Loading -/

theorem load_eq_ok_iff {disk : Disk} {root : Path} {options : Options} {settings : Settings} :
    load disk root options = .ok settings ↔
      ∃ workspace, Workspace.find disk root = .ok workspace ∧
        settings = merge workspace options ∧ settings.validate = .ok () := by
  constructor
  · intro loaded
    obtain ⟨workspace, found, checked⟩ := Sequencing.bind_eq_ok.mp loaded
    obtain ⟨_, valid, same⟩ := Sequencing.bind_eq_ok.mp checked
    cases same
    exact ⟨workspace, found, rfl, valid⟩
  · rintro ⟨workspace, found, rfl, valid⟩
    exact Sequencing.bind_eq_ok.mpr ⟨workspace, found, Sequencing.bind_eq_ok.mpr ⟨(), valid, rfl⟩⟩

/-- Merging settings follows the precedence of the sources in every field, and nothing else decides the
settings; loading gives the settings merged from the workspace file and the options, exactly if they
pass the check. -/
theorem merge_load_precedence (options : Options) :
    (∀ workspace settings,
        settings = merge workspace options ↔ MergedFrom workspace options settings) ∧
      ∀ disk root settings, load disk root options = .ok settings ↔
        ∃ workspace, Workspace.find disk root = .ok workspace ∧
          MergedFrom workspace options settings ∧ settings.validate = .ok () := by
  refine ⟨fun workspace settings => mergedFrom_iff.symm, ?_⟩
  intro disk root settings
  rw [load_eq_ok_iff]
  constructor
  · rintro ⟨workspace, found, merged, valid⟩
    exact ⟨workspace, found, mergedFrom_iff.mpr merged, valid⟩
  · rintro ⟨workspace, found, merged, valid⟩
    exact ⟨workspace, found, mergedFrom_iff.mp merged, valid⟩

/-- A level among the options takes the place of targets that the workspace names. -/
example : (merge (some { targets := some [.rag], excludes := some ["a", "a"] })
    { level := some .minimal, excludes := ["b", "a", "b"] }).targets = [.llmCalls] := rfl

end Settings

end AgentProbe
