import AgentProbe.Detection.Manifest
import AgentProbe.Proofs.Data.Keyed
import AgentProbe.Proofs.Text.LowerCase
import AgentProbe.Proofs.Text.Trimming

set_option autoImplicit false

/-!
What a manifest says about a package.

The files of a project are read into one manifest, in which the first declaration of a package stays.
So the list of all declarations, file after file, determines what the manifest says; a file that is
missing, unreadable or malformed has none in it.
-/

namespace AgentProbe

/-! ### Normalized names -/

def dashed (c : Char) : Char :=
  if c == '_' || c == '.' then '-' else c

theorem dashed_dashed (c : Char) : dashed (dashed c) = dashed c := by
  by_cases known : (c == '_' || c == '.') = true
  · rw [dashed, dashed, if_pos known]
    rfl
  · rw [dashed, dashed, if_neg known, if_neg known]

theorem isLower_dashed {c : Char} (lower : IsLower c) : IsLower (dashed c) := by
  rw [dashed]
  split
  · exact ⟨by decide, by decide⟩
  · exact lower

theorem isBlank_dashed {c : Char} (solid : isBlank c = false) : isBlank (dashed c) = false := by
  rw [dashed]
  split
  · decide
  · exact solid

theorem toList_normalizePackage (name : String) :
    (normalizePackage name).toList = (lowerFrom [] (Text.trim name.toList)).map dashed := by
  rw [normalizePackage, String.toList_ofList, lowerCase, String.toList_ofList, trimmed,
    String.toList_ofList]
  rfl

theorem isTrimmed_normalizePackage (name : String) :
    Text.IsTrimmed (normalizePackage name).toList := by
  have trimmed := Text.isTrimmed_trim name.toList
  have solid {c lowered : Char} (whole : isBlank c = false) (lowers : Lowers c lowered) :
      isBlank (dashed lowered) = false := by
    apply isBlank_dashed
    cases blank : isBlank lowered with
    | false => rfl
    | true =>
        rw [← lowers.blank blank, blank] at whole
        cases whole
  rw [toList_normalizePackage]
  constructor
  · intro c first
    rw [List.head?_map, Option.map_eq_some_iff] at first
    obtain ⟨lowered, starts, rfl⟩ := first
    obtain ⟨d, found, lowers⟩ := first_lowerFrom starts
    exact solid (trimmed.first d found) lowers
  · intro c last
    rw [List.getLast?_map, Option.map_eq_some_iff] at last
    obtain ⟨lowered, ends, rfl⟩ := last
    obtain ⟨d, found, lowers⟩ := last_lowerFrom ends
    exact solid (trimmed.last d found) lowers

theorem normalizePackage_normalizePackage (name : String) :
    normalizePackage (normalizePackage name) = normalizePackage name := by
  have lower : ∀ c ∈ (normalizePackage name).toList, IsLower c := by
    intro c member
    rw [toList_normalizePackage, List.mem_map] at member
    obtain ⟨lowered, inside, rfl⟩ := member
    exact isLower_dashed (isLower_of_mem_lowerFrom inside)
  apply String.toList_injective
  rw [toList_normalizePackage, Text.trim_eq_self (isTrimmed_normalizePackage name),
    lowerFrom_eq_self [] lower, toList_normalizePackage, List.map_map]
  apply List.map_congr_left
  intro c _
  exact dashed_dashed c

/-! ### One declaration after another -/

namespace Manifest

/-- The packages of a manifest are those of some declarations, each as it was declared first. -/
structure Holds (manifest : Manifest) (declarations : List Requirement) : Prop where
  ordered : Keyed.IsOrdered manifest.packages
  lookup : ∀ key, manifest.packages.lookup key =
    (declarations.find? fun requirement => normalizePackage requirement.name == key).map
      Requirement.specifier
  declared : ∀ entry ∈ manifest.packages, ∃ requirement ∈ declarations,
    entry = (normalizePackage requirement.name, requirement.specifier)

theorem holds_empty : Holds {} [] where
  ordered := List.Pairwise.nil
  lookup := by
    intro key
    rfl
  declared := by
    intro entry member
    cases member

theorem Holds.insert {manifest : Manifest} {declarations : List Requirement}
    (held : manifest.Holds declarations) (requirement : Requirement) :
    (manifest.insert requirement).Holds (declarations ++ [requirement]) where
  ordered := held.ordered.insert _ _
  lookup := by
    intro key
    have step := Keyed.lookup_insert held.ordered (normalizePackage requirement.name)
      requirement.specifier key
    rw [List.find?_append, Option.map_or, ← held.lookup key]
    refine step.trans (congrArg _ ?_)
    by_cases same : key = normalizePackage requirement.name
    · rw [if_pos same, List.find?_cons_of_pos (by rw [same]; exact BEq.rfl)]
      rfl
    · have other : ¬ (normalizePackage requirement.name == key) = true := by
        rw [beq_iff_eq]
        exact fun known => same known.symm
      rw [if_neg same, List.find?_cons_of_neg (by exact other)]
      rfl
  declared := by
    intro entry member
    rcases Keyed.mem_of_mem_insert member with new | old
    · exact ⟨requirement, List.mem_append_right _ List.mem_cons_self, new⟩
    · obtain ⟨found, inside, same⟩ := held.declared entry old
      exact ⟨found, List.mem_append_left _ inside, same⟩

theorem Holds.insertAll {manifest : Manifest} {declarations : List Requirement}
    (held : manifest.Holds declarations) (requirements : List Requirement) :
    (manifest.insertAll requirements).Holds (declarations ++ requirements) := by
  induction requirements generalizing manifest declarations with
  | nil =>
      rw [List.append_nil]
      exact held
  | cons requirement requirements ih =>
      have rest := ih (held.insert requirement)
      rw [List.append_assoc] at rest
      exact rest

theorem sources_insertAll (manifest : Manifest) (requirements : List Requirement) :
    (manifest.insertAll requirements).sources = manifest.sources := by
  induction requirements generalizing manifest with
  | nil => rfl
  | cons requirement requirements ih => exact ih (manifest.insert requirement)

end Manifest

/-! ### One file after another -/

variable (files : Disk.Access) (root : Path)

def fileText? (name : String) : Option Text :=
  if files.isFile (root.join name) then (files.readText (root.join name)).toOption else none

def ManifestFile.declared? (file : ManifestFile) : Option (List Requirement) :=
  (fileText? files root file.name).bind file.requirements?

namespace Manifest

theorem addFile_fst (state : Manifest × List (String × ManifestFault)) (file : ManifestFile) :
    (addFile files root state file).1 =
      match file.declared? files root with
      | some requirements =>
        { state.1.insertAll requirements with sources := state.1.sources ++ [file.name] }
      | none => state.1 := by
  rw [addFile, contribution?, ManifestFile.declared?, fileText?]
  cases files.isFile (root.join file.name) with
  | false => rfl
  | true =>
      simp only [Bool.not_true, Bool.false_eq_true, if_false, if_true]
      cases files.readText (root.join file.name) with
      | error fault => rfl
      | ok text =>
          simp only [Except.toOption, Option.bind_some]
          cases file.requirements? text with
          | none => rfl
          | some requirements => simp only [sources_insertAll]

theorem holds_addFiles (list : List ManifestFile) {state : Manifest × List (String × ManifestFault)}
    {declarations : List Requirement} (held : state.1.Holds declarations) :
    (list.foldl (addFile files root) state).1.Holds
        (declarations ++ list.flatMap fun file => (file.declared? files root).getD []) ∧
      (list.foldl (addFile files root) state).1.sources =
        state.1.sources ++
          (list.filter fun file => (file.declared? files root).isSome).map ManifestFile.name := by
  induction list generalizing state declarations with
  | nil =>
      rw [List.flatMap_nil, List.append_nil]
      exact ⟨held, (List.append_nil _).symm⟩
  | cons file list ih =>
      have step := addFile_fst files root state file
      rw [List.foldl_cons, List.flatMap_cons]
      cases declared : file.declared? files root with
      | none =>
          simp only [declared] at step
          rw [List.filter_cons_of_neg (by rw [declared]; exact Bool.false_ne_true), ← step]
          exact ih (by rw [step]; exact held)
      | some requirements =>
          simp only [declared] at step
          have next : (addFile files root state file).1.Holds (declarations ++ requirements) := by
            rw [step]
            exact ⟨(held.insertAll requirements).ordered, (held.insertAll requirements).lookup,
              (held.insertAll requirements).declared⟩
          obtain ⟨rest, sources⟩ := ih next
          rw [List.filter_cons_of_pos (by rw [declared]; rfl), sources, step, List.map_cons]
          constructor
          · rw [List.append_assoc] at rest
            exact rest
          · rw [List.append_assoc]
            rfl

end Manifest

/-! ### All declarations of a project -/

def document? : Option Value :=
  (fileText? files root "pyproject.toml").bind Toml.read?

def parsedFiles : List String :=
  ["requirements.txt", "pyproject.toml", "setup.py"].filter fun name =>
    if name == "pyproject.toml" then (document? files root).isSome
    else (fileText? files root name).isSome

def tableEntries (document : Value) : List Requirement :=
  match ((document.get? "tool").bind (Value.get? · "poetry")).bind (Value.get? · "dependencies") with
  | some (.map entries) => entries.filterMap fun entry =>
    match entry.1 with
    | .string name => some ⟨name, tableSpecifier entry.2⟩
    | _ => none
  | _ => []

/-- The entries that are packages: all but the one that says which interpreter is needed. -/
def packageEntries (document : Value) : List Requirement :=
  (tableEntries document).filter fun requirement => requirement.name != "python"

/-- What the files of a project declare, if a document declares by its table what `table` says. -/
def declarations (table : Value → List Requirement) : List Requirement :=
  ((fileText? files root "requirements.txt").map lineRequirements).getD [] ++
    (((document? files root).map fun document =>
        projectRequirements document ++ table document).getD [] ++
      ((fileText? files root "setup.py").map scriptRequirements).getD [])

theorem tableRequirements_eq (document : Value) :
    tableRequirements document = packageEntries document := by
  rw [tableRequirements, packageEntries, tableEntries]
  generalize ((document.get? "tool").bind (Value.get? · "poetry")).bind
    (Value.get? · "dependencies") = found
  cases found with
  | none => rfl
  | some value =>
      cases value with
      | map entries =>
          simp only [List.filter_filterMap]
          apply List.filterMap_congr
          intro entry _
          cases entry.1 with
          | string name =>
              by_cases interpreter : name = "python"
              · simp [interpreter, Option.filter]
              · simp [interpreter, Option.filter]
          | _ => rfl
      | _ => rfl

theorem declared?_document :
    ManifestFile.declared? files root ⟨"pyproject.toml", documentRequirements?⟩ =
      (document? files root).map fun document =>
        projectRequirements document ++ packageEntries document := by
  rw [ManifestFile.declared?, document?, Option.map_bind]
  congr 1
  funext text
  change (Toml.read? text).map _ = (Toml.read? text).map _
  congr 1
  funext document
  rw [tableRequirements_eq]

theorem declared?_total (name : String) (requirements : Text → List Requirement) :
    ManifestFile.declared? files root ⟨name, fun text => some (requirements text)⟩ =
      (fileText? files root name).map requirements := by
  rw [ManifestFile.declared?]
  cases fileText? files root name with
  | none => rfl
  | some text => rfl

theorem declared_manifestFiles :
    (manifestFiles.flatMap fun file => (file.declared? files root).getD []) =
      declarations files root packageEntries := by
  simp only [manifestFiles, List.flatMap_cons, List.flatMap_nil, List.append_nil, declared?_document,
    declared?_total, declarations]

theorem names_manifestFiles :
    (manifestFiles.filter fun file => (file.declared? files root).isSome).map ManifestFile.name =
      parsedFiles files root := by
  have names : manifestFiles.map ManifestFile.name =
      ["requirements.txt", "pyproject.toml", "setup.py"] :=
    rfl
  rw [parsedFiles, ← names, List.filter_map]
  congr 1
  apply List.filter_congr
  simp only [manifestFiles, List.forall_mem_cons]
  refine ⟨?_, ?_, ?_, fun file member => absurd member List.not_mem_nil⟩
  · rw [declared?_total, Option.isSome_map]
    rfl
  · rw [declared?_document, Option.isSome_map]
    rfl
  · rw [declared?_total, Option.isSome_map]
    rfl

namespace Manifest

structure Declares (manifest : Manifest) (declarations : List Requirement) (sources : List String) :
    Prop where
  sources : manifest.sources = sources
  /-- The first declaration of a package counts, whichever way its name is written. -/
  get : ∀ name, manifest.get? name =
    (declarations.find? fun requirement =>
      normalizePackage requirement.name == normalizePackage name).map Requirement.specifier
  /-- There are no packages but the declared ones. -/
  declared : ∀ entry ∈ manifest.packages, ∃ requirement ∈ declarations,
    entry = (normalizePackage requirement.name, requirement.specifier)
  keys : ∀ entry ∈ manifest.packages, normalizePackage entry.1 = entry.1

/-- Reading succeeds exactly if a file can be read and parsed, and gives what these declare. -/
def ReadsDeclarations (table : Value → List Requirement) : Prop :=
  match readFrom files root with
  | .ok manifest => parsedFiles files root ≠ [] ∧
      manifest.Declares (declarations files root table) (parsedFiles files root)
  | .error _ => parsedFiles files root = []

theorem Holds.declares {manifest : Manifest} {declarations : List Requirement}
    (held : manifest.Holds declarations) : manifest.Declares declarations manifest.sources where
  sources := rfl
  get := by
    intro name
    exact held.lookup (normalizePackage name)
  declared := held.declared
  keys := by
    intro entry member
    obtain ⟨requirement, _, rfl⟩ := held.declared entry member
    exact normalizePackage_normalizePackage requirement.name

theorem readFrom_declares : ReadsDeclarations files root packageEntries := by
  have start : (({}, []) : Manifest × List (String × ManifestFault)).1.Holds [] := holds_empty
  obtain ⟨held, sources⟩ := holds_addFiles files root manifestFiles start
  rw [List.nil_append, declared_manifestFiles] at held
  rw [names_manifestFiles, List.nil_append] at sources
  have declares := held.declares
  rw [sources] at declares
  rw [ReadsDeclarations, readFrom]
  generalize manifestFiles.foldl (addFile files root) ({}, []) = state at sources declares ⊢
  simp only [sources]
  cases empty : (parsedFiles files root).isEmpty with
  | true => exact List.isEmpty_iff.mp empty
  | false => exact ⟨List.isEmpty_eq_false_iff.mp empty, declares⟩

def interpreterEntry : Disk.Access where
  isDirectory := fun _ => true
  list := fun _ => .ok []
  isFile := fun path => path.text == "p/pyproject.toml"
  readText := fun _ => .ok "[tool.poetry.dependencies]\npython = \"^3.11\"\n".toList

theorem not_declares_interpreter : ¬ ReadsDeclarations interpreterEntry ⟨"p"⟩ tableEntries := by
  have result : readFrom interpreterEntry ⟨"p"⟩ =
      .ok { packages := [], sources := ["pyproject.toml"] } := by
    decide +kernel
  rw [ReadsDeclarations, result]
  rintro ⟨_, declares⟩
  exact absurd (declares.get "python") (by decide +kernel)

end Manifest

end AgentProbe
