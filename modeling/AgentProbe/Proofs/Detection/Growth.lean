import Mathlib.Data.Prod.Lex
import Mathlib.Data.String.Basic
import AgentProbe.Proofs.Detection.Degradation

set_option autoImplicit false

/-!
Detection in more files, and with the catalog in another order.

More files can only add evidence behind the evidence that there is, and every score grows with the
evidence; a framework that was declared and not imported gains most.  The matches are in a strict
order, by falling score and then by name, so that the order of the catalog does not show.
-/

namespace AgentProbe

namespace Scoring

/-! ### Scores and evidence -/

theorem exact_declared_mono {fewer more : Nat} (grows : fewer ≤ more) (pin : Pin) :
    exact.declared fewer pin ≤ exact.declared more pin := by
  rw [exact_declared, exact_declared, twentieths_le]
  simp only [twentieths]
  omega

theorem exact_used_mono {fewer more : Nat} (grows : fewer ≤ more) :
    exact.used fewer ≤ exact.used more := by
  rw [exact_used, exact_used, twentieths_le]
  simp only [twentieths]
  omega

theorem exact_heuristic_mono {fewer more : Nat} (grows : fewer ≤ more) :
    exact.heuristic fewer ≤ exact.heuristic more := by
  rw [exact_heuristic, exact_heuristic, twentieths_le]
  simp only [twentieths]
  omega

theorem exact_declaredOnly_le_declared (count : Nat) (pin : Pin) :
    exact.declaredOnly ≤ exact.declared count pin := by
  have four : exact.declaredOnly = ((4 : Nat) : ℚ) / 20 := by
    change (0.2 : ℚ) = _
    norm_num
  rw [four, exact_declared, twentieths_le]
  simp only [twentieths]
  omega

end Scoring

/-! ### One framework in more files -/

/-- How the match of a framework goes on in more files. -/
structure FrameworkMatch.GrowsTo (found later : FrameworkMatch ℚ) : Prop where
  framework : later.framework = found.framework
  version : later.version = found.version
  confidence : found.confidence ≤ later.confidence
  evidence : found.evidence <+: later.evidence

theorem matchFramework_grows {manifest : Option Manifest} {evidence : List Evidence}
    {signature : Signature} {found : FrameworkMatch ℚ}
    (matched : matchFramework Scoring.exact manifest evidence signature = some found)
    (more : List Evidence) :
    ∃ later, matchFramework Scoring.exact manifest (evidence ++ more) signature = some later ∧
      found.GrowsTo later := by
  have longer : evidence.length ≤ (evidence ++ more).length := by
    rw [List.length_append]
    omega
  have ahead : evidence <+: evidence ++ more := List.prefix_append evidence more
  cases manifest with
  | none =>
      simp only [matchFramework] at matched ⊢
      cases evidence with
      | nil => cases matched
      | cons site sites =>
          cases matched
          exact ⟨_, rfl, rfl, rfl, Scoring.exact_heuristic_mono longer, ahead⟩
  | some read =>
      cases declared : read.declaration? signature with
      | none =>
          simp only [matchFramework, declared] at matched ⊢
          cases evidence with
          | nil => cases matched
          | cons site sites =>
              cases matched
              exact ⟨_, rfl, rfl, rfl, Scoring.exact_used_mono longer, ahead⟩
      | some specifier =>
          simp only [matchFramework, declared] at matched ⊢
          cases evidence with
          | cons site sites =>
              cases matched
              exact ⟨_, rfl, rfl, rfl, Scoring.exact_declared_mono longer _, ahead⟩
          | nil =>
              cases matched
              -- What was only declared may be imported in the new files.
              cases more with
              | nil => exact ⟨_, rfl, rfl, rfl, le_rfl, ahead⟩
              | cons site sites =>
                  exact ⟨_, rfl, rfl, rfl, Scoring.exact_declaredOnly_le_declared _ _, ahead⟩

theorem collectEvidence_append (signature : Signature) (files more : List SourceFile) :
    collectEvidence signature (files ++ more) =
      collectEvidence signature files ++ collectEvidence signature more :=
  List.flatMap_append

/-! ### The order of the matches -/

namespace FrameworkMatch

def ComesBefore (left right : FrameworkMatch ℚ) : Prop :=
  right.confidence < left.confidence ∨
    (left.confidence = right.confidence ∧ left.framework < right.framework)

def key (found : FrameworkMatch ℚ) : ℚᵒᵈ ×ₗ String :=
  toLex (OrderDual.toDual found.confidence, found.framework)

theorem key_le_iff {left right : FrameworkMatch ℚ} :
    left.key ≤ right.key ↔ right.confidence < left.confidence ∨
      (left.confidence = right.confidence ∧ left.framework ≤ right.framework) :=
  Prod.Lex.toLex_le_toLex

theorem precedes_iff_key {left right : FrameworkMatch ℚ} :
    left.precedes Scoring.exact right = true ↔ left.key ≤ right.key := by
  have higher (x y : ℚ) : Scoring.exact.higher x y = decide (y < x) := rfl
  rw [key_le_iff, precedes, higher, higher]
  rcases lt_trichotomy left.confidence right.confidence with less | same | more
  · simp [less, less.not_gt, less.ne]
  · simp [same]
  · simp [more]

theorem comesBefore_of_key_le {left right : FrameworkMatch ℚ} (ordered : left.key ≤ right.key)
    (differ : left.framework ≠ right.framework) : left.ComesBefore right := by
  rcases key_le_iff.mp ordered with higher | ⟨same, named⟩
  · exact Or.inl higher
  · exact Or.inr ⟨same, lt_of_le_of_ne named differ⟩

end FrameworkMatch

section Catalogs

variable {catalog : Catalog} (manifest : Except ManifestError Manifest) (files : List SourceFile)

theorem detect_ordered : (detect Scoring.exact catalog manifest files).found.Pairwise
    fun left right => left.key ≤ right.key := by
  have trans (a b c : FrameworkMatch ℚ) (first : a.precedes Scoring.exact b = true)
      (second : b.precedes Scoring.exact c = true) : a.precedes Scoring.exact c = true := by
    rw [FrameworkMatch.precedes_iff_key] at first second ⊢
    exact first.trans second
  have total (a b : FrameworkMatch ℚ) :
      (a.precedes Scoring.exact b || b.precedes Scoring.exact a) = true := by
    rw [Bool.or_eq_true, FrameworkMatch.precedes_iff_key, FrameworkMatch.precedes_iff_key]
    exact le_total a.key b.key
  exact (List.pairwise_mergeSort trans total _).imp fun early =>
    FrameworkMatch.precedes_iff_key.mp early

variable (distinct : (catalog.signatures.map Signature.name).Nodup)

include distinct

theorem detect_names_nodup :
    ((detect Scoring.exact catalog manifest files).found.map FrameworkMatch.framework).Nodup := by
  have named := (detect_grades_of_fits Scoring.exact_fits catalog manifest files).names
  rw [named.nodup_iff]
  exact distinct.sublist (List.filter_sublist.map Signature.name)

theorem detect_pairwise : (detect Scoring.exact catalog manifest files).found.Pairwise
    FrameworkMatch.ComesBefore := by
  have apart := List.pairwise_map.mp (detect_names_nodup manifest files distinct)
  exact (detect_ordered manifest files).imp₂ (fun _ _ => FrameworkMatch.comesBefore_of_key_le) apart

theorem detect_eq_of_perm {shuffled : Catalog}
    (same : shuffled.signatures.Perm catalog.signatures) :
    detect Scoring.exact shuffled manifest files = detect Scoring.exact catalog manifest files := by
  have sameMatches : (detect Scoring.exact shuffled manifest files).found.Perm
      (detect Scoring.exact catalog manifest files).found :=
    (List.mergeSort_perm _ _).trans ((same.filterMap _).trans (List.mergeSort_perm _ _).symm)
  have found : (detect Scoring.exact shuffled manifest files).found =
      (detect Scoring.exact catalog manifest files).found := by
    apply List.Perm.eq_of_pairwise _ (detect_ordered manifest files) (detect_ordered manifest files)
      sameMatches
    intro left right leftMember rightMember early late
    -- Matches with the same key have the same name, and only one match has it.
    have named : left.framework = right.framework :=
      congrArg (fun key => (ofLex key).2) (le_antisymm early late)
    exact List.inj_on_of_nodup_map (detect_names_nodup manifest files distinct)
      (sameMatches.subset leftMember) rightMember named
  exact congrArg (Detection.mk · _) found

end Catalogs

/-- What is found in some files is found in more files, with the same version, no lower score and the
evidence continued; and what is found is in strict order, whatever the order of the catalog. -/
theorem detect_grows {catalog : Catalog}
    (distinct : (catalog.signatures.map Signature.name).Nodup)
    (manifest : Except ManifestError Manifest) (files more : List SourceFile) :
    (∀ found ∈ (detect Scoring.exact catalog manifest files).found,
      (∃ later ∈ (detect Scoring.exact catalog manifest (files ++ more)).found,
        later.framework = found.framework) ∧
      ∀ later ∈ (detect Scoring.exact catalog manifest (files ++ more)).found,
        later.framework = found.framework → found.GrowsTo later) ∧
    (detect Scoring.exact catalog manifest files).found.Pairwise FrameworkMatch.ComesBefore ∧
    ∀ shuffled : Catalog, shuffled.signatures.Perm catalog.signatures →
      detect Scoring.exact shuffled manifest files = detect Scoring.exact catalog manifest files := by
  refine ⟨?_, detect_pairwise manifest files distinct, ?_⟩
  · intro found member
    obtain ⟨signature, known, matched⟩ := mem_detect.mp member
    obtain ⟨later, continued, grows⟩ :=
      matchFramework_grows matched (collectEvidence signature more)
    rw [← collectEvidence_append] at continued
    have present : later ∈ (detect Scoring.exact catalog manifest (files ++ more)).found :=
      mem_detect.mpr ⟨signature, known, continued⟩
    constructor
    · exact ⟨later, present, grows.framework⟩
    · intro other listed same
      have single : other = later := List.inj_on_of_nodup_map
        (detect_names_nodup manifest (files ++ more) distinct) listed present
        (same.trans grows.framework.symm)
      rw [single]
      exact grows
  · intro shuffled same
    exact detect_eq_of_perm manifest files distinct same

def graphManifest : Manifest :=
  .ofRequirements [⟨"langgraph", ">=0.2"⟩]

def graphSignature : Signature :=
  { name := "langgraph", packages := ["langgraph"], modules := ["langgraph"] }

def pairCatalog : Catalog :=
  { signatures := graphSignature :: crewCatalog.signatures }

def graphFile : SourceFile :=
  .ofText ⟨"b.py"⟩ "from langgraph.graph import StateGraph\n".toList

theorem detect_grows_declared :
    (pairCatalog.signatures.map Signature.name).Nodup ∧
      ∃ found ∈ (detect Scoring.exact pairCatalog (.ok graphManifest) [crewFile]).found,
        ∃ later ∈ (detect Scoring.exact pairCatalog (.ok graphManifest)
          ([crewFile] ++ [graphFile])).found,
          found.GrowsTo later ∧ found.confidence = 0.2 ∧ later.confidence = 0.8 := by
  have distinct : (pairCatalog.signatures.map Signature.name).Nodup := by decide
  have before : (matchFramework Scoring.exact (some graphManifest)
      (collectEvidence graphSignature [crewFile]) graphSignature).map
        (fun found => (found.framework, found.confidence)) = some ("langgraph", 0.2) := by
    decide +kernel
  have after : (matchFramework Scoring.exact (some graphManifest)
      (collectEvidence graphSignature ([crewFile] ++ [graphFile])) graphSignature).map
        (fun found => (found.framework, found.confidence)) = some ("langgraph", 0.8) := by
    decide +kernel
  obtain ⟨found, matched, low⟩ := Option.map_eq_some_iff.mp before
  obtain ⟨later, continued, high⟩ := Option.map_eq_some_iff.mp after
  rw [Prod.mk.injEq] at low high
  have member : found ∈ (detect Scoring.exact pairCatalog (.ok graphManifest) [crewFile]).found :=
    mem_detect.mpr ⟨graphSignature, List.mem_cons_self, matched⟩
  have present : later ∈ (detect Scoring.exact pairCatalog (.ok graphManifest)
      ([crewFile] ++ [graphFile])).found :=
    mem_detect.mpr ⟨graphSignature, List.mem_cons_self, continued⟩
  have grows := (detect_grows distinct (.ok graphManifest) [crewFile] [graphFile]).1 found member
  exact ⟨distinct, found, member, later, present,
    grows.2 later present (high.1.trans low.1.symm), low.2, high.2⟩

end AgentProbe
