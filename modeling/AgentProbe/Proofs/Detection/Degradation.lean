import Mathlib.Data.List.Nodup
import AgentProbe.Proofs.Detection.Grading

set_option autoImplicit false

/-!
What detection makes of a project whose manifest is lost.

Whatever is found by imports alone is found beside every manifest.  A declaration scores higher than
any number of imports.  Without one, a single import counts the same either way; from the second on,
the score without a manifest is the higher one, by at most a tenth.
-/

namespace AgentProbe

namespace Scoring

theorem exact_heuristic_le_declared (count : Nat) (pin : Pin) :
    exact.heuristic count ≤ exact.declared count pin := by
  rw [exact_heuristic, exact_declared, twentieths_le]
  simp only [twentieths, evidenceLimit]
  omega

theorem exact_heuristic_le_used (count : Nat) :
    exact.heuristic count ≤ exact.used count ↔ count ≤ 1 := by
  rw [exact_heuristic, exact_used, twentieths_le]
  simp only [twentieths, evidenceLimit]
  omega

theorem exact_heuristic_le_used_add (count : Nat) :
    exact.heuristic count ≤ exact.used count + 0.1 := by
  have tenth : (0.1 : ℚ) = ((2 : Nat) : ℚ) / 20 := by norm_num
  rw [exact_heuristic, exact_used, tenth, ← add_div, ← Nat.cast_add, twentieths_le]
  simp only [twentieths, evidenceLimit]
  omega

end Scoring

/-! ### One framework -/

theorem matchFramework_framework {σ : Type} {scoring : Scoring σ} {manifest : Option Manifest}
    {evidence : List Evidence} {signature : Signature} {found : FrameworkMatch σ}
    (matched : matchFramework scoring manifest evidence signature = some found) :
    found.framework = signature.name := by
  simp only [matchFramework] at matched
  split at matched <;> split at matched <;> cases matched <;> rfl

/-- How the match of a framework beside a manifest compares with the one without. -/
structure FrameworkMatch.Degrades (graded degraded : FrameworkMatch ℚ) : Prop where
  framework : graded.framework = degraded.framework
  evidence : graded.evidence = degraded.evidence
  keeps : degraded.confidence ≤ graded.confidence ↔
    graded.basis = .declaredAndUsed ∨ degraded.evidence.length = 1
  rises : degraded.confidence ≤ graded.confidence + 0.1

theorem matchFramework_degrades (manifest : Manifest) {evidence : List Evidence}
    {signature : Signature} {degraded : FrameworkMatch ℚ}
    (found : matchFramework Scoring.exact none evidence signature = some degraded) :
    ∃ graded, matchFramework Scoring.exact (some manifest) evidence signature = some graded ∧
      graded.Degrades degraded := by
  simp only [matchFramework] at found ⊢
  cases evidence with
  | nil => cases found
  | cons site sites =>
      cases found
      cases manifest.declaration? signature with
      | some specifier =>
          refine ⟨_, rfl, rfl, rfl, ?_, ?_⟩
          · constructor
            · intro _
              exact Or.inl rfl
            · intro _
              apply Scoring.exact_heuristic_le_declared
          · apply le_add_of_le_of_nonneg
            · apply Scoring.exact_heuristic_le_declared
            · norm_num
      | none =>
          refine ⟨_, rfl, rfl, rfl, ?_, ?_⟩
          · apply (Scoring.exact_heuristic_le_used _).trans
            constructor
            · intro single
              exact Or.inr (Nat.le_antisymm single (Nat.succ_le_succ (Nat.zero_le _)))
            · rintro (impossible | single)
              · cases impossible
              · exact Nat.le_of_eq single
          · apply Scoring.exact_heuristic_le_used_add

/-! ### A whole catalog -/

theorem mem_detect {σ : Type} {scoring : Scoring σ} {catalog : Catalog}
    {manifest : Except ManifestError Manifest} {files : List SourceFile} {found : FrameworkMatch σ} :
    found ∈ (detect scoring catalog manifest files).found ↔
      ∃ signature ∈ catalog.signatures,
        matchFramework scoring manifest.toOption (collectEvidence signature files) signature =
          some found := by
  exact (List.mergeSort_perm _ _).mem_iff.trans List.mem_filterMap

/-- Losing the manifest loses no framework that is imported.  Its score falls or stays exactly if the
manifest declares the framework or a single import speaks for it. -/
theorem detect_without_manifest {catalog : Catalog}
    (distinct : (catalog.signatures.map Signature.name).Nodup) (manifest : Manifest)
    (error : ManifestError) (files : List SourceFile) :
    ∀ degraded ∈ (detect Scoring.exact catalog (.error error) files).found,
      (∃ graded ∈ (detect Scoring.exact catalog (.ok manifest) files).found,
        graded.framework = degraded.framework) ∧
      ∀ graded ∈ (detect Scoring.exact catalog (.ok manifest) files).found,
        graded.framework = degraded.framework → graded.Degrades degraded := by
  intro degraded member
  obtain ⟨signature, known, found⟩ := mem_detect.mp member
  obtain ⟨graded, matched, degrades⟩ := matchFramework_degrades manifest found
  constructor
  · exact ⟨graded, mem_detect.mpr ⟨signature, known, matched⟩, degrades.framework⟩
  · intro other present same
    obtain ⟨rival, alsoKnown, rivalMatched⟩ := mem_detect.mp present
    -- Names are distinct, so both matches are made from one signature.
    have named : rival.name = signature.name := by
      rw [← matchFramework_framework rivalMatched, same, matchFramework_framework found]
    have single : rival = signature := List.inj_on_of_nodup_map distinct alsoKnown known named
    subst single
    cases matched.symm.trans rivalMatched
    exact degrades

def crewCatalog : Catalog :=
  { signatures := [{ name := "crewai", packages := ["crewai"], modules := ["crewai"] }] }

def crewFile : SourceFile :=
  .ofText ⟨"a.py"⟩ "import crewai\nfrom crewai import Crew\n".toList

theorem detect_without_manifest_twice :
    (crewCatalog.signatures.map Signature.name).Nodup ∧
      ∃ degraded ∈ (detect Scoring.exact crewCatalog (.error (.reported "none")) [crewFile]).found,
        ∃ graded ∈ (detect Scoring.exact crewCatalog (.ok {}) [crewFile]).found,
          graded.Degrades degraded ∧ graded.confidence = 0.25 ∧ degraded.confidence = 0.3 := by
  have distinct : (crewCatalog.signatures.map Signature.name).Nodup := by decide
  have without : (detect Scoring.exact crewCatalog (.error (.reported "none")) [crewFile]).found.map
      (fun found => (found.framework, found.confidence)) = [("crewai", 0.3)] := by
    decide +kernel
  have beside : (detect Scoring.exact crewCatalog (.ok {}) [crewFile]).found.map
      (fun found => (found.framework, found.confidence)) = [("crewai", 0.25)] := by
    decide +kernel
  obtain ⟨degraded, onlyDegraded, low⟩ := List.map_eq_singleton_iff.mp without
  obtain ⟨graded, onlyGraded, high⟩ := List.map_eq_singleton_iff.mp beside
  have degradedMember : degraded ∈
      (detect Scoring.exact crewCatalog (.error (.reported "none")) [crewFile]).found := by
    rw [onlyDegraded]
    exact List.mem_cons_self
  have gradedMember : graded ∈ (detect Scoring.exact crewCatalog (.ok {}) [crewFile]).found := by
    rw [onlyGraded]
    exact List.mem_cons_self
  rw [Prod.mk.injEq] at low high
  obtain ⟨_, degrades⟩ := detect_without_manifest distinct {} _ _ degraded degradedMember
  exact ⟨distinct, degraded, degradedMember, graded, gradedMember,
    degrades graded gradedMember (high.1.trans low.1.symm), high.2, low.2⟩

end AgentProbe
