import Mathlib.Algebra.Order.Field.Rat
import Mathlib.Tactic.NormNum
import Mathlib.Tactic.Ring
import AgentProbe.Detection.Detector
import AgentProbe.Proofs.Data.Keyed

set_option autoImplicit false

/-!
How sure detection is of what it finds.

The formulas of the scores are the same over all numbers, so that they can be read as exact
rationals.  Either way a score lies between zero and one, and it reaches the threshold exactly if the
framework is both declared and imported.  A framework is found exactly if it is declared or imported.
-/

namespace AgentProbe

/-! ### Scores over any numbers -/

namespace Scoring

section

variable {σ : Type} [OfScientific σ] [Add σ] [Mul σ] [LE σ] [DecidableLE σ] [LT σ] [DecidableLT σ]

def lesserOf (x y : σ) : σ :=
  if x ≤ y then x else y

def pinScoreOf : Pin → σ
  | .free => 0.0
  | .ranged => 0.05
  | .exact => 0.1

/-- The formulas of the scores, given the numbers that counts stand for. -/
def formula (ofCount : Nat → σ) : Scoring σ where
  declared count pin :=
    lesserOf (0.7 + ofCount (min count evidenceLimit) * 0.05 + pinScoreOf pin) 1.0
  used count := lesserOf (0.15 + 0.05 * ofCount (min count evidenceLimit)) 0.45
  declaredOnly := 0.2
  heuristic count := lesserOf (0.1 + 0.1 * ofCount (min count evidenceLimit)) 0.4
  higher x y := y < x

end

theorem floating_eq_formula : floating = formula Float.ofNat := rfl

def exact : Scoring ℚ :=
  formula fun count => (count : ℚ)

theorem twentieths_le (left right : Nat) :
    (left : ℚ) / 20 ≤ (right : ℚ) / 20 ↔ left ≤ right := by
  have positive : (0 : ℚ) < 20 := by norm_num
  rw [div_le_div_iff_of_pos_right positive, Nat.cast_le]

private theorem lesserOf_twentieths (left right : Nat) :
    lesserOf ((left : ℚ) / 20) ((right : ℚ) / 20) = ((min left right : Nat) : ℚ) / 20 := by
  unfold lesserOf
  rw [Nat.min_def]
  by_cases below : left ≤ right
  · rw [if_pos ((twentieths_le left right).mpr below), if_pos below]
  · rw [if_neg (fun above => below ((twentieths_le left right).mp above)), if_neg below]

/-- A score that grows by a step for each count, from a base up to a cap. -/
private theorem capped_twentieths {base step cap : ℚ} {units stepUnits capUnits : Nat}
    (start : base = (units : ℚ) / 20) (grows : step = (stepUnits : ℚ) / 20)
    (capped : cap = (capUnits : ℚ) / 20) (count : Nat) :
    lesserOf (base + step * (count : ℚ)) cap =
      ((min (units + stepUnits * count) capUnits : Nat) : ℚ) / 20 := by
  have sum : base + step * (count : ℚ) = ((units + stepUnits * count : Nat) : ℚ) / 20 := by
    rw [start, grows]
    push_cast
    ring
  rw [sum, capped, lesserOf_twentieths]

private theorem fiveHundredths : (0.05 : ℚ) = ((1 : Nat) : ℚ) / 20 := by norm_num

theorem exact_declared (count : Nat) (pin : Pin) :
    exact.declared count pin = (twentieths.declared count pin : ℚ) / 20 := by
  have base : 0.7 + pinScoreOf pin = ((14 + pinTwentieths pin : Nat) : ℚ) / 20 := by
    cases pin <;> simp only [pinScoreOf, pinTwentieths] <;> norm_num
  have score := capped_twentieths base fiveHundredths
    (by norm_num : (1.0 : ℚ) = ((20 : Nat) : ℚ) / 20) (min count evidenceLimit)
  have order : (0.7 + ((min count evidenceLimit : Nat) : ℚ) * 0.05 + pinScoreOf pin : ℚ) =
      0.7 + pinScoreOf pin + 0.05 * ((min count evidenceLimit : Nat) : ℚ) := by ring
  change lesserOf (0.7 + ((min count evidenceLimit : Nat) : ℚ) * 0.05 + pinScoreOf pin) (1.0 : ℚ) = _
  rw [order, score, Nat.one_mul, Nat.add_right_comm]
  rfl

theorem exact_used (count : Nat) : exact.used count = (twentieths.used count : ℚ) / 20 := by
  have score := capped_twentieths (by norm_num : (0.15 : ℚ) = ((3 : Nat) : ℚ) / 20) fiveHundredths
    (by norm_num : (0.45 : ℚ) = ((9 : Nat) : ℚ) / 20) (min count evidenceLimit)
  rw [Nat.one_mul] at score
  exact score

theorem exact_heuristic (count : Nat) :
    exact.heuristic count = (twentieths.heuristic count : ℚ) / 20 :=
  capped_twentieths (by norm_num : (0.1 : ℚ) = ((2 : Nat) : ℚ) / 20)
    (by norm_num : (0.1 : ℚ) = ((2 : Nat) : ℚ) / 20)
    (by norm_num : (0.4 : ℚ) = ((8 : Nat) : ℚ) / 20) (min count evidenceLimit)

end Scoring

/-! ### Scores that fit what a match is based on -/

/-- A score that fits a basis: between zero and one, below the threshold unless the framework is
declared and used, and within the cap of the basis. -/
def Basis.Fits {σ : Type} [OfScientific σ] [LE σ] (basis : Basis) (score : σ) : Prop :=
  0.0 ≤ score ∧ score ≤ 1.0 ∧ (0.7 ≤ score ↔ basis = .declaredAndUsed) ∧
    (basis = .usageOnly → score ≤ 0.45) ∧ (basis = .declarationOnly → score = 0.2) ∧
    (basis = .heuristic → score ≤ 0.4)

namespace Scoring

structure Fits {σ : Type} [OfScientific σ] [LE σ] (scoring : Scoring σ) : Prop where
  declared : ∀ count pin, Basis.declaredAndUsed.Fits (scoring.declared count pin)
  used : ∀ count, Basis.usageOnly.Fits (scoring.used count)
  declaredOnly : Basis.declarationOnly.Fits scoring.declaredOnly
  heuristic : ∀ count, Basis.heuristic.Fits (scoring.heuristic count)

private theorem fits_twentieths {basis : Basis} {score : Nat} (below : score ≤ 20)
    (threshold : 14 ≤ score ↔ basis = .declaredAndUsed)
    (used : basis = .usageOnly → score ≤ 9) (only : basis = .declarationOnly → score = 4)
    (heuristic : basis = .heuristic → score ≤ 8) : basis.Fits ((score : ℚ) / 20) := by
  have zero : (0.0 : ℚ) = ((0 : Nat) : ℚ) / 20 := by norm_num
  have one : (1.0 : ℚ) = ((20 : Nat) : ℚ) / 20 := by norm_num
  have reached : (0.7 : ℚ) = ((14 : Nat) : ℚ) / 20 := by norm_num
  have usedCap : (0.45 : ℚ) = ((9 : Nat) : ℚ) / 20 := by norm_num
  have declaredOnly : (0.2 : ℚ) = ((4 : Nat) : ℚ) / 20 := by norm_num
  have heuristicCap : (0.4 : ℚ) = ((8 : Nat) : ℚ) / 20 := by norm_num
  unfold Basis.Fits
  rw [zero, one, reached, usedCap, declaredOnly, heuristicCap]
  simp only [twentieths_le]
  refine ⟨Nat.zero_le score, below, threshold, used, ?_, heuristic⟩
  intro same
  rw [only same]

theorem exact_fits : exact.Fits := by
  constructor
  · intro count pin
    rw [exact_declared]
    apply fits_twentieths
    · exact Nat.min_le_right _ _
    · simp only [twentieths, iff_true]
      omega
    · intro impossible
      cases impossible
    · intro impossible
      cases impossible
    · intro impossible
      cases impossible
  · intro count
    rw [exact_used]
    have cap : twentieths.used count ≤ 9 := Nat.min_le_right _ _
    apply fits_twentieths
    · omega
    · simp only [reduceCtorEq, iff_false]
      omega
    · intro _
      exact cap
    · intro impossible
      cases impossible
    · intro impossible
      cases impossible
  · have four : exact.declaredOnly = ((4 : Nat) : ℚ) / 20 := by
      change (0.2 : ℚ) = _
      norm_num
    rw [four]
    apply fits_twentieths <;> decide
  · intro count
    rw [exact_heuristic]
    have cap : twentieths.heuristic count ≤ 8 := Nat.min_le_right _ _
    apply fits_twentieths
    · omega
    · simp only [reduceCtorEq, iff_false]
      omega
    · intro impossible
      cases impossible
    · intro impossible
      cases impossible
    · intro _
      exact cap

/-- Only five counts are told apart, so that the floating-point scores can be gone through. -/
theorem floating_fits : floating.Fits := by
  have few (count : Nat) : min count evidenceLimit ∈ [0, 1, 2, 3, 4] := by
    have limit : min count evidenceLimit ≤ 4 := Nat.min_le_right _ _
    simp only [List.mem_cons, List.not_mem_nil]
    omega
  constructor
  · intro count pin
    have all : ∀ pin ∈ [Pin.free, .ranged, .exact], ∀ counted ∈ [0, 1, 2, 3, 4],
        Basis.declaredAndUsed.Fits
          (lesser (0.7 + Float.ofNat counted * 0.05 + pinScore pin) 1.0) := by
      unfold Basis.Fits
      decide +kernel
    have known : pin ∈ [Pin.free, .ranged, .exact] := by cases pin <;> decide
    exact all pin known _ (few count)
  · intro count
    have all : ∀ counted ∈ [0, 1, 2, 3, 4],
        Basis.usageOnly.Fits (lesser (0.15 + 0.05 * Float.ofNat counted) 0.45) := by
      unfold Basis.Fits
      decide +kernel
    exact all _ (few count)
  · unfold Basis.Fits
    decide +kernel
  · intro count
    have all : ∀ counted ∈ [0, 1, 2, 3, 4],
        Basis.heuristic.Fits (lesser (0.1 + 0.1 * Float.ofNat counted) 0.4) := by
      unfold Basis.Fits
      decide +kernel
    exact all _ (few count)

end Scoring

/-! ### Declarations and imports -/

/-- Whether a manifest was read and declares a package of the framework, by any spelling of its
name. -/
def Signature.isDeclaredIn (signature : Signature) (manifest : Except ManifestError Manifest) :
    Bool :=
  match manifest with
  | .ok read => signature.packages.any fun package => (read.get? package).isSome
  | .error _ => false

def Signature.isImportedIn (signature : Signature) (files : List SourceFile) : Bool :=
  files.any fun file => file.tree.imports.any fun entry => signature.modules.any entry.isFromPackage

theorem Manifest.declaration?_isSome (manifest : Manifest) (signature : Signature) :
    (manifest.declaration? signature).isSome = signature.isDeclaredIn (.ok manifest) := by
  rw [Bool.eq_iff_iff, declaration?, Option.isSome_map, List.find?_isSome]
  simp only [Signature.isDeclaredIn, Signature.matchesPackage, Manifest.get?, List.any_eq_true,
    List.lookup_isSome_iff]
  constructor
  · rintro ⟨entry, listed, package, own, same⟩
    exact ⟨package, own, entry, listed, same⟩
  · rintro ⟨package, own, entry, listed, same⟩
    exact ⟨entry, listed, package, own, same⟩

private theorem mem_insertAll (manifest : Manifest) (requirements : List Requirement)
    (other : String) :
    other ∈ (manifest.insertAll requirements).packages.map Prod.fst ↔
      other ∈ requirements.map (fun requirement => normalizePackage requirement.name) ∨
        other ∈ manifest.packages.map Prod.fst := by
  induction requirements generalizing manifest with
  | nil => simp [Manifest.insertAll]
  | cons requirement requirements ih =>
      have inserted := Keyed.mem_keys_insert (normalizePackage requirement.name)
        requirement.specifier other manifest.packages
      have rest := ih (manifest.insert requirement)
      rw [List.map_cons, List.mem_cons]
      refine rest.trans ((or_congr_right inserted).trans ?_)
      exact or_left_comm.trans or_assoc.symm

/-- In a manifest that was made of requirements, both sides are compared by their normalized
names. -/
theorem isDeclaredIn_ofRequirements (signature : Signature) (requirements : List Requirement) :
    signature.isDeclaredIn (.ok (Manifest.ofRequirements requirements)) = true ↔
      ∃ requirement ∈ requirements, ∃ package ∈ signature.packages,
        normalizePackage requirement.name = normalizePackage package := by
  have listed (package : String) :
      ((Manifest.ofRequirements requirements).get? package).isSome = true ↔
        ∃ requirement ∈ requirements,
          normalizePackage requirement.name = normalizePackage package := by
    have names := mem_insertAll {} requirements (normalizePackage package)
    rw [List.map_nil, List.mem_map, List.mem_map] at names
    rw [Manifest.get?, List.lookup_isSome_iff]
    simp only [beq_iff_eq, eq_comm (a := normalizePackage package)]
    exact names.trans (or_iff_left List.not_mem_nil)
  simp only [Signature.isDeclaredIn, List.any_eq_true, listed]
  constructor
  · rintro ⟨package, own, requirement, present, same⟩
    exact ⟨requirement, present, package, own, same⟩
  · rintro ⟨requirement, present, package, own, same⟩
    exact ⟨package, own, requirement, present, same⟩

private theorem evidenceOfImports_eq_nil (signature : Signature) (path : Path) (lines : List Nat)
    (imports : List Syntax.Import) :
    evidenceOfImports signature path lines imports = [] ↔
      ∀ entry ∈ imports, signature.matchesModule entry.module = true →
        lines.contains entry.line = true := by
  induction imports with
  | nil => simp [evidenceOfImports]
  | cons entry imports ih =>
      rw [evidenceOfImports]
      by_cases counts :
          (signature.matchesModule entry.module && !lines.contains entry.line) = true
      · rw [if_pos counts]
        rw [Bool.and_eq_true, Bool.not_eq_true'] at counts
        constructor
        · intro impossible
          cases impossible
        · intro all
          have seen := all entry List.mem_cons_self counts.1
          rw [counts.2] at seen
          cases seen
      · rw [if_neg counts, ih]
        constructor
        · intro rest other member used
          rcases List.mem_cons.mp member with rfl | later
          · by_contra fresh
            rw [Bool.not_eq_true] at fresh
            apply counts
            rw [used, fresh]
            rfl
          · exact rest other later used
        · intro all other member
          exact all other (List.mem_cons_of_mem entry member)

theorem collectEvidence_isEmpty (signature : Signature) (files : List SourceFile) :
    (collectEvidence signature files).isEmpty = !signature.isImportedIn files := by
  have empty : collectEvidence signature files = [] ↔ signature.isImportedIn files = false := by
    rw [collectEvidence, List.flatMap_eq_nil_iff, Signature.isImportedIn, List.any_eq_false]
    apply forall₂_congr
    intro file _
    rw [evidenceOf, evidenceOfImports_eq_nil, Bool.not_eq_true, List.any_eq_false]
    apply forall₂_congr
    intro entry _
    rw [List.contains_nil, Bool.false_eq_true]
    exact Iff.rfl
  rw [Bool.eq_iff_iff, List.isEmpty_iff, empty, Bool.not_eq_true']

/-! ### What is found -/

/-- What a match says of a framework in some files, beside a manifest that may be missing. -/
structure FrameworkMatch.Grades {σ : Type} [OfScientific σ] [LE σ] (signature : Signature)
    (manifest : Except ManifestError Manifest) (files : List SourceFile)
    (found : FrameworkMatch σ) : Prop where
  framework : found.framework = signature.name
  evidence : found.evidence = collectEvidence signature files
  lower : 0.0 ≤ found.confidence
  upper : found.confidence ≤ 1.0
  full : found.basis = .declaredAndUsed ↔
    signature.isDeclaredIn manifest = true ∧ signature.isImportedIn files = true
  threshold : 0.7 ≤ found.confidence ↔ found.basis = .declaredAndUsed
  usageOnly : found.basis = .usageOnly → found.confidence ≤ 0.45
  declarationOnly : found.basis = .declarationOnly → found.confidence = 0.2 ∧ found.evidence = []
  heuristic : ∀ error, manifest = .error error →
    found.basis = .heuristic ∧ found.evidence ≠ [] ∧ found.confidence ≤ 0.4

theorem matchFramework_isSome {σ : Type} (scoring : Scoring σ)
    (manifest : Except ManifestError Manifest) (files : List SourceFile) (signature : Signature) :
    (matchFramework scoring manifest.toOption (collectEvidence signature files) signature).isSome =
      (signature.isDeclaredIn manifest || signature.isImportedIn files) := by
  have imported := collectEvidence_isEmpty signature files
  cases manifest with
  | error error =>
      simp only [Except.toOption, matchFramework, imported, Signature.isDeclaredIn]
      cases signature.isImportedIn files <;> rfl
  | ok read =>
      rw [← read.declaration?_isSome signature]
      simp only [Except.toOption, matchFramework, imported]
      cases read.declaration? signature <;> cases signature.isImportedIn files <;> rfl

section

variable {σ : Type} [OfScientific σ] [LE σ] {scoring : Scoring σ}

theorem matchFramework_grades (fits : scoring.Fits) {manifest : Except ManifestError Manifest}
    {files : List SourceFile} {signature : Signature} {found : FrameworkMatch σ}
    (matched : matchFramework scoring manifest.toOption (collectEvidence signature files) signature =
      some found) : found.Grades signature manifest files := by
  have imported := collectEvidence_isEmpty signature files
  have graded {basis : Basis} {score : σ} (fit : basis.Fits score)
      (same : found.basis = basis ∧ found.confidence = score ∧
        found.framework = signature.name ∧ found.evidence = collectEvidence signature files)
      (full : basis = .declaredAndUsed ↔
        signature.isDeclaredIn manifest = true ∧ signature.isImportedIn files = true)
      (only : basis = .declarationOnly → signature.isImportedIn files = false)
      (without : ∀ error, manifest = .error error →
        basis = .heuristic ∧ signature.isImportedIn files = true) :
      found.Grades signature manifest files := by
    obtain ⟨rfl, rfl, framework, evidence⟩ := same
    obtain ⟨lower, upper, threshold, usageOnly, exactly, heuristic⟩ := fit
    refine ⟨framework, evidence, lower, upper, full, threshold, usageOnly, ?_, ?_⟩
    · intro same
      rw [only same, Bool.not_false, List.isEmpty_iff] at imported
      exact ⟨exactly same, evidence.trans imported⟩
    · intro error unread
      obtain ⟨same, used⟩ := without error unread
      refine ⟨same, ?_, heuristic same⟩
      intro empty
      rw [evidence, ← List.isEmpty_iff, imported, used] at empty
      cases empty
  cases manifest with
  | error error =>
      simp only [Except.toOption, matchFramework] at matched
      split at matched
      · cases matched
      · rename_i some_
        cases matched
        rw [imported, Bool.not_eq_true, Bool.not_eq_false'] at some_
        apply graded (fits.heuristic _) ⟨rfl, rfl, rfl, rfl⟩
        · simp [Signature.isDeclaredIn]
        · intro impossible
          cases impossible
        · intro _ _
          exact ⟨rfl, some_⟩
  | ok read =>
      have declared := read.declaration?_isSome signature
      simp only [Except.toOption, matchFramework, imported] at matched
      have unread (basis : Basis) (error : ManifestError)
          (impossible : (Except.ok read : Except ManifestError Manifest) = .error error) :
          basis = .heuristic ∧ signature.isImportedIn files = true := by
        cases impossible
      cases found : read.declaration? signature with
      | none =>
          rw [found] at matched declared
          cases used : signature.isImportedIn files with
          | false =>
              rw [used] at matched
              cases matched
          | true =>
              rw [used] at matched
              cases matched
              apply graded (fits.used _) ⟨rfl, rfl, rfl, rfl⟩ _ _ (unread _)
              · simp [← declared]
              · intro impossible
                cases impossible
      | some specifier =>
          rw [found] at matched declared
          cases used : signature.isImportedIn files with
          | false =>
              rw [used] at matched
              cases matched
              apply graded fits.declaredOnly ⟨rfl, rfl, rfl, rfl⟩ _ _ (unread _)
              · simp [used]
              · intro _
                exact used
          | true =>
              rw [used] at matched
              cases matched
              apply graded (fits.declared _ _) ⟨rfl, rfl, rfl, rfl⟩ _ _ (unread _)
              · simp [← declared, used]
              · intro impossible
                cases impossible

/-- A detection that finds the frameworks which are declared or imported, each signature once, and
grades them. -/
structure Detection.Grades (catalog : Catalog) (manifest : Except ManifestError Manifest)
    (files : List SourceFile) (detection : Detection σ) : Prop where
  names : (detection.found.map FrameworkMatch.framework).Perm
    ((catalog.signatures.filter fun signature =>
      signature.isDeclaredIn manifest || signature.isImportedIn files).map Signature.name)
  grades : ∀ found ∈ detection.found, ∃ signature ∈ catalog.signatures,
    found.Grades signature manifest files

theorem detect_grades_of_fits (fits : scoring.Fits) (catalog : Catalog)
    (manifest : Except ManifestError Manifest) (files : List SourceFile) :
    (detect scoring catalog manifest files).Grades catalog manifest files := by
  constructor
  · refine ((List.mergeSort_perm _ _).map _).trans (.of_eq ?_)
    induction catalog.signatures with
    | nil => rfl
    | cons signature signatures ih =>
        have yields := matchFramework_isSome scoring manifest files signature
        rw [List.filterMap_cons, List.filter_cons]
        cases matched : matchFramework scoring manifest.toOption (collectEvidence signature files)
            signature with
        | none =>
            rw [matched] at yields
            rw [← yields]
            exact ih
        | some found =>
            rw [matched] at yields
            rw [← yields]
            have named := (matchFramework_grades fits matched).framework
            simp only [Option.isSome_some, if_true, List.map_cons, named, ih]
  · intro found member
    have listed := (List.mergeSort_perm _ _).mem_iff.mp member
    obtain ⟨signature, known, matched⟩ := List.mem_filterMap.mp listed
    exact ⟨signature, known, matchFramework_grades fits matched⟩

end

/-- Detection is graded, with its scores read as exact rationals and with those that a run computes;
and the packages of a manifest are compared with those of a framework by normalized names. -/
theorem detect_grades (catalog : Catalog) (manifest : Except ManifestError Manifest)
    (files : List SourceFile) :
    (detect Scoring.exact catalog manifest files).Grades catalog manifest files ∧
      (detect Scoring.floating catalog manifest files).Grades catalog manifest files ∧
      ∀ (signature : Signature) (requirements : List Requirement),
        signature.isDeclaredIn (.ok (Manifest.ofRequirements requirements)) = true ↔
          ∃ requirement ∈ requirements, ∃ package ∈ signature.packages,
            normalizePackage requirement.name = normalizePackage package :=
  ⟨detect_grades_of_fits Scoring.exact_fits catalog manifest files,
    detect_grades_of_fits Scoring.floating_fits catalog manifest files,
    isDeclaredIn_ofRequirements⟩

end AgentProbe
