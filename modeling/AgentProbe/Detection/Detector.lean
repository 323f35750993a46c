import AgentProbe.Detection.Confidence
import AgentProbe.Detection.Manifest
import AgentProbe.Files.Source

set_option autoImplicit false

/-!
Detection of frameworks: declarations in the manifest against imports in the code.

Only a framework that is both declared and imported is a full match; either half alone scores lower.
Without a manifest the imports alone decide, with a lower limit still.
-/

namespace AgentProbe

structure Evidence where
  file : Path
  line : Nat
  /-- The first line of the import. -/
  snippet : String
deriving DecidableEq, Repr, Inhabited

structure FrameworkMatch (σ : Type) where
  framework : String
  /-- The declared specifier, `*` if there is none. -/
  version : String
  evidence : List Evidence
  confidence : σ
  basis : Basis
deriving DecidableEq, Repr, Inhabited

namespace FrameworkMatch

def isFull {σ : Type} (found : FrameworkMatch σ) : Bool :=
  found.basis == .declaredAndUsed

def evidenceIn {σ : Type} (found : FrameworkMatch σ) (file : Path) : List Evidence :=
  found.evidence.filter fun site => site.file.same file

/-- Whether a match does not come after another: by falling score, then by name. -/
def precedes {σ : Type} (scoring : Scoring σ) (left right : FrameworkMatch σ) : Bool :=
  if scoring.higher left.confidence right.confidence then true
  else if scoring.higher right.confidence left.confidence then false
  else left.framework ≤ right.framework

end FrameworkMatch

/-- The evidence in the imports of a file; a line counts once. -/
def evidenceOfImports (signature : Signature) (file : Path) (lines : List Nat) :
    List Syntax.Import → List Evidence
  | [] => []
  | entry :: imports =>
    if signature.matchesModule entry.module && !lines.contains entry.line then
      ⟨file, entry.line, String.ofList (Text.headline entry.text.toList)⟩
        :: evidenceOfImports signature file (entry.line :: lines) imports
    else evidenceOfImports signature file lines imports

def evidenceOf (signature : Signature) (file : SourceFile) : List Evidence :=
  evidenceOfImports signature file.path [] file.tree.imports

def collectEvidence (signature : Signature) (files : List SourceFile) : List Evidence :=
  files.flatMap (evidenceOf signature)

def Manifest.declaration? (manifest : Manifest) (signature : Signature) : Option String :=
  (manifest.packages.find? fun package => signature.matchesPackage package.1).map Prod.snd

def matchFramework {σ : Type} (scoring : Scoring σ) (manifest : Option Manifest)
    (evidence : List Evidence) (signature : Signature) : Option (FrameworkMatch σ) :=
  let framework := signature.name
  match manifest with
  | none =>
    if evidence.isEmpty then none
    else some {
      framework, version := "*", evidence, confidence := scoring.heuristic evidence.length
      basis := .heuristic }
  | some manifest =>
    match manifest.declaration? signature, evidence.isEmpty with
    | some specifier, false => some {
        framework, version := specifier, evidence
        confidence := scoring.declared evidence.length (Pin.ofSpecifier specifier)
        basis := .declaredAndUsed }
    | some specifier, true => some {
        framework, version := specifier, evidence, confidence := scoring.declaredOnly
        basis := .declarationOnly }
    | none, false => some {
        framework, version := "*", evidence, confidence := scoring.used evidence.length
        basis := .usageOnly }
    | none, true => none

structure Detection (σ : Type) where
  /-- The matches by falling score, then by name. -/
  found : List (FrameworkMatch σ) := []
  /-- Why there was no manifest. -/
  manifestError : Option ManifestError := none
deriving Inhabited

def detect {σ : Type} (scoring : Scoring σ) (catalog : Catalog)
    (manifest : Except ManifestError Manifest) (files : List SourceFile) : Detection σ :=
  { found := (catalog.signatures.filterMap fun signature =>
      matchFramework scoring manifest.toOption (collectEvidence signature files) signature).mergeSort
        (FrameworkMatch.precedes scoring)
    manifestError := match manifest with
      | .ok _ => none
      | .error error => some error }

end AgentProbe
