import Mathlib.Data.List.Infix
import AgentProbe.Platform.Registry
import AgentProbe.Proofs.Data.Keyed

set_option autoImplicit false

/-!
What becomes of each candidate for the registry.

Whatever the steps are, each candidate is either registered or leaves one diagnostic.  The platform
registered under a name is the first usable candidate with that name, and the diagnostics are those
of all others, in their order.
-/

namespace AgentProbe.Registry

/-! ### Candidates -/

structure Candidate where
  source : String
  outcome : Except RegistryError Platform

namespace Candidate

def platform? (candidate : Candidate) : Option Platform :=
  candidate.outcome.toOption

/-- What is left of a candidate behind some usable platforms, unless it is registered. -/
def diagnostic? (earlier : List Platform) (candidate : Candidate) : Option Skipped :=
  match candidate.outcome with
  | .error reason => some ⟨candidate.source, reason⟩
  | .ok platform =>
    if earlier.any fun other => other.name == platform.name then
      some ⟨candidate.source, .duplicate platform.name⟩
    else none

end Candidate

/-- The embedded descriptors, the descriptor files of a directory, or a platform.  A directory that
is there and cannot be read is a candidate, one that is not there is none. -/
def candidates (files : Disk.Access) : Step → List Candidate
  | .builtins => Platform.builtins.map fun entry => ⟨entry.1, .ok entry.2⟩
  | .directory path =>
    if !files.isDirectory path then []
    else
      match files.list path with
      | .error fault => [⟨path.text, .error (.io fault)⟩]
      | .ok names => (descriptorFiles files path names).map fun file =>
          ⟨file.text, readDescriptor files file⟩
  | .register platform => [⟨platform.name, .ok platform⟩]

def allCandidates (files : Disk.Access) (steps : List Step) : List Candidate :=
  steps.flatMap (candidates files)

def usable (candidates : List Candidate) : List Platform :=
  candidates.filterMap Candidate.platform?

theorem usable_of_none {candidate : Candidate} (invalid : candidate.platform? = none) :
    usable [candidate] = [] := by
  rw [usable, List.filterMap_cons, invalid]
  rfl

theorem usable_of_some {candidate : Candidate} {platform : Platform}
    (valid : candidate.platform? = some platform) : usable [candidate] = [platform] := by
  rw [usable, List.filterMap_cons, valid]
  rfl

def diagnostics (earlier : List Platform) : List Candidate → List Skipped
  | [] => []
  | candidate :: rest =>
    (candidate.diagnostic? earlier).toList ++
      diagnostics (earlier ++ candidate.platform?.toList) rest

theorem usable_append (first second : List Candidate) :
    usable (first ++ second) = usable first ++ usable second :=
  List.filterMap_append

theorem diagnostics_append (earlier : List Platform) (first second : List Candidate) :
    diagnostics earlier (first ++ second) =
      diagnostics earlier first ++ diagnostics (earlier ++ usable first) second := by
  induction first generalizing earlier with
  | nil =>
      rw [usable, List.filterMap_nil, List.append_nil]
      rfl
  | cons candidate first ih =>
      have yields : usable (candidate :: first) = candidate.platform?.toList ++ usable first := by
        rw [usable, List.filterMap_cons]
        cases candidate.platform? <;> rfl
      rw [List.cons_append, diagnostics, diagnostics, ih, yields, List.append_assoc,
        List.append_assoc]

/-! ### One candidate -/

namespace Builder

structure Registers (before : Builder) (candidate : Candidate) (after : Builder) : Prop where
  platform : ∃ platform, candidate.outcome = .ok platform ∧
    before.entries.lookup platform.name = none ∧
    after.entries = Keyed.insert platform.name platform before.entries
  skipped : after.skipped = before.skipped

structure LeavesOut (before : Builder) (candidate : Candidate) (after : Builder) : Prop where
  entries : after.entries = before.entries
  skipped : ∃ reason, after.skipped = before.skipped ++ [⟨candidate.source, reason⟩]

def add (builder : Builder) (candidate : Candidate) : Builder :=
  builder.load candidate.source candidate.outcome

theorem add_of_error {builder : Builder} {candidate : Candidate} {reason : RegistryError}
    (failed : candidate.outcome = .error reason) :
    builder.add candidate = builder.skip candidate.source reason := by
  simp only [add, load, failed]

theorem add_of_taken {builder : Builder} {candidate : Candidate} {platform other : Platform}
    (valid : candidate.outcome = .ok platform)
    (taken : builder.entries.lookup platform.name = some other) :
    builder.add candidate = builder.skip candidate.source (.duplicate platform.name) := by
  have known : builder.contains platform.name = true := by
    rw [contains, taken]
    rfl
  simp only [add, load, valid, known, if_true]

/-- The name is looked up twice, and both times it is free. -/
theorem add_of_free {builder : Builder} {candidate : Candidate} {platform : Platform}
    (valid : candidate.outcome = .ok platform)
    (free : builder.entries.lookup platform.name = none) :
    builder.add candidate =
      { builder with entries := Keyed.insert platform.name platform builder.entries } := by
  have unknown : builder.contains platform.name = false := by
    rw [contains, free]
    rfl
  simp only [add, load, valid, register, unknown, Bool.false_eq_true, if_false]

theorem add_registers_or_leavesOut (builder : Builder) (candidate : Candidate) :
    builder.Registers candidate (builder.add candidate) ∨
      builder.LeavesOut candidate (builder.add candidate) := by
  cases outcome : candidate.outcome with
  | error reason =>
      rw [add_of_error outcome]
      exact Or.inr ⟨rfl, reason, rfl⟩
  | ok platform =>
      cases found : builder.entries.lookup platform.name with
      | none =>
          rw [add_of_free outcome found]
          exact Or.inl ⟨⟨platform, outcome, found, rfl⟩, rfl⟩
      | some other =>
          rw [add_of_taken outcome found]
          exact Or.inr ⟨rfl, _, rfl⟩

/-! ### All candidates -/

structure Accounts (builder : Builder) (candidates : List Candidate) : Prop where
  balance : builder.entries.length + builder.skipped.length = candidates.length
  keyed : ∀ entry ∈ builder.entries, entry.1 = entry.2.name
  ordered : Keyed.IsOrdered builder.entries
  first : ∀ name, builder.entries.lookup name =
    (usable candidates).find? fun platform => platform.name == name
  skipped : builder.skipped = diagnostics [] candidates

theorem Accounts.start : Accounts {} [] where
  balance := rfl
  keyed := by
    intro entry member
    cases member
  ordered := List.Pairwise.nil
  first := by
    intro name
    rfl
  skipped := rfl

namespace Accounts

variable {builder : Builder} {given : List Candidate} {candidate : Candidate}

/-- A candidate that is left out changes the diagnostics only. -/
theorem leaveOut {reason : RegistryError} (accounts : builder.Accounts given)
    (told : candidate.diagnostic? (usable given) = some ⟨candidate.source, reason⟩)
    (known : ∀ platform, candidate.platform? = some platform →
      ((usable given).find? fun other => other.name == platform.name).isSome = true) :
    (builder.skip candidate.source reason).Accounts (given ++ [candidate]) where
  balance := by
    have before := accounts.balance
    simp only [skip, List.length_append, List.length_cons, List.length_nil]
    omega
  keyed := accounts.keyed
  ordered := accounts.ordered
  first := by
    intro name
    refine (accounts.first name).trans ?_
    rw [usable_append, List.find?_append]
    cases valid : candidate.platform? with
    | none =>
        rw [usable_of_none valid]
        exact Option.or_none.symm
    | some platform =>
        rw [usable_of_some valid, List.find?_singleton]
        by_cases same : platform.name = name
        · have found := known platform valid
          rw [same] at found
          obtain ⟨other, earlier⟩ := Option.isSome_iff_exists.mp found
          rw [earlier]
          rfl
        · rw [if_neg (mt beq_iff_eq.mp same), Option.or_none]
  skipped := by
    rw [diagnostics_append, List.nil_append, ← accounts.skipped, diagnostics, told]
    rfl

/-- A candidate that is registered is the first with its name. -/
theorem register {platform : Platform} (accounts : builder.Accounts given)
    (valid : candidate.platform? = some platform)
    (told : candidate.diagnostic? (usable given) = none)
    (free : builder.entries.lookup platform.name = none) :
    ({ builder with entries := Keyed.insert platform.name platform builder.entries } :
      Builder).Accounts (given ++ [candidate]) where
  balance := by
    have before := accounts.balance
    have longer := Keyed.length_insert free platform
    simp only [List.length_append, List.length_cons, List.length_nil, longer]
    omega
  keyed := by
    intro entry member
    rcases Keyed.mem_of_mem_insert member with same | old
    · rw [same]
    · exact accounts.keyed entry old
  ordered := accounts.ordered.insert platform.name platform
  first := by
    intro name
    rw [Keyed.lookup_insert accounts.ordered, accounts.first name, usable_append,
      List.find?_append, usable_of_some valid, List.find?_singleton]
    by_cases same : name = platform.name
    · rw [if_pos same, if_pos (beq_iff_eq.mpr same.symm)]
    · rw [if_neg same, if_neg (mt beq_iff_eq.mp (Ne.symm same))]
  skipped := by
    rw [diagnostics_append, List.nil_append, ← accounts.skipped, diagnostics, told]
    exact (List.append_nil _).symm

theorem add (accounts : builder.Accounts given) (candidate : Candidate) :
    (builder.add candidate).Accounts (given ++ [candidate]) := by
  cases outcome : candidate.outcome with
  | error reason =>
      have invalid : candidate.platform? = none := by
        rw [Candidate.platform?, outcome]
        rfl
      rw [add_of_error outcome]
      apply accounts.leaveOut
      · rw [Candidate.diagnostic?, outcome]
      · intro platform valid
        rw [invalid] at valid
        cases valid
  | ok platform =>
      have valid : candidate.platform? = some platform := by
        rw [Candidate.platform?, outcome]
        rfl
      have known := accounts.first platform.name
      have searched : ((usable given).any fun other => other.name == platform.name) =
          (builder.entries.lookup platform.name).isSome := by
        rw [known, List.isSome_find?]
      cases found : builder.entries.lookup platform.name with
      | some other =>
          rw [found] at known searched
          rw [add_of_taken outcome found]
          apply accounts.leaveOut
          · simp only [Candidate.diagnostic?, outcome, searched, Option.isSome_some, if_true]
          · intro rival same
            rw [valid] at same
            cases same
            rw [← known]
            rfl
      | none =>
          rw [found] at searched
          rw [add_of_free outcome found]
          apply accounts.register valid _ found
          simp only [Candidate.diagnostic?, outcome, searched, Option.isSome_none,
            Bool.false_eq_true, if_false]

theorem foldl_add (accounts : builder.Accounts given) (more : List Candidate) :
    (more.foldl Builder.add builder).Accounts (given ++ more) := by
  induction more generalizing builder given with
  | nil =>
      rw [List.append_nil]
      exact accounts
  | cons candidate more ih =>
      have next := ih (accounts.add candidate)
      rw [List.append_assoc, List.singleton_append] at next
      exact next

end Accounts

def collect (candidates : List Candidate) : Builder :=
  candidates.foldl Builder.add {}

theorem collect_accounts (candidates : List Candidate) : (collect candidates).Accounts candidates :=
  Accounts.start.foldl_add candidates

/-- A step adds its candidates one by one; a platform that is given directly is one under its own
name. -/
theorem take_eq_foldl_add (files : Disk.Access) (builder : Builder) (step : Step) :
    builder.take files step = (candidates files step).foldl Builder.add builder := by
  cases step with
  | builtins =>
      rw [candidates, List.foldl_map]
      rfl
  | directory path =>
      simp only [take, withDirectory, candidates]
      split
      · rfl
      · cases files.list path with
        | error fault => rfl
        | ok names =>
            simp only [List.foldl_map]
            rfl
  | register platform =>
      rw [candidates, List.foldl_cons, List.foldl_nil, take, add, load, register]
      cases builder.contains platform.name <;> rfl

theorem foldl_take (files : Disk.Access) (steps : List Step) :
    steps.foldl (Builder.take files) {} = collect (allCandidates files steps) := by
  rw [collect, allCandidates, List.foldl_flatMap]
  apply List.foldl_ext
  intro builder step _
  exact take_eq_foldl_add files builder step

/-! ### The registry -/

/-- Under keys that are names, a lookup by key and a search by name find the same. -/
theorem find?_platforms {entries : List (String × Platform)}
    (keyed : ∀ entry ∈ entries, entry.1 = entry.2.name) (name : String) :
    ((entries.map Prod.snd).find? fun platform => platform.name == name) = entries.lookup name := by
  induction entries with
  | nil => rfl
  | cons entry entries ih =>
      have here := keyed entry List.mem_cons_self
      have later := ih fun other member => keyed other (List.mem_cons_of_mem entry member)
      rw [List.map_cons, List.find?_cons, List.lookup_cons, later, ← here, BEq.comm]

theorem Accounts.entries_eq_nil_iff {builder : Builder} {given : List Candidate}
    (accounts : builder.Accounts given) :
    builder.entries = [] ↔ ∀ candidate ∈ given, candidate.platform? = none := by
  rw [← List.filterMap_eq_nil_iff]
  constructor
  · intro empty
    rw [List.eq_nil_iff_forall_not_mem]
    intro platform valid
    have missing := accounts.first platform.name
    rw [empty, eq_comm] at missing
    exact List.find?_eq_none.mp missing platform valid (beq_self_eq_true platform.name)
  · intro none
    rw [List.eq_nil_iff_forall_not_mem]
    intro entry member
    have missing := accounts.first entry.1
    rw [usable, none, List.find?_nil, List.lookup_eq_none_iff] at missing
    exact bne_iff_ne.mp (missing entry member) rfl

theorem finish_eq_error_iff {builder : Builder} {error : RegistryError} :
    builder.finish = .error error ↔ error = .empty ∧ builder.entries = [] := by
  rw [finish]
  cases builder.entries with
  | nil =>
      rw [List.isEmpty_nil, if_pos rfl, Except.error.injEq]
      exact eq_comm.trans (and_iff_left rfl).symm
  | cons entry entries =>
      rw [List.isEmpty_cons, if_neg Bool.false_ne_true]
      constructor
      · intro impossible
        cases impossible
      · intro both
        cases both.2

end Builder

structure Holds (registry : Registry) (builder : Builder) : Prop where
  names : registry.names = builder.entries.map Prod.fst
  get : ∀ name, registry.get? name = builder.entries.lookup name
  size : registry.platforms.length = builder.entries.length
  skipped : registry.skipped = builder.skipped

theorem holds_of_finish {builder : Builder} {given : List Candidate} {registry : Registry}
    (accounts : builder.Accounts given) (finished : builder.finish = .ok registry) :
    registry.Holds builder := by
  rw [Builder.finish] at finished
  split at finished
  · cases finished
  · cases finished
    constructor
    · rw [names, List.map_map]
      apply List.map_congr_left
      intro entry member
      exact (accounts.keyed entry member).symm
    · exact Builder.find?_platforms accounts.keyed
    · exact List.length_map Prod.snd
    · rfl

/-- Each candidate of the steps, in its turn, is registered under its name or leaves one diagnostic.
In the end there are as many platforms and diagnostics as candidates, the names are in strict order,
under each name stands the first usable candidate with it, and the diagnostics are those of all
others.  There is a registry unless no candidate is usable. -/
theorem assemble_accounts (files : Disk.Access) (steps : List Step) :
    (∀ before candidate after, allCandidates files steps = before ++ candidate :: after →
      (Builder.collect before).Registers candidate (Builder.collect (before ++ [candidate])) ∨
        (Builder.collect before).LeavesOut candidate (Builder.collect (before ++ [candidate]))) ∧
      steps.foldl (Builder.take files) {} = Builder.collect (allCandidates files steps) ∧
      (Builder.collect (allCandidates files steps)).Accounts (allCandidates files steps) ∧
      (∀ error, assemble files steps = .error error ↔ error = .empty ∧
        ∀ candidate ∈ allCandidates files steps, candidate.platform? = none) ∧
      ∀ registry, assemble files steps = .ok registry →
        registry.Holds (Builder.collect (allCandidates files steps)) ∧
          registry.names.Pairwise (· < ·) := by
  have accounts := Builder.collect_accounts (allCandidates files steps)
  refine ⟨?_, Builder.foldl_take files steps, accounts, ?_, ?_⟩
  · intro before candidate _ _
    have added : Builder.collect (before ++ [candidate]) = (Builder.collect before).add candidate :=
      List.foldl_concat Builder.add {} candidate before
    rw [added]
    exact Builder.add_registers_or_leavesOut _ candidate
  · intro error
    rw [assemble, Builder.foldl_take, Builder.finish_eq_error_iff, accounts.entries_eq_nil_iff]
  · intro registry built
    rw [assemble, Builder.foldl_take] at built
    have holds := holds_of_finish accounts built
    refine ⟨holds, ?_⟩
    rw [holds.names]
    exact List.pairwise_map.mpr accounts.ordered

end AgentProbe.Registry
