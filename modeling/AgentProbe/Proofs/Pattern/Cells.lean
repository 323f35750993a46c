import Mathlib.Algebra.BigOperators.Group.Finset.Basic
import AgentProbe.Proofs.Pattern.Replay

set_option autoImplicit false

/-!
Requests that are made of the memo at the same time.

Each key has a cell.  A requester looks up the cell of its key, or makes it, in one step.  Whoever
enters an empty cell resolves the pattern and fills the cell; the others wait and take what they
find there.  A cell lets one requester in at a time and keeps what it is filled with, and no requester
gives up.

However the steps are interleaved, a key has one cell with at most one requester in it, somebody can
always go on, and there is less and less to do.
-/

namespace AgentProbe

/-! ### Requesters and their cells -/

inductive Cell where
  | empty
  /-- A requester is resolving the pattern. -/
  | taken
  | filled (answer : Except PatternError Pattern)

def Cell.answer? : Cell → Option (Except PatternError Pattern)
  | .filled answer => some answer
  | _ => none

/-- How far a requester has come. -/
inductive Requester where
  | asking
  /-- It has the cell of its key. -/
  | holding (cell : Nat)
  /-- It has entered the cell and was not counted. -/
  | starting (cell : Nat)
  | resolving (cell : Nat)
  /-- It was answered; `fresh` says that it has resolved the pattern itself. -/
  | served (answer : Except PatternError Pattern) (fresh : Bool)

namespace Requester

def run? : Requester → Option Nat
  | .starting cell | .resolving cell => some cell
  | _ => none

def isServed : Requester → Bool
  | .served _ _ => true
  | _ => false

def isRunner : Requester → Bool
  | .starting _ | .resolving _ | .served _ true => true
  | _ => false

/-- How often the requester was counted before the memo knows of it. -/
def ahead : Requester → Nat
  | .resolving _ => 1
  | _ => 0

/-- How many steps are left. -/
def effort : Requester → Nat
  | .asking => 4
  | .holding _ => 3
  | .starting _ => 2
  | .resolving _ => 1
  | .served _ _ => 0

theorem isRunner_cases {requester : Requester} (runs : requester.isRunner = true) :
    (∃ cell, requester.run? = some cell) ∨ ∃ answer, requester = .served answer true := by
  cases requester with
  | starting cell => exact Or.inl ⟨cell, rfl⟩
  | resolving cell => exact Or.inl ⟨cell, rfl⟩
  | asking => cases runs
  | holding cell => cases runs
  | served answer fresh =>
      cases fresh with
      | true => exact Or.inr ⟨answer, rfl⟩
      | false => cases runs

theorem eq_served {requester : Requester} (done : requester.isServed = true) :
    ∃ answer fresh, requester = .served answer fresh := by
  cases requester with
  | served answer fresh => exact ⟨answer, fresh, rfl⟩
  | asking => cases done
  | holding cell => cases done
  | starting cell => cases done
  | resolving cell => cases done

end Requester

structure Board (ι : Type) where
  /-- The cells that were made, each with its key. -/
  cells : List (PatternKey × Cell) := []
  /-- How many resolutions were started. -/
  resolutions : Nat := 0
  requesters : ι → Requester := fun _ => .asking

namespace Board

variable {ι : Type} {requests : Requests ι} {board next : Board ι} {asker : ι}

def IsOver (board : Board ι) : Prop :=
  ∀ asker, (board.requesters asker).isServed = true

section

variable [DecidableEq ι]

def move (board : Board ι) (asker : ι) (requester : Requester) : Board ι :=
  { board with requesters := Function.update board.requesters asker requester }

inductive Step (requests : Requests ι) : Board ι → Board ι → Prop
  /-- The cell of the key is there. -/
  | find {board : Board ι} {asker : ι} {cell : Nat} {content : Cell}
      (asks : board.requesters asker = .asking)
      (there : board.cells[cell]? = some (requests.key asker, content)) :
      Step requests board (board.move asker (.holding cell))
  /-- The key has no cell, and one is made. -/
  | create {board : Board ι} {asker : ι} (asks : board.requesters asker = .asking)
      (absent : requests.key asker ∉ board.cells.map Prod.fst) :
      Step requests board
        { board.move asker (.holding board.cells.length) with
          cells := board.cells ++ [(requests.key asker, .empty)] }
  /-- The cell is empty and nobody else is in it. -/
  | enter {board : Board ι} {asker : ι} {cell : Nat} {key : PatternKey}
      (holds : board.requesters asker = .holding cell)
      (free : board.cells[cell]? = some (key, .empty)) :
      Step requests board
        { board.move asker (.starting cell) with cells := board.cells.set cell (key, .taken) }
  | count {board : Board ι} {asker : ι} {cell : Nat}
      (starts : board.requesters asker = .starting cell) :
      Step requests board
        { board.move asker (.resolving cell) with resolutions := board.resolutions + 1 }
  /-- The resolution ends and fills the cell. -/
  | finish {board : Board ι} {asker : ι} {cell : Nat} {key : PatternKey}
      (resolves : board.requesters asker = .resolving cell)
      (unfilled : board.cells[cell]? = some (key, .taken)) :
      Step requests board
        { board.move asker (.served (requests.answer asker) true) with
          cells := board.cells.set cell (key, .filled (requests.answer asker)) }
  /-- The cell was filled by another requester. -/
  | share {board : Board ι} {asker : ι} {cell : Nat} {key : PatternKey}
      {answer : Except PatternError Pattern} (holds : board.requesters asker = .holding cell)
      (full : board.cells[cell]? = some (key, .filled answer)) :
      Step requests board (board.move asker (.served answer false))

theorem move_self (board : Board ι) (asker : ι) (requester : Requester) :
    (board.move asker requester).requesters asker = requester :=
  Function.update_self ..

theorem move_other {other : ι} (different : other ≠ asker) (requester : Requester) :
    (board.move asker requester).requesters other = board.requesters other :=
  Function.update_of_ne different ..

theorem move_congr {β : Type} {view : Requester → β} {requester : Requester}
    (same : view requester = view (board.requesters asker)) (other : ι) :
    view ((board.move asker requester).requesters other) = view (board.requesters other) := by
  by_cases here : other = asker
  · rw [here, move_self, same]
  · rw [move_other here]

theorem run?_move {requester : Requester} {other : ι} {cell : Nat} :
    ((board.move asker requester).requesters other).run? = some cell ↔
      other = asker ∧ requester.run? = some cell ∨
        other ≠ asker ∧ (board.requesters other).run? = some cell := by
  by_cases here : other = asker
  · subst here
    simp only [move_self, ne_eq, not_true, false_and, or_false, true_and]
  · simp only [move_other here, here, ne_eq, not_false_eq_true, false_and, false_or, true_and]

/-! ### Less and less to do -/

variable [Fintype ι]

theorem sum_move (weight : Requester → Nat) (board : Board ι) (asker : ι) (requester : Requester) :
    (∑ other, weight ((board.move asker requester).requesters other)) +
        weight (board.requesters asker) =
      (∑ other, weight (board.requesters other)) + weight requester := by
  have member := Finset.mem_univ asker
  have before := Finset.add_sum_erase Finset.univ
    (fun other => weight (board.requesters other)) member
  have after := Finset.add_sum_erase Finset.univ
    (fun other => weight ((board.move asker requester).requesters other)) member
  have others : ∑ other ∈ Finset.univ.erase asker,
        weight ((board.move asker requester).requesters other) =
      ∑ other ∈ Finset.univ.erase asker, weight (board.requesters other) := by
    apply Finset.sum_congr rfl
    intro other among
    rw [move_other (Finset.ne_of_mem_erase among)]
  rw [move_self] at after
  omega

def load (board : Board ι) : Nat :=
  ∑ asker, (board.requesters asker).effort

theorem load_move_lt {requester : Requester}
    (less : requester.effort < (board.requesters asker).effort) :
    (board.move asker requester).load < board.load := by
  have moved := sum_move Requester.effort board asker requester
  unfold load
  omega

theorem Step.load_lt (step : Step requests board next) : next.load < board.load := by
  cases step with
  | find asks there => exact load_move_lt (by rw [asks]; exact Nat.lt_succ_self 3)
  | create asks absent => exact load_move_lt (by rw [asks]; exact Nat.lt_succ_self 3)
  | enter holds free => exact load_move_lt (by rw [holds]; exact Nat.lt_succ_self 2)
  | count starts => exact load_move_lt (by rw [starts]; exact Nat.lt_succ_self 1)
  | finish resolves unfilled => exact load_move_lt (by rw [resolves]; exact Nat.lt_succ_self 0)
  | share holds full => exact load_move_lt (by rw [holds]; exact Nat.succ_pos 2)

theorem step_wellFounded (requests : Requests ι) :
    WellFounded fun next board : Board ι => Step requests board next :=
  Subrelation.wf (fun step => step.load_lt) (measure load).wf

end

/-! ### Who is in which cell -/

theorem cells_set {cells : List (PatternKey × Cell)} {cell : Nat} {key : PatternKey}
    {old : Cell} (there : cells[cell]? = some (key, old)) (new : Cell) (other : Nat) :
    (cells.set cell (key, new))[other]? =
      if other = cell then some (key, new) else cells[other]? := by
  have inside := (List.getElem?_eq_some_iff.mp there).1
  rw [List.getElem?_set, if_pos inside]
  by_cases same : other = cell
  · rw [if_pos same, if_pos same.symm]
  · rw [if_neg same, if_neg (Ne.symm same)]

theorem keys_set {cells : List (PatternKey × Cell)} {cell : Nat} {key : PatternKey} {old : Cell}
    (there : cells[cell]? = some (key, old)) (new : Cell) :
    (cells.set cell (key, new)).map Prod.fst = cells.map Prod.fst := by
  apply List.ext_getElem?
  intro other
  rw [List.getElem?_map, List.getElem?_map, cells_set there]
  by_cases same : other = cell
  · rw [if_pos same, same, there]
    rfl
  · rw [if_neg same]

/-- A new cell is empty, so that every other cell was there before. -/
theorem cells_append {cells : List (PatternKey × Cell)} {cell : Nat} {key other : PatternKey}
    {content : Cell} (there : (cells ++ [(key, .empty)])[cell]? = some (other, content)) :
    cells[cell]? = some (other, content) ∨ other = key ∧ content = .empty := by
  rw [List.getElem?_append] at there
  split at there
  · exact Or.inl there
  · have new := List.mem_singleton.mp (List.mem_of_getElem? there)
    cases new
    exact Or.inr ⟨rfl, rfl⟩

theorem cells_append_left {cells : List (PatternKey × Cell)} {cell : Nat}
    {entry : PatternKey × Cell} (there : cells[cell]? = some entry) (new : PatternKey × Cell) :
    (cells ++ [new])[cell]? = some entry := by
  rw [List.getElem?_append_left (List.getElem?_eq_some_iff.mp there).1]
  exact there

theorem cell_inj {cells : List (PatternKey × Cell)} (distinct : (cells.map Prod.fst).Nodup)
    {cell other : Nat} {key : PatternKey} {content another : Cell}
    (here : cells[cell]? = some (key, content)) (there : cells[other]? = some (key, another)) :
    cell = other := by
  have inside := (List.getElem?_eq_some_iff.mp here).1
  rw [← List.length_map Prod.fst] at inside
  apply (List.getElem?_inj inside distinct).mp
  rw [List.getElem?_map, List.getElem?_map, here, there]
  rfl

/-- Every key has one cell, and whoever has entered a cell is alone in it. -/
structure Sound (requests : Requests ι) (board : Board ι) : Prop where
  distinct : (board.cells.map Prod.fst).Nodup
  requested : ∀ key ∈ board.cells.map Prod.fst, ∃ asker, requests.key asker = key
  held : ∀ asker cell, board.requesters asker = .holding cell →
    ∃ content, board.cells[cell]? = some (requests.key asker, content)
  busy : ∀ asker cell, (board.requesters asker).run? = some cell →
    board.cells[cell]? = some (requests.key asker, .taken)
  single : ∀ asker other cell, (board.requesters asker).run? = some cell →
    (board.requesters other).run? = some cell → asker = other
  staffed : ∀ cell key, board.cells[cell]? = some (key, .taken) →
    ∃ asker, (board.requesters asker).run? = some cell

namespace Sound

theorem start (requests : Requests ι) : Sound requests ({} : Board ι) := by
  refine ⟨List.nodup_nil, ?_, ?_, ?_, ?_, ?_⟩
  · intro key member
    cases member
  · intro asker cell holds
    cases holds
  · intro asker cell runs
    cases runs
  · intro asker other cell runs
    cases runs
  · intro cell key there
    cases there

theorem addCell (sound : Sound requests board)
    (absent : requests.key asker ∉ board.cells.map Prod.fst) :
    Sound requests { board with cells := board.cells ++ [(requests.key asker, .empty)] } := by
  refine ⟨?_, ?_, ?_, ?_, sound.single, ?_⟩
  · rw [List.map_append]
    apply List.Nodup.append sound.distinct (List.nodup_singleton _)
    intro key member new
    have same := List.mem_singleton.mp new
    subst same
    exact absent member
  · intro key member
    rw [List.map_append] at member
    rcases List.mem_append.mp member with old | new
    · exact sound.requested key old
    · exact ⟨asker, (List.mem_singleton.mp new).symm⟩
  · intro other cell holds
    obtain ⟨content, there⟩ := sound.held other cell holds
    exact ⟨content, cells_append_left there _⟩
  · intro other cell runs
    exact cells_append_left (sound.busy other cell runs) _
  · intro cell key there
    rcases cells_append there with old | ⟨_, impossible⟩
    · exact sound.staffed cell key old
    · cases impossible

theorem key_of_holding (sound : Sound requests board) {cell : Nat} {key : PatternKey}
    {content : Cell} (holds : board.requesters asker = .holding cell)
    (there : board.cells[cell]? = some (key, content)) : key = requests.key asker := by
  obtain ⟨other, found⟩ := sound.held asker cell holds
  rw [there] at found
  cases found
  rfl

theorem key_of_run? (sound : Sound requests board) {cell : Nat} {key : PatternKey} {content : Cell}
    (runs : (board.requesters asker).run? = some cell)
    (there : board.cells[cell]? = some (key, content)) : key = requests.key asker := by
  have found := sound.busy asker cell runs
  rw [there] at found
  cases found
  rfl

theorem held_set (sound : Sound requests board) {cell other : Nat} {key : PatternKey}
    {old : Cell} (there : board.cells[cell]? = some (key, old)) (new : Cell) {holder : ι}
    (holds : board.requesters holder = .holding other) :
    ∃ content, (board.cells.set cell (key, new))[other]? = some (requests.key holder, content) := by
  obtain ⟨content, found⟩ := sound.held holder other holds
  rw [cells_set there]
  by_cases same : other = cell
  · subst same
    rw [there] at found
    cases found
    exact ⟨new, if_pos rfl⟩
  · exact ⟨content, (if_neg same).trans found⟩

section

variable [DecidableEq ι]

theorem pass (sound : Sound requests board) {requester : Requester}
    (same : requester.run? = (board.requesters asker).run?)
    (held : ∀ cell, requester = .holding cell →
      ∃ content, board.cells[cell]? = some (requests.key asker, content)) (count : Nat) :
    Sound requests { board.move asker requester with resolutions := count } := by
  have runs := move_congr same
  refine ⟨sound.distinct, sound.requested, ?_, ?_, ?_, ?_⟩
  · intro other cell holds
    by_cases here : other = asker
    · subst here
      exact held cell ((move_self board other requester).symm.trans holds)
    · exact sound.held other cell ((move_other here requester).symm.trans holds)
  · intro other cell busy
    exact sound.busy other cell ((runs other).symm.trans busy)
  · intro first second cell left right
    exact sound.single first second cell ((runs first).symm.trans left)
      ((runs second).symm.trans right)
  · intro cell key taken
    obtain ⟨other, busy⟩ := sound.staffed cell key taken
    exact ⟨other, (runs other).trans busy⟩

/-- The one requester that is in a cell, or enters it, gives it new content.  It stays in the cell
exactly if the cell is taken afterwards. -/
theorem refill (sound : Sound requests board) {cell : Nat} {old new : Cell} {requester : Requester}
    (there : board.cells[cell]? = some (requests.key asker, old))
    (alone : ∀ other, other ≠ asker → (board.requesters other).run? ≠ some cell)
    (was : ∀ place, (board.requesters asker).run? = some place → place = cell)
    (moved : ∀ place, requester ≠ .holding place)
    (inside : ∀ place, requester.run? = some place ↔ place = cell ∧ new = .taken) :
    Sound requests { board.move asker requester with
      cells := board.cells.set cell (requests.key asker, new) } := by
  refine ⟨?_, ?_, ?_, ?_, ?_, ?_⟩
  · rw [keys_set there]
    exact sound.distinct
  · rw [keys_set there]
    exact sound.requested
  · intro other place waits
    by_cases here : other = asker
    · subst here
      exact absurd ((move_self board other requester).symm.trans waits) (moved place)
    · exact sound.held_set there new ((move_other here requester).symm.trans waits)
  · intro other place runs
    rw [cells_set there]
    rcases run?_move.mp runs with ⟨rfl, entered⟩ | ⟨different, before⟩
    · obtain ⟨same, taken⟩ := (inside place).mp entered
      rw [if_pos same, taken]
    · have apart : place ≠ cell := by
        rintro rfl
        exact alone other different before
      rw [if_neg apart]
      exact sound.busy other place before
  · intro first second place left right
    rcases run?_move.mp left with ⟨here, entered⟩ | ⟨different, before⟩
    · rcases run?_move.mp right with ⟨too, _⟩ | ⟨other, active⟩
      · exact here.trans too.symm
      · rw [((inside place).mp entered).1] at active
        exact absurd active (alone second other)
    · rcases run?_move.mp right with ⟨_, entered⟩ | ⟨_, active⟩
      · rw [((inside place).mp entered).1] at before
        exact absurd before (alone first different)
      · exact sound.single first second place before active
  · intro place key taken
    rw [cells_set there] at taken
    by_cases same : place = cell
    · rw [if_pos same] at taken
      cases taken
      exact ⟨asker, run?_move.mpr (Or.inl ⟨rfl, (inside place).mpr ⟨same, rfl⟩⟩)⟩
    · rw [if_neg same] at taken
      obtain ⟨runner, runs⟩ := sound.staffed place key taken
      have different : runner ≠ asker := by
        rintro rfl
        exact same (was place runs)
      exact ⟨runner, run?_move.mpr (Or.inr ⟨different, runs⟩)⟩

end

end Sound

section

variable [DecidableEq ι]

theorem Step.sound (step : Step requests board next) (sound : Sound requests board) :
    Sound requests next := by
  cases step with
  | find asks there =>
      refine sound.pass (by rw [asks]; rfl) ?_ board.resolutions
      intro cell same
      cases same
      exact ⟨_, there⟩
  | create asks absent =>
      refine (sound.addCell absent).pass (by rw [asks]; rfl) ?_ board.resolutions
      intro cell same
      cases same
      exact ⟨.empty, List.getElem?_concat_length⟩
  | @enter asker cell key holds free =>
      have own : key = requests.key asker := sound.key_of_holding holds free
      subst own
      apply sound.refill free
      · intro other _ runs
        have taken := sound.busy other cell runs
        rw [free] at taken
        have impossible := congrArg Prod.snd (Option.some.inj taken)
        cases impossible
      · intro place runs
        rw [holds] at runs
        cases runs
      · intro place impossible
        cases impossible
      · intro place
        exact (Option.some_inj.trans eq_comm).trans (and_iff_left rfl).symm
  | count starts =>
      refine sound.pass (by rw [starts]; rfl) ?_ (board.resolutions + 1)
      intro cell impossible
      cases impossible
  | @finish asker cell key resolves unfilled =>
      have ran : (board.requesters asker).run? = some cell := by
        rw [resolves]
        rfl
      have own : key = requests.key asker := sound.key_of_run? ran unfilled
      subst own
      apply sound.refill unfilled
      · intro other different runs
        exact different (sound.single other asker cell runs ran)
      · intro place runs
        exact Option.some.inj (runs.symm.trans ran)
      · intro place impossible
        cases impossible
      · intro place
        constructor
        · intro impossible
          cases impossible
        · rintro ⟨_, impossible⟩
          cases impossible
  | share holds full =>
      refine sound.pass (by rw [holds]; rfl) ?_ board.resolutions
      intro cell impossible
      cases impossible

/-- A requester that was not answered can go on, or another one can: the one in the cell. -/
theorem isOver_or_step (sound : Sound requests board) :
    board.IsOver ∨ ∃ next, Step requests board next := by
  have runs {runner : ι} {cell : Nat} (busy : (board.requesters runner).run? = some cell) :
      ∃ next, Step requests board next := by
    have taken := sound.busy runner cell busy
    cases here : board.requesters runner with
    | starting place => exact ⟨_, .count here⟩
    | resolving place =>
        rw [here] at busy
        cases busy
        exact ⟨_, .finish here taken⟩
    | asking =>
        rw [here] at busy
        cases busy
    | holding place =>
        rw [here] at busy
        cases busy
    | served answer fresh =>
        rw [here] at busy
        cases busy
  by_cases ended : board.IsOver
  · exact Or.inl ended
  · apply Or.inr
    obtain ⟨asker, waits⟩ := not_forall.mp ended
    cases here : board.requesters asker with
    | asking =>
        by_cases known : requests.key asker ∈ board.cells.map Prod.fst
        · obtain ⟨⟨key, content⟩, member, same⟩ := List.mem_map.mp known
          obtain ⟨cell, there⟩ := List.mem_iff_getElem?.mp member
          change key = requests.key asker at same
          rw [same] at there
          exact ⟨_, .find here there⟩
        · exact ⟨_, .create here known⟩
    | holding cell =>
        obtain ⟨content, there⟩ := sound.held asker cell here
        cases content with
        | empty => exact ⟨_, .enter here there⟩
        | filled answer => exact ⟨_, .share here there⟩
        | taken =>
            obtain ⟨runner, busy⟩ := sound.staffed cell _ there
            exact runs busy
    | starting cell => exact ⟨_, .count here⟩
    | resolving cell =>
        have busy : (board.requesters asker).run? = some cell := by
          rw [here]
          rfl
        exact runs busy
    | served answer fresh =>
        rw [here] at waits
        exact absurd rfl waits

end

end Board

end AgentProbe
