import Mathlib.Data.Finset.Card
import Mathlib.Logic.Relation
import AgentProbe.Proofs.Pattern.Cells

set_option autoImplicit false

/-!
What requesters are told that ask at the same time.

However their steps are interleaved, the answers are those that the memo gives when the requests are
made one after another, in the order in which they were served.  So each key is resolved once, and
all who ask for it are told the same.
-/

namespace AgentProbe

namespace Board

variable {ι : Type} {requests : Requests ι} {board next : Board ι} {asker : ι}

/-! ### The order in which requesters are served -/

/-- An order in which the requesters that were served might have asked one after another. -/
structure Explains (requests : Requests ι) (order : List ι) (requesters : ι → Requester) :
    Prop where
  distinct : order.Nodup
  served : ∀ asker, asker ∈ order ↔ (requesters asker).isServed = true
  told : ∀ before asker after, order = before ++ asker :: after →
    requesters asker = .served (requests.reply before asker) (requests.isFirst before asker)

namespace Explains

variable [DecidableEq ι] {order : List ι}

theorem wait (explains : Explains requests order board.requesters) {requester : Requester}
    (waits : (board.requesters asker).isServed = false) (still : requester.isServed = false) :
    Explains requests order (board.move asker requester).requesters := by
  have same := still.trans waits.symm
  refine ⟨explains.distinct, ?_, ?_⟩
  · intro other
    rw [move_congr same]
    exact explains.served other
  · intro before other after split
    have member : other ∈ order := by
      rw [split]
      exact List.mem_append_right before List.mem_cons_self
    have different : other ≠ asker := by
      rintro rfl
      rw [explains.served, waits] at member
      cases member
    rw [move_other different]
    exact explains.told before other after split

/-- Whoever is served next asks last, and is told what the memo says then. -/
theorem serve (explains : Explains requests order board.requesters)
    (waits : (board.requesters asker).isServed = false) :
    Explains requests (order ++ [asker]) (board.move asker
      (.served (requests.reply order asker) (requests.isFirst order asker))).requesters := by
  have absent : asker ∉ order := by
    rw [explains.served, waits]
    exact Bool.false_ne_true
  refine ⟨?_, ?_, ?_⟩
  · apply List.Nodup.append explains.distinct (List.nodup_singleton asker)
    intro other member new
    have same := List.mem_singleton.mp new
    subst same
    exact absent member
  · intro other
    rw [List.mem_append, List.mem_singleton, explains.served]
    by_cases here : other = asker
    · subst here
      rw [move_self]
      exact iff_of_true (Or.inr rfl) rfl
    · rw [move_other here]
      exact or_iff_left here
  · intro before other after split
    rcases List.eq_nil_or_concat after with rfl | ⟨rest, last, rfl⟩
    · obtain ⟨rfl, same⟩ := List.append_inj' split rfl
      cases same
      exact move_self board asker _
    · have longer : order ++ [asker] = (before ++ other :: rest) ++ [last] := by
        rw [split, List.append_assoc, List.cons_append, List.concat_eq_append]
      obtain ⟨earlier, _⟩ := List.append_inj' longer rfl
      have different : other ≠ asker := by
        rintro rfl
        apply absent
        rw [earlier]
        exact List.mem_append_right before List.mem_cons_self
      rw [move_other different]
      exact explains.told before other rest earlier

end Explains

/-! ### The memo behind the cells -/

/-- The cells hold what a memo holds. -/
structure Mirrors (memo : PatternMemo) (cells : List (PatternKey × Cell)) : Prop where
  kept : ∀ (cell : Nat) (key : PatternKey) (content : Cell),
    cells[cell]? = some (key, content) → memo.answers.lookup key = content.answer?
  unknown : ∀ key, key ∉ cells.map Prod.fst → memo.answers.lookup key = none

namespace Mirrors

variable {memo : PatternMemo} {cells : List (PatternKey × Cell)}

theorem addCell (mirrors : Mirrors memo cells) {key : PatternKey}
    (absent : key ∉ cells.map Prod.fst) : Mirrors memo (cells ++ [(key, .empty)]) := by
  constructor
  · intro cell other content there
    rcases cells_append there with old | ⟨rfl, rfl⟩
    · exact mirrors.kept cell other content old
    · exact mirrors.unknown other absent
  · intro other missing
    apply mirrors.unknown other
    intro member
    apply missing
    rw [List.map_append]
    exact List.mem_append_left _ member

/-- A cell gets new content, and the memo learns of it. -/
theorem fill (mirrors : Mirrors memo cells) (distinct : (cells.map Prod.fst).Nodup)
    {later : PatternMemo} {cell : Nat} {key : PatternKey} {old new : Cell}
    (there : cells[cell]? = some (key, old)) (learned : later.answers.lookup key = new.answer?)
    (others : ∀ other, other ≠ key → later.answers.lookup other = memo.answers.lookup other) :
    Mirrors later (cells.set cell (key, new)) := by
  constructor
  · intro place other content found
    rw [cells_set there] at found
    by_cases same : place = cell
    · rw [if_pos same] at found
      cases found
      exact learned
    · rw [if_neg same] at found
      have different : other ≠ key := by
        rintro rfl
        exact same (cell_inj distinct found there)
      rw [others other different]
      exact mirrors.kept place other content found
  · intro other missing
    rw [keys_set there] at missing
    have different : other ≠ key := by
      rintro rfl
      apply missing
      exact List.mem_map.mpr ⟨_, List.mem_of_getElem? there, rfl⟩
    rw [others other different]
    exact mirrors.unknown other missing

end Mirrors

/-! ### Any interleaving is some order -/

variable [Fintype ι]

/-- The board is where requests that are made one after another would be, but for those that are
under way: some of these were counted already. -/
structure Linear (requests : Requests ι) (order : List ι) (board : Board ι) : Prop where
  sound : Sound requests board
  explains : Explains requests order board.requesters
  mirrors : Mirrors (requests.memoAfter order) board.cells
  counted : board.resolutions =
    (requests.memoAfter order).resolutions + ∑ asker, (board.requesters asker).ahead

variable {order : List ι}

theorem linear_start (requests : Requests ι) : Linear requests [] ({} : Board ι) := by
  refine ⟨.start requests, ⟨List.nodup_nil, ?_, ?_⟩, ⟨?_, ?_⟩, ?_⟩
  · intro asker
    exact iff_of_false List.not_mem_nil Bool.false_ne_true
  · intro before asker after split
    cases before with
    | nil => cases split
    | cons head tail => cases split
  · intro cell key content there
    cases there
  · intro key absent
    rfl
  · have none : ∑ asker : ι, Requester.ahead .asking = 0 := Finset.sum_const_zero
    exact ((Nat.zero_add _).trans none).symm

section

variable [DecidableEq ι]

/-- The step lemma.  A step that serves nobody leaves the memo as it is; any other one is a request
to the memo by the requester that is served. -/
theorem Linear.step (linear : Linear requests order board) (step : Step requests board next) :
    ∃ later, Linear requests later next := by
  have sound := step.sound linear.sound
  obtain ⟨before, explains, mirrors, counted⟩ := linear
  -- The counter after a requester has moved, given how the memo and the requester are counted.
  have counts (memo : PatternMemo) (asker : ι) (requester : Requester) (count : Nat)
      (balance : count + (requests.memoAfter order).resolutions +
          (board.requesters asker).ahead =
        board.resolutions + memo.resolutions + requester.ahead) :
      count = memo.resolutions +
        ∑ other, ((board.move asker requester).requesters other).ahead := by
    have moved := sum_move Requester.ahead board asker requester
    omega
  cases step with
  | @find asker cell _ asks there =>
      refine ⟨order, sound, explains.wait (by rw [asks]; rfl) rfl, mirrors, counts _ _ _ _ ?_⟩
      rw [asks]
      rfl
  | @create asker asks absent =>
      refine ⟨order, sound, explains.wait (by rw [asks]; rfl) rfl, mirrors.addCell absent,
        counts _ _ _ _ ?_⟩
      rw [asks]
      rfl
  | @enter asker cell key holds free =>
      have empty := mirrors.kept cell key .empty free
      refine ⟨order, sound, explains.wait (by rw [holds]; rfl) rfl,
        mirrors.fill before.distinct free empty fun _ _ => rfl, counts _ _ _ _ ?_⟩
      rw [holds]
      rfl
  | @count asker cell starts =>
      refine ⟨order, sound, explains.wait (by rw [starts]; rfl) rfl, mirrors, counts _ _ _ _ ?_⟩
      rw [starts]
      simp only [Requester.ahead]
      omega
  | @finish asker cell key resolves unfilled =>
      have ran : (board.requesters asker).run? = some cell := by
        rw [resolves]
        rfl
      have own := before.key_of_run? ran unfilled
      subst own
      have first := requests.isFirst_iff.mpr (mirrors.kept cell _ .taken unfilled)
      have one := requests.resolutions_of_isFirst first
      have waits : (board.requesters asker).isServed = false := by
        rw [resolves]
        rfl
      have served := explains.serve waits
      rw [first, requests.reply_of_isFirst first] at served
      refine ⟨order ++ [asker], sound, served, ?_, counts _ _ _ _ ?_⟩
      · apply mirrors.fill before.distinct unfilled
        · rw [requests.lookup_concat, requests.isFirst_iff.mp first, Option.none_or]
          exact if_pos rfl
        · intro other different
          rw [requests.lookup_concat, if_neg (Ne.symm different), Option.or_none]
      · rw [resolves, one]
        simp only [move, Requester.ahead]
        omega
  | @share asker cell key answer holds full =>
      have own := before.key_of_holding holds full
      subst own
      have known := mirrors.kept cell _ (.filled answer) full
      have later : requests.isFirst order asker = false := by
        rw [← Bool.not_eq_true, requests.isFirst_iff, known]
        exact Option.some_ne_none answer
      have waits : (board.requesters asker).isServed = false := by
        rw [holds]
        rfl
      have served := explains.serve waits
      rw [later, requests.reply_of_known known] at served
      refine ⟨order ++ [asker], sound, served, ?_, counts _ _ _ _ ?_⟩
      · rw [requests.memoAfter_of_known known]
        exact mirrors
      · rw [requests.memoAfter_of_known known, holds]
        rfl

/-- The run lemma. -/
theorem exists_linear (reaches : Relation.ReflTransGen (Step requests) {} board) :
    ∃ order, Linear requests order board := by
  induction reaches with
  | refl => exact ⟨[], linear_start requests⟩
  | tail _ step ih =>
      obtain ⟨order, linear⟩ := ih
      exact linear.step step

end

/-! ### What the order tells -/

namespace Linear

variable {answer : Except PatternError Pattern} {fresh : Bool}

theorem told (linear : Linear requests order board)
    (done : board.requesters asker = .served answer fresh) :
    ∃ before after, order = before ++ asker :: after ∧ answer = requests.reply before asker ∧
      fresh = requests.isFirst before asker := by
  have member : asker ∈ order := by
    rw [linear.explains.served, done]
    rfl
  obtain ⟨before, after, split⟩ := List.append_of_mem member
  have same := linear.explains.told before asker after split
  rw [done] at same
  cases same
  exact ⟨before, after, split, rfl, rfl⟩

/-- Whoever was answered got what the requester has found that resolved the key. -/
theorem exists_runner (linear : Linear requests order board)
    (done : board.requesters asker = .served answer fresh) :
    ∃ runner, requests.key runner = requests.key asker ∧
      board.requesters runner = .served (requests.answer runner) true ∧
      answer = requests.answer runner := by
  obtain ⟨before, after, split, rfl, _⟩ := linear.told done
  obtain ⟨runner, earlier, later, here, first, same, found⟩ := requests.exists_runner before asker
  have there : order = earlier ++ runner :: (later ++ after) := by
    rw [split, ← List.cons_append, ← List.append_assoc, ← here, List.append_assoc]
    rfl
  have ran := linear.explains.told earlier runner _ there
  rw [first, requests.reply_of_isFirst first] at ran
  exact ⟨runner, same, ran, found⟩

/-- While a key is being resolved, nobody with that key was answered. -/
theorem key_ne_of_run? (linear : Linear requests order board) {runner : ι} {cell : Nat}
    (runs : (board.requesters runner).run? = some cell)
    (done : (board.requesters asker).isServed = true) :
    requests.key asker ≠ requests.key runner := by
  have taken := linear.sound.busy runner cell runs
  have unknown := linear.mirrors.kept cell _ .taken taken
  exact requests.lookup_eq_none_iff.mp unknown asker ((linear.explains.served asker).mpr done)

theorem once (linear : Linear requests order board) {runner other : ι}
    (runs : (board.requesters runner).isRunner = true)
    (too : (board.requesters other).isRunner = true)
    (same : requests.key runner = requests.key other) : runner = other := by
  rcases Requester.isRunner_cases runs with ⟨cell, busy⟩ | ⟨answer, done⟩
  · rcases Requester.isRunner_cases too with ⟨place, active⟩ | ⟨answer, done⟩
    · have here := linear.sound.busy runner cell busy
      have there := linear.sound.busy other place active
      rw [same] at here
      have one := cell_inj linear.sound.distinct here there
      subst one
      exact linear.sound.single runner other cell busy active
    · exact absurd same.symm (linear.key_ne_of_run? busy (by rw [done]; rfl))
  · rcases Requester.isRunner_cases too with ⟨place, active⟩ | ⟨another, ended⟩
    · exact absurd same (linear.key_ne_of_run? active (by rw [done]; rfl))
    · obtain ⟨before, after, here, _, first⟩ := linear.told done
      obtain ⟨others, rest, there, _, firstToo⟩ := linear.told ended
      exact requests.eq_of_isFirst here there first.symm firstToo.symm same

end Linear

theorem length_eq_card {keys : List PatternKey} (distinct : keys.Nodup)
    (all : ∀ key, key ∈ keys ↔ ∃ asker, requests.key asker = key) :
    keys.length = (Finset.univ.image requests.key).card := by
  rw [← List.toFinset_card_of_nodup distinct]
  congr 1
  ext key
  rw [List.mem_toFinset, all, Finset.mem_image]
  simp only [Finset.mem_univ, true_and]

/-- When all were answered, the cells and the counter are those of the memo, and both count the
keys. -/
theorem Linear.counts (linear : Linear requests order board) (ended : board.IsOver) :
    board.resolutions = (requests.memoAfter order).resolutions ∧
      (requests.memoAfter order).answers.length = (Finset.univ.image requests.key).card ∧
      board.cells.length = (Finset.univ.image requests.key).card := by
  have everybody (asker : ι) : asker ∈ order := (linear.explains.served asker).mpr (ended asker)
  have known (key : PatternKey) : (requests.memoAfter order).answers.lookup key = none ↔
      ¬ ∃ asker, requests.key asker = key := by
    rw [requests.lookup_eq_none_iff]
    constructor
    · rintro nobody ⟨asker, same⟩
      exact nobody asker (everybody asker) same
    · intro nobody asker _ same
      exact nobody ⟨asker, same⟩
  refine ⟨?_, ?_, ?_⟩
  · have settled : ∑ asker, (board.requesters asker).ahead = 0 := by
      apply Finset.sum_eq_zero
      intro asker _
      obtain ⟨answer, fresh, done⟩ := Requester.eq_served (ended asker)
      rw [done]
      rfl
    rw [linear.counted, settled, Nat.add_zero]
  · rw [← List.length_map Prod.fst]
    apply length_eq_card (requests.memoAfter_isOrderly order).distinct
    intro key
    rw [← not_iff_not, ← PatternMemo.lookup_eq_none, known]
  · rw [← List.length_map Prod.fst]
    apply length_eq_card linear.sound.distinct
    intro key
    constructor
    · exact linear.sound.requested key
    · intro requested
      by_contra absent
      exact (known key).mp (linear.mirrors.unknown key absent) requested

/-! ### Every interleaving -/

variable [DecidableEq ι]

structure Resolves (requests : Requests ι) (board : Board ι) : Prop where
  goesOn : board.IsOver ∨ ∃ next, Step requests board next
  /-- Nobody resolves a key that another requester resolves or has resolved. -/
  once : ∀ runner other, (board.requesters runner).isRunner = true →
    (board.requesters other).isRunner = true → requests.key runner = requests.key other →
      runner = other
  /-- Success or failure, an answer is that of the requester that has resolved the key. -/
  shared : ∀ asker answer fresh, board.requesters asker = .served answer fresh →
    ∃ runner, requests.key runner = requests.key asker ∧
      board.requesters runner = .served (requests.answer runner) true ∧
      answer = requests.answer runner
  valid : ∀ asker pattern fresh, board.requesters asker = .served (.ok pattern) fresh →
    pattern.validate = .ok ()
  /-- In the end, exactly one requester has resolved each key. -/
  exactly : board.IsOver → ∀ asker, ∃! runner, requests.key runner = requests.key asker ∧
    (board.requesters runner).isRunner = true
  counted : board.IsOver →
    board.resolutions = (Finset.univ.image requests.key).card ∧
      board.cells.length = (Finset.univ.image requests.key).card
  /-- The memo answers alike when it is asked in some order. -/
  explained : ∃ order, Explains requests order board.requesters ∧ (board.IsOver →
    (requests.memoAfter order).resolutions = board.resolutions ∧
      (requests.memoAfter order).answers.length = board.cells.length)

/-- However requests are interleaved, they come to an end, each key is resolved once, and all that
ask for it share the result. -/
theorem resolves_once (reaches : Relation.ReflTransGen (Step requests) {} board) :
    WellFounded (fun next board : Board ι => Step requests board next) ∧
      board.Resolves requests := by
  obtain ⟨order, linear⟩ := exists_linear reaches
  refine ⟨step_wellFounded requests, ?_⟩
  have once (runner other : ι) (runs : (board.requesters runner).isRunner = true)
      (too : (board.requesters other).isRunner = true)
      (same : requests.key runner = requests.key other) : runner = other :=
    linear.once runs too same
  constructor
  · exact isOver_or_step linear.sound
  · exact once
  · intro asker answer fresh done
    exact linear.exists_runner done
  · intro asker pattern fresh done
    obtain ⟨runner, _, _, found⟩ := linear.exists_runner done
    exact PatternRequest.answer_valid found.symm
  · intro ended asker
    obtain ⟨answer, fresh, done⟩ := Requester.eq_served (ended asker)
    obtain ⟨runner, same, ran, _⟩ := linear.exists_runner done
    have runs : (board.requesters runner).isRunner = true := by
      rw [ran]
      rfl
    refine ⟨runner, ⟨same, runs⟩, ?_⟩
    rintro other ⟨sameToo, too⟩
    exact once other runner too runs (sameToo.trans same.symm)
  · intro ended
    obtain ⟨counter, answers, cells⟩ := linear.counts ended
    rw [counter, (requests.memoAfter_isOrderly order).counted]
    exact ⟨answers, cells⟩
  · refine ⟨order, linear.explains, ?_⟩
    intro ended
    obtain ⟨counter, answers, cells⟩ := linear.counts ended
    exact ⟨counter.symm, answers.trans cells.symm⟩

end Board

/-- Two requests for one key, of which only the second asks for targets that the platform has an
unusable rule for. -/
def unlikeRequests : Requests Bool where
  request second :=
    { framework := "crewai", version := "*", targets := if second then [.tools] else []
      platform :=
        { name := "p", displayName := "P", dependencies := [], envVars := []
          fallback := some
            { callSite := some { keyword := "two words", value := "x", targets := [.tools] } } } }
  source _ := none

/-- The first request makes the cell, but the second enters it; the first is told of its failure. -/
theorem resolves_once_unlike :
    (unlikeRequests.answer false).isOk = true ∧ (unlikeRequests.answer true).isOk = false ∧
      ∃ board, Relation.ReflTransGen (Board.Step unlikeRequests) {} board ∧
        board.requesters false = .served (unlikeRequests.answer true) false ∧
        board.resolutions = 1 ∧ board.Resolves unlikeRequests := by
  refine ⟨by decide +kernel, by decide +kernel, ?_⟩
  have made := Relation.ReflTransGen.single
    (@Board.Step.create Bool _ unlikeRequests {} false rfl List.not_mem_nil)
  have found := made.tail (@Board.Step.find Bool _ unlikeRequests _ true 0 .empty rfl rfl)
  have entered := found.tail (@Board.Step.enter Bool _ unlikeRequests _ true 0 _ rfl rfl)
  have counted := entered.tail (@Board.Step.count Bool _ unlikeRequests _ true 0 rfl)
  have finished := counted.tail (@Board.Step.finish Bool _ unlikeRequests _ true 0 _ rfl rfl)
  have shared := finished.tail (@Board.Step.share Bool _ unlikeRequests _ false 0 _ _ rfl rfl)
  exact ⟨_, shared, rfl, rfl, (Board.resolves_once shared).2⟩

end AgentProbe
