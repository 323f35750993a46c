import Mathlib.Data.List.Induction
import Mathlib.Data.List.Nodup
import AgentProbe.Pattern.Memo

set_option autoImplicit false

/-!
Requests that are made of the memo one after another.

For each key the memo keeps the answer to the first request with that key, and it resolves nothing
else.  Every pattern that it gives out has passed its check.
-/

namespace AgentProbe

/-! ### Answers -/

theorem PatternRequest.checked_valid {pattern result : Pattern}
    (passed : PatternRequest.checked pattern = .ok result) : result.validate = .ok () := by
  unfold PatternRequest.checked at passed
  split at passed
  · rename_i valid
    cases passed
    exact valid
  · cases passed

theorem PatternRequest.fallback_valid {request : PatternRequest} {pattern : Pattern}
    (answered : request.fallback = .ok pattern) : pattern.validate = .ok () := by
  unfold PatternRequest.fallback at answered
  split at answered
  · exact PatternRequest.checked_valid answered
  · cases answered

theorem PatternRequest.answer_valid {source : Option PatternSource} {request : PatternRequest}
    {pattern : Pattern} (answered : request.answer source = .ok pattern) :
    pattern.validate = .ok () := by
  unfold PatternRequest.answer at answered
  split at answered
  · exact PatternRequest.fallback_valid answered
  · split at answered
    · exact PatternRequest.checked_valid answered
    · exact PatternRequest.fallback_valid answered

/-! ### One request -/

namespace PatternMemo

variable {memo : PatternMemo} {request : PatternRequest}

theorem resolve_of_known {answer : Except PatternError Pattern}
    (known : memo.answers.lookup request.key = some answer) (source : Option PatternSource) :
    memo.resolve source request = (answer, memo) := by
  simp only [resolve, known]

theorem resolve_of_unknown (unknown : memo.answers.lookup request.key = none)
    (source : Option PatternSource) :
    memo.resolve source request = (request.answer source,
      { answers := memo.answers ++ [(request.key, request.answer source)]
        resolutions := memo.resolutions + 1 }) := by
  simp only [resolve, unknown]

theorem lookup_resolve (memo : PatternMemo) (source : Option PatternSource)
    (request : PatternRequest) (key : PatternKey) :
    (memo.resolve source request).2.answers.lookup key =
      (memo.answers.lookup key).or
        (if request.key = key then some (request.answer source) else none) := by
  cases found : memo.answers.lookup request.key with
  | some answer =>
      rw [resolve_of_known found]
      by_cases same : request.key = key
      · rw [← same, found, Option.some_or]
      · rw [if_neg same, Option.or_none]
  | none =>
      rw [resolve_of_unknown found, List.lookup_append]
      by_cases same : request.key = key
      · simp [same]
      · have other : (key == request.key) = false := beq_eq_false_iff_ne.mpr (Ne.symm same)
        simp [same, List.lookup_cons, other]

/-- A memo that holds one answer for each key and has resolved each of them once. -/
structure IsOrderly (memo : PatternMemo) : Prop where
  distinct : (memo.answers.map Prod.fst).Nodup
  counted : memo.resolutions = memo.answers.length

theorem isOrderly_empty : IsOrderly {} :=
  ⟨List.nodup_nil, rfl⟩

theorem lookup_eq_none {key : PatternKey} :
    memo.answers.lookup key = none ↔ key ∉ memo.answers.map Prod.fst := by
  rw [List.lookup_eq_none_iff, List.mem_map]
  constructor
  · rintro absent ⟨entry, member, rfl⟩
    have different := absent entry member
    rw [bne_self_eq_false] at different
    cases different
  · intro absent entry member
    apply bne_iff_ne.mpr
    intro same
    exact absent ⟨entry, member, same.symm⟩

theorem IsOrderly.resolve (orderly : memo.IsOrderly) (source : Option PatternSource)
    (request : PatternRequest) : (memo.resolve source request).2.IsOrderly := by
  cases found : memo.answers.lookup request.key with
  | some answer =>
      rw [resolve_of_known found]
      exact orderly
  | none =>
      have absent := lookup_eq_none.mp found
      rw [resolve_of_unknown found]
      constructor
      · rw [List.map_append]
        apply List.Nodup.append orderly.distinct (List.nodup_singleton _)
        intro key member again
        have same := List.mem_singleton.mp again
        subst same
        exact absent member
      · rw [List.length_append, List.length_singleton, orderly.counted]

end PatternMemo

/-! ### Many requests -/

/-- Requests, each with the source that it finds when it is resolved; a source may say something
else the next time. -/
structure Requests (ι : Type) where
  request : ι → PatternRequest
  source : ι → Option PatternSource

namespace Requests

variable {ι : Type} (requests : Requests ι)

def key (asker : ι) : PatternKey :=
  (requests.request asker).key

def answer (asker : ι) : Except PatternError Pattern :=
  (requests.request asker).answer (requests.source asker)

def memoAfter (order : List ι) : PatternMemo :=
  order.foldl
    (fun memo asker => (memo.resolve (requests.source asker) (requests.request asker)).2) {}

def reply (before : List ι) (asker : ι) : Except PatternError Pattern :=
  ((requests.memoAfter before).resolve (requests.source asker) (requests.request asker)).1

def isFirst (before : List ι) (asker : ι) : Bool :=
  before.all fun other => requests.key other != requests.key asker

theorem memoAfter_concat (order : List ι) (asker : ι) :
    requests.memoAfter (order ++ [asker]) =
      ((requests.memoAfter order).resolve (requests.source asker) (requests.request asker)).2 := by
  rw [memoAfter, List.foldl_append]
  rfl

theorem memoAfter_isOrderly (order : List ι) : (requests.memoAfter order).IsOrderly := by
  induction order using List.reverseRecOn with
  | nil => exact PatternMemo.isOrderly_empty
  | append_singleton order asker ih =>
      rw [memoAfter_concat]
      exact ih.resolve _ _

theorem lookup_concat (order : List ι) (asker : ι) (key : PatternKey) :
    (requests.memoAfter (order ++ [asker])).answers.lookup key =
      ((requests.memoAfter order).answers.lookup key).or
        (if requests.key asker = key then some (requests.answer asker) else none) := by
  rw [memoAfter_concat, PatternMemo.lookup_resolve]
  rfl

/-- The memo holds the answer to the first request with a key. -/
theorem lookup_memoAfter (order : List ι) (key : PatternKey) :
    (requests.memoAfter order).answers.lookup key =
      (order.find? fun asker => requests.key asker == key).map requests.answer := by
  induction order using List.reverseRecOn with
  | nil => rfl
  | append_singleton order asker ih =>
      have last : (if requests.key asker = key then some (requests.answer asker) else none) =
          ([asker].find? fun other => requests.key other == key).map requests.answer := by
        by_cases same : requests.key asker = key
        · simp [same]
        · simp [same]
      rw [lookup_concat, ih, List.find?_append, Option.map_or, ← last]

theorem lookup_eq_none_iff {order : List ι} {key : PatternKey} :
    (requests.memoAfter order).answers.lookup key = none ↔
      ∀ asker ∈ order, requests.key asker ≠ key := by
  rw [lookup_memoAfter, Option.map_eq_none_iff, List.find?_eq_none]
  simp only [beq_iff_eq]

theorem isFirst_iff {before : List ι} {asker : ι} :
    requests.isFirst before asker = true ↔
      (requests.memoAfter before).answers.lookup (requests.key asker) = none := by
  rw [lookup_eq_none_iff]
  simp only [isFirst, List.all_eq_true, bne_iff_ne]

/-- A requester that is the first with its key is told what it finds itself. -/
theorem reply_of_isFirst {before : List ι} {asker : ι}
    (first : requests.isFirst before asker = true) :
    requests.reply before asker = requests.answer asker := by
  rw [reply, PatternMemo.resolve_of_unknown (requests.isFirst_iff.mp first)]
  rfl

theorem reply_of_known {before : List ι} {asker : ι} {answer : Except PatternError Pattern}
    (known : (requests.memoAfter before).answers.lookup (requests.key asker) = some answer) :
    requests.reply before asker = answer := by
  rw [reply, PatternMemo.resolve_of_known known]

theorem memoAfter_of_known {order : List ι} {asker : ι} {answer : Except PatternError Pattern}
    (known : (requests.memoAfter order).answers.lookup (requests.key asker) = some answer) :
    requests.memoAfter (order ++ [asker]) = requests.memoAfter order := by
  rw [memoAfter_concat, PatternMemo.resolve_of_known known]

theorem resolutions_of_isFirst {order : List ι} {asker : ι}
    (first : requests.isFirst order asker = true) :
    (requests.memoAfter (order ++ [asker])).resolutions =
      (requests.memoAfter order).resolutions + 1 := by
  rw [memoAfter_concat, PatternMemo.resolve_of_unknown (requests.isFirst_iff.mp first)]

/-- A requester is told what the first one with its key has found. -/
theorem exists_runner (before : List ι) (asker : ι) :
    ∃ runner earlier later, before ++ [asker] = earlier ++ runner :: later ∧
      requests.isFirst earlier runner = true ∧ requests.key runner = requests.key asker ∧
      requests.reply before asker = requests.answer runner := by
  cases known : (requests.memoAfter before).answers.lookup (requests.key asker) with
  | none =>
      have first := requests.isFirst_iff.mpr known
      exact ⟨asker, before, [], rfl, first, rfl, requests.reply_of_isFirst first⟩
  | some answer =>
      have told := requests.reply_of_known known
      rw [lookup_memoAfter] at known
      obtain ⟨runner, found, same⟩ := Option.map_eq_some_iff.mp known
      obtain ⟨named, earlier, later, split, others⟩ := List.find?_eq_some_iff_append.mp found
      have key : requests.key runner = requests.key asker := eq_of_beq named
      have first : requests.isFirst earlier runner = true := by
        rw [isFirst, List.all_eq_true, key]
        exact others
      refine ⟨runner, earlier, later ++ [asker], ?_, first, key, told.trans same.symm⟩
      rw [split, List.append_assoc, List.cons_append]

theorem eq_of_isFirst {order before after others rest : List ι} {asker other : ι}
    (here : order = before ++ asker :: after) (there : order = others ++ other :: rest)
    (first : requests.isFirst before asker = true) (too : requests.isFirst others other = true)
    (same : requests.key asker = requests.key other) : asker = other := by
  have found : order.find? (fun one => requests.key one == requests.key asker) = some asker := by
    rw [isFirst, List.all_eq_true] at first
    exact List.find?_eq_some_iff_append.mpr ⟨beq_self_eq_true _, before, after, here, first⟩
  have again : order.find? (fun one => requests.key one == requests.key asker) = some other := by
    rw [isFirst, List.all_eq_true] at too
    rw [same]
    exact List.find?_eq_some_iff_append.mpr ⟨beq_self_eq_true _, others, rest, there, too⟩
  exact Option.some.inj (found.symm.trans again)

end Requests

end AgentProbe
