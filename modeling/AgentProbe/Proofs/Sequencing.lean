set_option autoImplicit false

/-!
Sequences of steps that may fail: what follows from the success, or from the failure, of the whole.
-/

namespace AgentProbe.Sequencing

variable {Fault Item State Result : Type}

theorem bind_eq_ok {first : Except Fault Item} {next : Item → Except Fault Result}
    {result : Result} :
    (first >>= next) = .ok result ↔ ∃ item, first = .ok item ∧ next item = .ok result := by
  cases first with
  | error fault =>
      constructor
      · intro impossible
        cases impossible
      · rintro ⟨item, impossible, _⟩
        cases impossible
  | ok item =>
      constructor
      · intro finished
        exact ⟨item, rfl, finished⟩
      · rintro ⟨other, same, finished⟩
        cases same
        exact finished

theorem eq_ok_of_toOption {first : Except Fault Item} {item : Item}
    (finished : first.toOption = some item) : first = .ok item := by
  cases first with
  | error fault => cases finished
  | ok other =>
      cases finished
      rfl

/-- What every step of a fold preserves holds at its end. -/
theorem foldlM_preserves {step : State → Item → Except Fault State} {invariant : State → Prop}
    (preserved : ∀ state item next, invariant state → step state item = .ok next → invariant next)
    (items : List Item) (start finish : State) (opening : invariant start)
    (folded : items.foldlM step start = .ok finish) : invariant finish := by
  induction items generalizing start with
  | nil =>
      cases folded
      exact opening
  | cons item items ih =>
      rw [List.foldlM_cons] at folded
      obtain ⟨middle, stepped, rest⟩ := bind_eq_ok.mp folded
      exact ih middle (preserved start item middle opening stepped) rest

/-- A fold keeps account of the items that it has gone through. -/
theorem foldlM_accounts {step : State → Item → Except Fault State}
    {account : List Item → State → Prop}
    (preserved : ∀ done state item next, account done state → step state item = .ok next →
      account (done ++ [item]) next)
    (items done : List Item) (start finish : State) (opening : account done start)
    (folded : items.foldlM step start = .ok finish) : account (done ++ items) finish := by
  induction items generalizing done start with
  | nil =>
      cases folded
      rw [List.append_nil]
      exact opening
  | cons item items ih =>
      rw [List.foldlM_cons] at folded
      obtain ⟨middle, stepped, rest⟩ := bind_eq_ok.mp folded
      have later := ih (done ++ [item]) middle (preserved done start item middle opening stepped) rest
      rwa [List.append_assoc, List.singleton_append] at later

/-- Items that change no state can be left out of a fold. -/
theorem foldlM_filter {step : State → Item → Except Fault State} {relevant : Item → Bool}
    (idle : ∀ state item, relevant item = false → step state item = .ok state)
    (items : List Item) (start : State) :
    (items.filter relevant).foldlM step start = items.foldlM step start := by
  induction items generalizing start with
  | nil => rfl
  | cons item items ih =>
      rw [List.filter_cons, List.foldlM_cons]
      cases matters : relevant item with
      | true =>
          rw [if_pos rfl, List.foldlM_cons]
          exact congrArg (step start item >>= ·) (funext ih)
      | false =>
          rw [idle start item matters, if_neg Bool.false_ne_true]
          exact ih start

theorem mapM_cons_eq_ok {step : Item → Except Fault Result} {item : Item} {items : List Item}
    {results : List Result} (mapped : (item :: items).mapM step = .ok results) :
    ∃ first rest, step item = .ok first ∧ items.mapM step = .ok rest ∧ results = first :: rest := by
  rw [List.mapM_cons] at mapped
  obtain ⟨first, stepped, finished⟩ := bind_eq_ok.mp mapped
  obtain ⟨rest, others, same⟩ := bind_eq_ok.mp finished
  cases same
  exact ⟨first, rest, stepped, others, rfl⟩

theorem mem_of_mapM_eq_ok {step : Item → Except Fault Result} {items : List Item}
    {results : List Result} (mapped : items.mapM step = .ok results) {result : Result}
    (member : result ∈ results) : ∃ item ∈ items, step item = .ok result := by
  induction items generalizing results with
  | nil =>
      cases mapped
      cases member
  | cons item items ih =>
      obtain ⟨first, rest, stepped, others, rfl⟩ := mapM_cons_eq_ok mapped
      rcases List.mem_cons.mp member with rfl | later
      · exact ⟨item, List.mem_cons_self, stepped⟩
      · obtain ⟨source, present, same⟩ := ih others later
        exact ⟨source, List.mem_cons_of_mem item present, same⟩

theorem ok_of_mapM_eq_ok {step : Item → Except Fault Result} {items : List Item}
    {results : List Result} (mapped : items.mapM step = .ok results) {item : Item}
    (member : item ∈ items) : ∃ result ∈ results, step item = .ok result := by
  induction items generalizing results with
  | nil => cases member
  | cons head items ih =>
      obtain ⟨first, rest, stepped, others, rfl⟩ := mapM_cons_eq_ok mapped
      rcases List.mem_cons.mp member with rfl | later
      · exact ⟨first, List.mem_cons_self, stepped⟩
      · obtain ⟨result, present, same⟩ := ih others later
        exact ⟨result, List.mem_cons_of_mem first present, same⟩

/-- Results are related as the items that they come from. -/
theorem pairwise_of_mapM_eq_ok {step : Item → Except Fault Result} {items : List Item}
    {results : List Result} {related : Result → Result → Prop}
    (mapped : items.mapM step = .ok results)
    (pairs : items.Pairwise fun left right => ∀ first second, step left = .ok first →
      step right = .ok second → related first second) : results.Pairwise related := by
  induction items generalizing results with
  | nil =>
      cases mapped
      exact List.Pairwise.nil
  | cons item items ih =>
      obtain ⟨first, rest, stepped, restMapped, rfl⟩ := mapM_cons_eq_ok mapped
      obtain ⟨ahead, pairs⟩ := List.pairwise_cons.mp pairs
      refine List.pairwise_cons.mpr ⟨?_, ih restMapped pairs⟩
      intro second member
      obtain ⟨other, present, same⟩ := mem_of_mapM_eq_ok restMapped member
      exact ahead other present first second stepped same

theorem mapM_ok_of_forall {step : Item → Except Fault Result} {items : List Item}
    (succeeds : ∀ item ∈ items, ∃ result, step item = .ok result) :
    ∃ results, items.mapM step = .ok results := by
  induction items with
  | nil => exact ⟨[], rfl⟩
  | cons item items ih =>
      obtain ⟨first, stepped⟩ := succeeds item List.mem_cons_self
      obtain ⟨rest, others⟩ := ih fun other member =>
        succeeds other (List.mem_cons_of_mem item member)
      refine ⟨first :: rest, ?_⟩
      rw [List.mapM_cons, stepped, others]
      rfl

theorem exists_of_mapM_eq_error {step : Item → Except Fault Result} {items : List Item}
    {fault : Fault} (mapped : items.mapM step = .error fault) :
    ∃ item ∈ items, step item = .error fault := by
  induction items with
  | nil => cases mapped
  | cons item items ih =>
      rw [List.mapM_cons] at mapped
      cases stepped : step item with
      | error early =>
          rw [stepped] at mapped
          cases mapped
          exact ⟨item, List.mem_cons_self, stepped⟩
      | ok first =>
          rw [stepped] at mapped
          cases others : items.mapM step with
          | error late =>
              rw [others] at mapped
              cases mapped
              obtain ⟨source, present, failed⟩ := ih others
              exact ⟨source, List.mem_cons_of_mem item present, failed⟩
          | ok rest =>
              rw [others] at mapped
              cases mapped

end AgentProbe.Sequencing
