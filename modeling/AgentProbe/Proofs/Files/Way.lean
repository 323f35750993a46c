import AgentProbe.Proofs.Files.Trace

set_option autoImplicit false

/-!
Ways through a tree of files.

A trace that succeeds is a way: a sequence of moves, each allowed by what stands at the place that was
reached.  A way counts the links that it follows, so traces with different limits can be compared.
Most questions about where paths lead are inductions over ways, in which no move can fail.
-/

namespace AgentProbe

namespace Entry

/-- Where the steps of a link's target start if the link stands in the directory at `place`. -/
def linkBase (target : Path) (place : Location) : Location :=
  if target.isAbsolute then [] else place

/-- The steps lead from `place` to `goal`, through some number of links.  As in a trace, `last` says
whether a link as the last name is followed. -/
inductive Way (top : Entry) (last : Bool) : Nat → Location → List Path.Step → Location → Prop where
  | done {place : Location} : Way top last 0 place [] place
  | stay {links : Nat} {place goal : Location} {step : Path.Step} {rest : List Path.Step}
      {entries : List (String × Entry)} (still : step = .root ∨ step = .here)
      (found : top.get? place = some (.directory entries))
      (onward : Way top last links place rest goal) :
      Way top last links place (step :: rest) goal
  | up {links : Nat} {place goal : Location} {rest : List Path.Step}
      {entries : List (String × Entry)} (found : top.get? place = some (.directory entries))
      (onward : Way top last links place.dropLast rest goal) :
      Way top last links place (.up :: rest) goal
  | down {links : Nat} {place goal : Location} {name : String} {rest : List Path.Step}
      {entries : List (String × Entry)} {entry : Entry}
      (found : top.get? place = some (.directory entries))
      (named : entries.lookup name = some entry) (plain : ∀ target, entry ≠ .link target)
      (onward : Way top last links (place ++ [name]) rest goal) :
      Way top last links place (.name name :: rest) goal
  | halt {place : Location} {name : String} {entries : List (String × Entry)} {target : Path}
      (found : top.get? place = some (.directory entries))
      (named : entries.lookup name = some (.link target)) (halts : last = false) :
      Way top last 0 place [.name name] (place ++ [name])
  | follow {links : Nat} {place goal : Location} {name : String} {rest : List Path.Step}
      {entries : List (String × Entry)} {target : Path}
      (found : top.get? place = some (.directory entries))
      (named : entries.lookup name = some (.link target)) (goes : rest ≠ [] ∨ last = true)
      (onward : Way top last links (linkBase target place) (target.trail ++ rest) goal) :
      Way top last (links + 1) place (.name name :: rest) goal

variable {top : Entry} {last : Bool} {links limit : Nat} {place goal : Location}
  {rest steps : List Path.Step}

/-! ### Ways and traces -/

theorem goes_iff : (rest ≠ [] ∨ last = true) ↔ ¬ (rest.isEmpty && !last) = true := by
  cases rest <;> cases last <;> simp

theorem Way.of_trace (traced : top.trace last limit place steps = .ok goal) :
    ∃ links ≤ limit, top.Way last links place steps goal := by
  induction limit, place, steps using trace.induct top last with
  | case1 limit place =>
      rw [trace] at traced
      cases traced
      exact ⟨0, Nat.zero_le limit, .done⟩
  | case2 limit place rest entries found ih =>
      rw [trace_root found] at traced
      obtain ⟨links, within, onward⟩ := ih traced
      exact ⟨links, within, .stay (Or.inl rfl) found onward⟩
  | case3 limit place rest entries found ih =>
      rw [trace_here found] at traced
      obtain ⟨links, within, onward⟩ := ih traced
      exact ⟨links, within, .stay (Or.inr rfl) found onward⟩
  | case4 limit place rest entries found ih =>
      rw [trace_up found] at traced
      obtain ⟨links, within, onward⟩ := ih traced
      exact ⟨links, within, .up found onward⟩
  | case5 limit place rest entries found name absent =>
      rw [trace_missing found absent] at traced
      cases traced
  | case6 limit place rest entries found name target named ends =>
      rw [trace_link found named, if_pos ends] at traced
      cases traced
      rw [Bool.and_eq_true, List.isEmpty_iff, Bool.not_eq_true'] at ends
      rw [ends.1]
      exact ⟨0, Nat.zero_le limit, .halt found named ends.2⟩
  | case7 place rest entries found name target named goes =>
      rw [trace_link found named, if_neg goes] at traced
      cases traced
  | case8 place rest entries found name target named goes limit ih =>
      rw [trace_link found named, if_neg goes] at traced
      obtain ⟨links, within, onward⟩ := ih traced
      exact ⟨links + 1, Nat.succ_le_succ within, .follow found named (goes_iff.mpr goes) onward⟩
  | case9 limit place rest entries found name entry plain named ih =>
      rw [trace_plain found named plain] at traced
      obtain ⟨links, within, onward⟩ := ih traced
      exact ⟨links, within, .down found named plain onward⟩
  | case10 limit place step rest entry notDirectory found =>
      rw [trace_notDirectory found notDirectory] at traced
      cases traced
  | case11 limit place step rest found =>
      rw [trace_nowhere found] at traced
      cases traced

theorem Way.trace_eq (way : top.Way last links place steps goal) (within : links ≤ limit) :
    top.trace last limit place steps = .ok goal := by
  induction way generalizing limit with
  | done => rw [trace]
  | stay still found _ ih =>
      rcases still with rfl | rfl
      · rw [trace_root found]
        exact ih within
      · rw [trace_here found]
        exact ih within
  | up found _ ih =>
      rw [trace_up found]
      exact ih within
  | down found named plain _ ih =>
      rw [trace_plain found named plain]
      exact ih within
  | halt found named halts =>
      rw [trace_link found named, if_pos (by rw [halts]; rfl)]
  | follow found named goes _ ih =>
      cases limit with
      | zero => cases within
      | succ limit =>
          rw [trace_link found named, if_neg (goes_iff.mp goes)]
          exact ih (Nat.le_of_succ_le_succ within)

/-- A trace succeeds if there is a way with no more links than it may follow. -/
theorem trace_eq_ok_iff :
    top.trace last limit place steps = .ok goal ↔
      ∃ links ≤ limit, top.Way last links place steps goal :=
  ⟨Way.of_trace, fun ⟨_, within, way⟩ => way.trace_eq within⟩

namespace Way

theorem goal_unique {other : Location} {more : Nat} (way : top.Way last links place steps goal)
    (again : top.Way last more place steps other) : goal = other := by
  have first := way.trace_eq (Nat.le_max_left links more)
  have second := again.trace_eq (Nat.le_max_right links more)
  rw [first, Except.ok.injEq] at second
  exact second

theorem split {first more : List Path.Step} (goesOn : more ≠ [])
    (way : top.Way last links place (first ++ more) goal) :
    ∃ middle before after, top.Way true before place first middle ∧
      top.Way last after middle more goal := by
  have traced := way.trace_eq (Nat.le_refl links)
  rcases trace_append top last links place first more goesOn with
    ⟨fault, _, failed⟩ | ⟨middle, left, reached, rest⟩
  · rw [failed] at traced
    cases traced
  · rw [rest] at traced
    obtain ⟨before, _, front⟩ := of_trace reached
    obtain ⟨after, _, back⟩ := of_trace traced
    exact ⟨middle, before, after, front, back⟩

theorem starts_in_directory (way : top.Way last links place steps goal) (goesOn : steps ≠ []) :
    ∃ entries, top.get? place = some (.directory entries) := by
  cases way with
  | done => exact absurd rfl goesOn
  | stay _ found _ => exact ⟨_, found⟩
  | up found _ => exact ⟨_, found⟩
  | down found _ _ _ => exact ⟨_, found⟩
  | halt found _ _ => exact ⟨_, found⟩
  | follow found _ _ _ => exact ⟨_, found⟩

/-- Without following a link at its end a way leads to the same place, or to a link from which the
other way goes on. -/
theorem without_last (way : top.Way true links place steps goal) :
    ∃ fewer ≤ links, ∃ spot, top.Way false fewer place steps spot ∧
      (spot = goal ∨ ∃ target more, top.get? spot = some (.link target) ∧
        top.Way true more (linkBase target spot.dropLast) target.trail goal) := by
  induction way with
  | done => exact ⟨0, Nat.le_refl 0, _, .done, Or.inl rfl⟩
  | stay still found _ ih =>
      obtain ⟨fewer, within, spot, onward, ends⟩ := ih
      exact ⟨fewer, within, spot, .stay still found onward, ends⟩
  | up found _ ih =>
      obtain ⟨fewer, within, spot, onward, ends⟩ := ih
      exact ⟨fewer, within, spot, .up found onward, ends⟩
  | down found named plain _ ih =>
      obtain ⟨fewer, within, spot, onward, ends⟩ := ih
      exact ⟨fewer, within, spot, .down found named plain onward, ends⟩
  | halt found named halts => cases halts
  | @follow links place goal name rest entries target found named _ onward ih =>
      cases rest with
      | nil =>
          refine ⟨0, Nat.zero_le _, place ++ [name], .halt found named rfl, Or.inr ?_⟩
          refine ⟨target, links, (get?_child found name).trans named, ?_⟩
          rw [List.dropLast_concat, ← List.append_nil target.trail]
          exact onward
      | cons step rest =>
          obtain ⟨fewer, within, spot, later, ends⟩ := ih
          refine ⟨fewer + 1, Nat.succ_le_succ within, spot, ?_, ends⟩
          exact .follow found named (Or.inl (List.cons_ne_nil step rest)) later

end Way

/-! ### Another tree -/

section Other

variable {other : Entry}

theorem Way.keptIn (kept : top.KeptIn other) (way : top.Way last links place steps goal) :
    other.Way last links place steps goal := by
  have linked {place : Location} {entries others : List (String × Entry)} {name : String}
      {target : Path} (found : top.get? place = some (.directory entries))
      (here : other.get? place = some (.directory others))
      (named : entries.lookup name = some (.link target)) :
      others.lookup name = some (.link target) :=
    (get?_child here name).symm.trans (kept.link ((get?_child found name).trans named))
  induction way with
  | done => exact .done
  | stay still found _ ih =>
      obtain ⟨others, here⟩ := kept.directory found
      exact .stay still here ih
  | up found _ ih =>
      obtain ⟨others, here⟩ := kept.directory found
      exact .up here ih
  | @down _ _ _ name _ _ _ found named plain _ ih =>
      obtain ⟨others, here⟩ := kept.directory found
      obtain ⟨below, present, notLink⟩ := kept.plain ((get?_child found name).trans named) plain
      exact .down here ((get?_child here name).symm.trans present) notLink ih
  | halt found named halts =>
      obtain ⟨others, here⟩ := kept.directory found
      exact .halt here (linked found here named) halts
  | follow found named goes _ ih =>
      obtain ⟨others, here⟩ := kept.directory found
      exact .follow here (linked found here named) goes ih

theorem directory_of_viewAt {entries : List (String × Entry)}
    (same : other.viewAt place = top.viewAt place)
    (found : top.get? place = some (.directory entries)) :
    ∃ others, other.get? place = some (.directory others) := by
  refine viewAt_eq_directory (same.trans ?_)
  rw [viewAt, found]
  rfl

/-- What has a name in a directory has it in another tree that shows the same. -/
theorem named_of_viewAt {entries others : List (String × Entry)} {name : String} {entry : Entry}
    (same : other.viewAt (place ++ [name]) = top.viewAt (place ++ [name]))
    (found : top.get? place = some (.directory entries))
    (here : other.get? place = some (.directory others)) (named : entries.lookup name = some entry) :
    ∃ shown, others.lookup name = some shown ∧ shown.view = entry.view := by
  rw [viewAt, viewAt, get?_child found, get?_child here, named, Option.map_some] at same
  exact Option.map_eq_some_iff.mp same

/-- A way that never comes to some name is also a way through a tree that differs only at locations
with that name in them. -/
theorem Way.avoiding {avoided : String}
    (same : ∀ location, avoided ∉ location → other.viewAt location = top.viewAt location)
    (unsaid : ∀ location target, avoided ∉ location → top.get? location = some (.link target) →
      Path.Step.name avoided ∉ target.trail)
    (way : top.Way last links place steps goal) (clear : avoided ∉ place)
    (free : Path.Step.name avoided ∉ steps) :
    other.Way last links place steps goal ∧ avoided ∉ goal := by
  have clearChild {place : Location} {name : String} {rest : List Path.Step}
      (clear : avoided ∉ place) (free : Path.Step.name avoided ∉ Path.Step.name name :: rest) :
      avoided ∉ place ++ [name] := by
    intro member
    rcases List.mem_append.mp member with before | here
    · exact clear before
    · rw [List.mem_singleton] at here
      subst here
      exact free List.mem_cons_self
  induction way with
  | done => exact ⟨.done, clear⟩
  | stay still found _ ih =>
      obtain ⟨others, here⟩ := directory_of_viewAt (same _ clear) found
      obtain ⟨onward, out⟩ := ih clear fun member => free (List.mem_cons_of_mem _ member)
      exact ⟨.stay still here onward, out⟩
  | up found _ ih =>
      obtain ⟨others, here⟩ := directory_of_viewAt (same _ clear) found
      obtain ⟨onward, out⟩ := ih (fun member => clear ((List.dropLast_sublist _).mem member))
        fun member => free (List.mem_cons_of_mem _ member)
      exact ⟨.up here onward, out⟩
  | down found named plain _ ih =>
      obtain ⟨others, here⟩ := directory_of_viewAt (same _ clear) found
      obtain ⟨shown, present, alike⟩ := named_of_viewAt (same _ (clearChild clear free)) found here
        named
      obtain ⟨onward, out⟩ := ih (clearChild clear free)
        fun member => free (List.mem_cons_of_mem _ member)
      refine ⟨.down here present ?_ onward, out⟩
      rintro target rfl
      exact plain target (view_eq_link alike.symm)
  | halt found named halts =>
      obtain ⟨others, here⟩ := directory_of_viewAt (same _ clear) found
      obtain ⟨shown, present, alike⟩ := named_of_viewAt (same _ (clearChild clear free)) found here
        named
      rw [view_eq_link alike] at present
      exact ⟨.halt here present halts, clearChild clear free⟩
  | @follow _ place _ name rest _ target found named goes _ ih =>
      obtain ⟨others, here⟩ := directory_of_viewAt (same _ clear) found
      obtain ⟨shown, present, alike⟩ := named_of_viewAt (same _ (clearChild clear free)) found here
        named
      rw [view_eq_link alike] at present
      have base : avoided ∉ linkBase target place := by
        rw [linkBase]
        split
        · exact List.not_mem_nil
        · exact clear
      have further : Path.Step.name avoided ∉ target.trail ++ rest := by
        intro member
        rcases List.mem_append.mp member with said | later
        · exact unsaid _ target (clearChild clear free) ((get?_child found name).trans named) said
        · exact free (List.mem_cons_of_mem _ later)
      obtain ⟨onward, out⟩ := ih base further
      exact ⟨.follow here present goes onward, out⟩

/-- Where a way ends without following a link at its end, a file is put: the same steps lead to that
file, whether or not links at the end are followed.  What was there may be a link, but one that leads
to a file, so that no way goes on behind it. -/
theorem Way.to_new_file {spot : Location} {mode : Nat} {content : Bytes}
    (same : ∀ location, location ≠ spot → other.viewAt location = top.viewAt location)
    (new : other.get? spot = some (.file mode content))
    (old : ∀ entries, top.get? spot ≠ some (.directory entries))
    (dead : ∀ target more middle, top.get? spot = some (.link target) →
      top.Way true more (linkBase target spot.dropLast) target.trail middle →
      ∀ entries, top.get? middle ≠ some (.directory entries))
    (way : top.Way false links place steps goal) (ends : goal = spot) :
    ∃ fewer ≤ links, other.Way true fewer place steps spot := by
  have here {place : Location} {entries : List (String × Entry)}
      (found : top.get? place = some (.directory entries)) :
      ∃ others, other.get? place = some (.directory others) := by
    refine directory_of_viewAt (same place ?_) found
    rintro rfl
    exact old entries found
  induction way with
  | done =>
      rw [ends]
      exact ⟨0, Nat.le_refl 0, .done⟩
  | stay still found _ ih =>
      obtain ⟨others, present⟩ := here found
      obtain ⟨fewer, within, onward⟩ := ih ends
      exact ⟨fewer, within, .stay still present onward⟩
  | up found _ ih =>
      obtain ⟨others, present⟩ := here found
      obtain ⟨fewer, within, onward⟩ := ih ends
      exact ⟨fewer, within, .up present onward⟩
  | @down _ place _ name _ _ entry found named plain _ ih =>
      obtain ⟨others, present⟩ := here found
      obtain ⟨fewer, within, onward⟩ := ih ends
      by_cases met : place ++ [name] = spot
      · have file := (get?_child present name).symm.trans (met ▸ new)
        exact ⟨fewer, within, .down present file (fun _ => by rintro ⟨⟩) onward⟩
      · obtain ⟨shown, inside, alike⟩ := named_of_viewAt (same _ met) found present named
        refine ⟨fewer, within, .down present inside ?_ onward⟩
        rintro target rfl
        exact plain target (view_eq_link alike.symm)
  | @halt place name _ _ found named _ =>
      obtain ⟨others, present⟩ := here found
      have file := (get?_child present name).symm.trans (ends ▸ new)
      rw [← ends]
      exact ⟨0, Nat.le_refl 0, .down present file (fun _ => by rintro ⟨⟩) .done⟩
  | @follow _ place _ name rest _ target found named goes onward ih =>
      have goesOn : rest ≠ [] := by
        rcases goes with more | follows
        · exact more
        · cases follows
      obtain ⟨others, present⟩ := here found
      by_cases met : place ++ [name] = spot
      · -- The link at the spot leads to no directory, so no step can follow it.
        obtain ⟨middle, before, after, front, back⟩ := onward.split goesOn
        obtain ⟨inner, directory⟩ := back.starts_in_directory goesOn
        have base : place = spot.dropLast := by rw [← met, List.dropLast_concat]
        rw [base] at front
        have link := met ▸ (get?_child found name).trans named
        exact absurd directory (dead target before middle link front inner)
      · obtain ⟨shown, inside, alike⟩ := named_of_viewAt (same _ met) found present named
        rw [view_eq_link alike] at inside
        obtain ⟨fewer, within, later⟩ := ih ends
        exact ⟨fewer + 1, Nat.succ_le_succ within, .follow present inside (Or.inl goesOn) later⟩

end Other

end Entry

/-! ### Where paths lead -/

namespace Disk

variable {disk : Disk} {last : Bool} {path : Path} {place : Location}

theorem text_of_locate (located : disk.locate last path = .ok place) :
    path.text.isEmpty = false ∧
      disk.top.trace last Entry.linkLimit (if path.isAbsolute then [] else disk.here) path.trail =
        .ok place := by
  unfold locate at located
  split at located
  · cases located
  · rename_i filled
    exact ⟨Bool.not_eq_true _ ▸ filled, located⟩

/-- A path leads to a place if it is written and there is a way with few enough links. -/
theorem locate_eq_ok_iff :
    disk.locate last path = .ok place ↔ path.text.isEmpty = false ∧
      ∃ links ≤ Entry.linkLimit,
        disk.top.Way last links (Entry.linkBase path disk.here) path.trail place := by
  rw [← Entry.trace_eq_ok_iff]
  constructor
  · exact text_of_locate
  · rintro ⟨filled, traced⟩
    rw [locate, if_neg (by rw [filled]; exact Bool.false_ne_true)]
    exact traced

end Disk

end AgentProbe
