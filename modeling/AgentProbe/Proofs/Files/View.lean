import AgentProbe.Files.Disk
import AgentProbe.Proofs.Sequencing

set_option autoImplicit false

/-!
A tree of files seen as a map from locations.

What a location shows is a file with its bytes, a link with its target, or a directory without its
entries.  Putting a file changes what one location shows and nothing else, and the way that a path
takes depends on what locations show, the bytes of files apart.
-/

namespace AgentProbe

inductive View where
  | file (mode : Nat) (content : Bytes)
  | link (target : Path)
  | directory
deriving DecidableEq

def View.outline : View → View
  | .file _ _ => .file 0 []
  | other => other

namespace Entry

def view : Entry → View
  | .file mode content => .file mode content
  | .link target => .link target
  | .directory _ => .directory

def viewAt (top : Entry) (location : Location) : Option View :=
  (top.get? location).map view

theorem view_eq_directory {entry : Entry} (shown : entry.view = .directory) :
    ∃ entries, entry = .directory entries := by
  cases entry with
  | file mode content => cases shown
  | link target => cases shown
  | directory entries => exact ⟨entries, rfl⟩

theorem view_eq_link {entry : Entry} {target : Path} (shown : entry.view = View.link target) :
    entry = .link target := by
  cases entry with
  | file mode content => cases shown
  | link other =>
      cases shown
      rfl
  | directory entries => cases shown

theorem view_eq_file {entry : Entry} {mode : Nat} {content : Bytes}
    (shown : entry.view = View.file mode content) : entry = .file mode content := by
  cases entry with
  | file oldMode old =>
      cases shown
      rfl
  | link target => cases shown
  | directory entries => cases shown

/-! ### Names in a directory -/

theorem lookup_setNamed_self (name : String) (entry : Entry) (entries : List (String × Entry)) :
    (setNamed name entry entries).lookup name = some entry := by
  induction entries with
  | nil => exact List.lookup_cons_self
  | cons other entries ih =>
      obtain ⟨otherName, otherEntry⟩ := other
      rw [setNamed]
      split
      · exact List.lookup_cons_self
      · rename_i different
        have unlike : (name == otherName) = false := by
          rw [Bool.not_eq_true] at different
          rw [← different]
          exact Bool.beq_comm
        simp only [List.lookup_cons, unlike, ih]

theorem lookup_setNamed_ne {name other : String} (different : other ≠ name) (entry : Entry)
    (entries : List (String × Entry)) :
    (setNamed name entry entries).lookup other = entries.lookup other := by
  have unlike : (other == name) = false := beq_false_of_ne different
  induction entries with
  | nil => simp only [setNamed, List.lookup_nil, List.lookup_cons, unlike]
  | cons head entries ih =>
      obtain ⟨headName, headEntry⟩ := head
      rw [setNamed]
      split
      · rename_i same
        have named : headName = name := eq_of_beq same
        simp only [List.lookup_cons, unlike, named]
      · simp only [List.lookup_cons, ih]

theorem setNamed_setNamed (name : String) (first second : Entry) (entries : List (String × Entry)) :
    setNamed name second (setNamed name first entries) = setNamed name second entries := by
  induction entries with
  | nil => simp only [setNamed, beq_self_eq_true, if_true]
  | cons head entries ih =>
      by_cases same : (head.1 == name) = true
      · simp only [setNamed, same, if_true, beq_self_eq_true]
      · simp only [setNamed, same, Bool.false_eq_true, if_false, ih]

theorem setNamed_lookup {name : String} {entry : Entry} {entries : List (String × Entry)}
    (found : entries.lookup name = some entry) : setNamed name entry entries = entries := by
  induction entries with
  | nil => cases found
  | cons head entries ih =>
      obtain ⟨headName, headEntry⟩ := head
      rw [setNamed]
      by_cases same : headName = name
      · subst same
        simp only [List.lookup_cons, beq_self_eq_true, Option.some.injEq] at found
        simp only [beq_self_eq_true, if_true, found]
      · have unlike : (name == headName) = false := beq_false_of_ne fun named => same named.symm
        simp only [List.lookup_cons, unlike] at found
        simp only [beq_iff_eq, same, if_false, ih found]

theorem dropNamed_setNamed {name : String} (entry : Entry) {entries : List (String × Entry)}
    (fresh : name ∉ entries.map Prod.fst) :
    dropNamed name (setNamed name entry entries) = entries := by
  induction entries with
  | nil => simp [setNamed, dropNamed]
  | cons head entries ih =>
      rw [List.map_cons, List.mem_cons, not_or] at fresh
      have unlike : (head.1 == name) = false := beq_false_of_ne fun named => fresh.1 named.symm
      rw [setNamed, unlike]
      change dropNamed name (head :: setNamed name entry entries) = head :: entries
      rw [dropNamed, List.filter_cons, bne, unlike]
      exact congrArg (head :: ·) (ih fresh.2)

/-! ### Locations -/

theorem get?_append (first second : Location) (top : Entry) :
    top.get? (first ++ second) = (top.get? first).bind (get? second) := by
  induction first generalizing top with
  | nil => rfl
  | cons name rest ih =>
      cases top with
      | file mode content => rfl
      | link target => rfl
      | directory entries =>
          change (entries.lookup name).bind (get? (rest ++ second)) =
            ((entries.lookup name).bind (get? rest)).bind (get? second)
          cases entries.lookup name with
          | none => rfl
          | some below => exact ih below

theorem get?_child {top : Entry} {place : Location} {entries : List (String × Entry)}
    (found : top.get? place = some (.directory entries)) (name : String) :
    top.get? (place ++ [name]) = entries.lookup name := by
  rw [get?_append, found, Option.bind_some]
  change (entries.lookup name).bind (get? []) = entries.lookup name
  cases entries.lookup name with
  | none => rfl
  | some below => rfl

theorem viewAt_eq_directory {top : Entry} {place : Location}
    (shown : top.viewAt place = some .directory) :
    ∃ entries, top.get? place = some (.directory entries) := by
  obtain ⟨entry, found, same⟩ := Option.map_eq_some_iff.mp shown
  obtain ⟨entries, rfl⟩ := view_eq_directory same
  exact ⟨entries, found⟩

theorem viewAt_cons {top : Entry} {name : String} {rest : Location} {shown : View}
    (seen : top.viewAt (name :: rest) = some shown) :
    ∃ entries inner, top = .directory entries ∧ entries.lookup name = some inner ∧
      inner.viewAt rest = some shown := by
  obtain ⟨entry, found, same⟩ := Option.map_eq_some_iff.mp seen
  cases top with
  | file mode content => cases found
  | link target => cases found
  | directory entries =>
      obtain ⟨inner, named, below⟩ := Option.bind_eq_some_iff.mp found
      exact ⟨entries, inner, rfl, named, by rw [viewAt, below, ← same]; rfl⟩

theorem put_put (first second : Entry) (location : Location) (top : Entry) :
    put second location (put first location top) = put second location top := by
  induction location generalizing top with
  | nil => rfl
  | cons name rest ih =>
      cases top with
      | file mode content => rfl
      | link target => rfl
      | directory entries =>
          simp only [put, lookup_setNamed_self, Option.getD_some, ih, setNamed_setNamed]

theorem get?_put {top : Entry} {place : Location} {name : String} (new : Entry)
    (parent : top.viewAt place = some .directory) :
    (put new (place ++ [name]) top).get? (place ++ [name]) = some new := by
  induction place generalizing top with
  | nil =>
      obtain ⟨entries, here⟩ := viewAt_eq_directory parent
      cases here
      simp only [List.nil_append, put, get?, lookup_setNamed_self, Option.bind_some]
  | cons first rest ih =>
      obtain ⟨entries, inner, rfl, below, inside⟩ := viewAt_cons parent
      simp only [List.cons_append, put, below, Option.getD_some, get?, lookup_setNamed_self,
        Option.bind_some]
      exact ih inside

/-- Putting a file in a directory changes what its own location shows and nothing else, provided
that nothing was below that location. -/
theorem viewAt_put {top : Entry} {place : Location} {name : String} (mode : Nat) (content : Bytes)
    (parent : top.viewAt place = some .directory)
    (bottom : ∀ step rest, top.viewAt (place ++ name :: step :: rest) = none)
    {location : Location} (elsewhere : location ≠ place ++ [name]) :
    (put (.file mode content) (place ++ [name]) top).viewAt location = top.viewAt location := by
  induction place generalizing top location with
  | nil =>
      obtain ⟨entries, here⟩ := viewAt_eq_directory parent
      cases here
      simp only [List.nil_append, put]
      cases location with
      | nil => rfl
      | cons other rest =>
          by_cases same : other = name
          · subst same
            cases rest with
            | nil => exact absurd rfl elsewhere
            | cons step steps =>
                rw [show Entry.viewAt (.directory entries) (other :: step :: steps) = none from
                  bottom step steps]
                simp only [viewAt, get?, lookup_setNamed_self, Option.bind_some, Option.map_none]
          · simp only [viewAt, get?, lookup_setNamed_ne same]
  | cons first later ih =>
      obtain ⟨entries, inner, rfl, below, inside⟩ := viewAt_cons parent
      have innerBottom : ∀ step rest, inner.viewAt (later ++ name :: step :: rest) = none := by
        intro step rest
        have outer := bottom step rest
        simpa only [viewAt, List.cons_append, get?, below, Option.bind_some] using outer
      simp only [List.cons_append, put, below, Option.getD_some]
      cases location with
      | nil => rfl
      | cons other rest =>
          by_cases same : other = first
          · subst same
            have further : rest ≠ later ++ [name] := by
              rintro rfl
              exact elsewhere rfl
            have unchanged := ih inside innerBottom further
            simpa only [viewAt, get?, lookup_setNamed_self, below, Option.bind_some]
              using unchanged
          · simp only [viewAt, get?, lookup_setNamed_ne same]

/-- Replacing what is no directory by a file changes what its location shows and nothing else. -/
theorem viewAt_put_leaf {top old : Entry} {place : Location} (found : top.get? place = some old)
    (leaf : ∀ entries, old ≠ .directory entries) (mode : Nat) (content : Bytes) :
    (put (.file mode content) place top).viewAt place = some (.file mode content) ∧
      ∀ location, location ≠ place →
        (put (.file mode content) place top).viewAt location = top.viewAt location := by
  have nothing (step : String) (rest : Location) : old.get? (step :: rest) = none := by
    cases old with
    | file _ _ => rfl
    | link _ => rfl
    | directory entries => exact absurd rfl (leaf entries)
  rcases List.eq_nil_or_concat place with rfl | ⟨parent, name, rfl⟩
  · cases found
    refine ⟨rfl, ?_⟩
    intro location elsewhere
    cases location with
    | nil => exact absurd rfl elsewhere
    | cons step rest =>
        rw [viewAt, viewAt, nothing step rest]
        rfl
  · rw [List.concat_eq_append] at found ⊢
    have above : top.viewAt parent = some .directory := by
      rw [get?_append] at found
      obtain ⟨entry, here, inner⟩ := Option.bind_eq_some_iff.mp found
      rw [viewAt, here]
      cases entry with
      | file _ _ => cases inner
      | link _ => cases inner
      | directory _ => rfl
    have bottom (step : String) (rest : Location) :
        top.viewAt (parent ++ name :: step :: rest) = none := by
      have split : parent ++ name :: step :: rest = (parent ++ [name]) ++ step :: rest := by simp
      rw [viewAt, split, get?_append, found, Option.bind_some, nothing step rest]
      rfl
    refine ⟨?_, ?_⟩
    · rw [viewAt, get?_put (.file mode content) above]
      rfl
    · intro location elsewhere
      exact viewAt_put mode content above bottom elsewhere

/-- Putting an entry under a new name and removing it again changes nothing. -/
theorem erase_put {top : Entry} {place : Location} {entries : List (String × Entry)} {name : String}
    (new : Entry) (found : top.get? place = some (.directory entries))
    (fresh : name ∉ entries.map Prod.fst) :
    (put new (place ++ [name]) top).erase (place ++ [name]) = top := by
  induction place generalizing top with
  | nil =>
      cases found
      simp only [List.nil_append, put, erase, dropNamed_setNamed _ fresh]
  | cons first rest ih =>
      cases top with
      | file mode content => cases found
      | link target => cases found
      | directory outer =>
          cases below : outer.lookup first with
          | none => simp [get?, below] at found
          | some inner =>
              simp only [get?, below, Option.bind_some] at found
              simp only [List.cons_append, put, below, Option.getD_some]
              obtain ⟨second, tail, split⟩ : ∃ second tail, rest ++ [name] = second :: tail := by
                cases rest with
                | nil => exact ⟨name, [], rfl⟩
                | cons second tail => exact ⟨second, tail ++ [name], rfl⟩
              have inside := ih found
              rw [split] at inside ⊢
              simp only [erase, lookup_setNamed_self, setNamed_setNamed, inside,
                setNamed_lookup below]

end Entry

end AgentProbe
