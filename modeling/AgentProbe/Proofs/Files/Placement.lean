import AgentProbe.Files.Walk
import AgentProbe.Proofs.Files.Way
import AgentProbe.Proofs.Text.Lines

set_option autoImplicit false

/-!
Where the files of a walk are.

A walk goes down the tree without following links, and leaves out an excluded entry with all that lies
below it.  So it comes to a file exactly if no way down to the file meets an excluded entry.  It
reports paths that are written by joining names.  In a proper tree such a path leads back to the file
that was seen, whether or not a link at its end would be followed.
-/

namespace AgentProbe

/-! ### Written paths -/

namespace Path

/-- Whether a word can be a name in a directory: it has no slash, and no step is written like it. -/
def isName (word : String) : Bool :=
  !word.toList.contains '/' && Step.ofPiece word.toList == .name word

theorem splitOn_name {word : String} (proper : isName word = true) :
    Text.splitOn '/' word.toList = [word.toList] := by
  simp only [isName, Bool.and_eq_true, Bool.not_eq_true', beq_iff_eq] at proper
  refine Text.splitBy_of_forall ?_
  intro c member
  refine beq_false_of_ne ?_
  rintro rfl
  rw [List.contains_iff_mem.mpr member] at proper
  cases proper.1

theorem head?_name {word : String} (proper : isName word = true) :
    (word.toList.head? == some '/') = false := by
  refine beq_false_of_ne ?_
  intro first
  have split := splitOn_name proper
  cases letters : word.toList with
  | nil =>
      rw [letters] at first
      cases first
  | cons c rest =>
      rw [letters] at first split
      cases first
      rw [Text.splitOn, Text.splitBy] at split
      simp at split

/-- A name is joined behind a slash, which a path may end with already. -/
theorem toList_join {path : Path} {word : String} (filled : path.text.isEmpty = false)
    (proper : isName word = true) :
    (∃ before, path.text.toList = before ++ ['/'] ∧
        (path.join word).text.toList = before ++ '/' :: word.toList) ∨
      (path.join word).text.toList = path.text.toList ++ '/' :: word.toList := by
  simp only [join, head?_name proper, filled, Bool.or_self, Bool.false_eq_true, if_false]
  split
  · rename_i closed
    obtain ⟨before, split⟩ := List.getLast?_eq_some_iff.mp (eq_of_beq closed)
    refine Or.inl ⟨before, split, ?_⟩
    rw [String.toList_append, split, List.append_assoc, List.singleton_append]
  · refine Or.inr ?_
    rw [String.toList_append, String.toList_append, List.append_assoc]
    rfl

theorem trail_of_slash {path : Path} {before : Text} {word : String} (proper : isName word = true)
    (written : path.text.toList = before ++ '/' :: word.toList) :
    path.trail = (Text.splitOn '/' before).map Step.ofPiece ++ [.name word] := by
  have step : Step.ofPiece word.toList = .name word := by
    simp only [isName, Bool.and_eq_true, beq_iff_eq] at proper
    exact proper.2
  have single : Text.splitBy (· == '/') word.toList = [word.toList] := splitOn_name proper
  rw [trail, written, Text.splitOn, Text.splitBy_append (by simp), single, List.map_append,
    List.map_singleton, step]
  rfl

/-- The steps of a path with a name joined to it; a closing slash does not count. -/
theorem trail_join {path : Path} {word : String} (filled : path.text.isEmpty = false)
    (proper : isName word = true) :
    ∃ steps, (path.trail = steps ∨ path.trail = steps ++ [.here]) ∧
      (path.join word).trail = steps ++ [.name word] := by
  rcases toList_join filled proper with ⟨before, closed, written⟩ | written
  · refine ⟨_, Or.inr ?_, trail_of_slash proper written⟩
    rw [trail, closed, Text.splitOn, Text.splitBy_append (by simp), List.map_append]
    rfl
  · exact ⟨path.trail, Or.inl rfl, trail_of_slash proper written⟩

theorem isAbsolute_join {path : Path} {word : String} (filled : path.text.isEmpty = false)
    (proper : isName word = true) :
    (path.join word).isAbsolute = path.isAbsolute ∧ (path.join word).text.isEmpty = false := by
  have longer : ∃ first rest more, path.text.toList = first :: rest ∧
      (path.join word).text.toList = first :: (rest ++ more) := by
    cases letters : path.text.toList with
    | nil =>
        rw [String.toList_eq_nil_iff.mp letters] at filled
        cases filled
    | cons first rest =>
        rcases toList_join filled proper with ⟨before, closed, written⟩ | written
        · refine ⟨first, rest, word.toList, rfl, ?_⟩
          rw [written, ← List.cons_append, ← letters, closed, List.append_assoc]
          rfl
        · exact ⟨first, rest, _, rfl, by rw [written, letters, List.cons_append]⟩
  obtain ⟨first, rest, more, letters, joined⟩ := longer
  constructor
  · rw [isAbsolute, isAbsolute, joined, letters]
    rfl
  · rw [String.isEmpty_eq_false_iff]
    intro empty
    rw [empty] at joined
    cases joined

end Path

/-! ### Where a joined path leads -/

namespace Disk

/-- One name further down from a directory. -/
theorem locate_join {disk : Disk} {path : Path} {place : Location}
    {entries : List (String × Entry)} {word : String} {entry : Entry} (last : Bool)
    (located : disk.locate true path = .ok place)
    (found : disk.top.get? place = some (.directory entries))
    (named : entries.lookup word = some entry) (plain : ∀ target, entry ≠ .link target)
    (proper : Path.isName word = true) :
    disk.locate last (path.join word) = .ok (place ++ [word]) := by
  obtain ⟨filled, traced⟩ := text_of_locate located
  obtain ⟨absolute, joinedFilled⟩ := Path.isAbsolute_join filled proper
  obtain ⟨steps, shape, joined⟩ := Path.trail_join filled proper
  rw [locate, if_neg (by rw [joinedFilled]; exact Bool.false_ne_true), absolute, joined]
  generalize (if path.isAbsolute = true then [] else disk.here) = start at traced ⊢
  have onward (links : Nat) :
      disk.top.trace last links place [.name word] = .ok (place ++ [word]) := by
    rw [Entry.trace_plain found named plain, Entry.trace]
  -- The steps in front of the name lead to the place, with or without the closing slash.
  have reached : disk.top.trace true Entry.linkLimit start steps = .ok place := by
    rcases shape with same | closed
    · rw [← same]
      exact traced
    · rw [closed] at traced
      rcases Entry.trace_append disk.top true Entry.linkLimit start steps [.here]
        (List.cons_ne_nil _ _) with ⟨fault, _, failed⟩ | ⟨middle, left, halfway, rest⟩
      · rw [failed] at traced
        cases traced
      · rw [rest] at traced
        cases here : disk.top.get? middle with
        | none =>
            rw [Entry.trace_nowhere here] at traced
            cases traced
        | some inner =>
            cases inner with
            | file mode content =>
                rw [Entry.trace_notDirectory here fun _ => by rintro ⟨⟩] at traced
                cases traced
            | link target =>
                rw [Entry.trace_notDirectory here fun _ => by rintro ⟨⟩] at traced
                cases traced
            | directory inner =>
                rw [Entry.trace_here here, Entry.trace] at traced
                cases traced
                exact halfway
  rcases Entry.trace_append disk.top last Entry.linkLimit start steps [.name word]
    (List.cons_ne_nil _ _) with ⟨fault, failed, _⟩ | ⟨middle, left, halfway, rest⟩
  · rw [reached] at failed
    cases failed
  · rw [reached] at halfway
    cases halfway
    rw [rest]
    exact onward left

/-- A path leads to a regular file, and no link stands at its end. -/
def Placed (disk : Disk) (path : Path) (place : Location) : Prop :=
  (∀ last, disk.locate last path = .ok place) ∧
    ∃ mode content, disk.top.get? place = some (.file mode content)

/-- Names that lead from a directory down to a file give a path that leads there. -/
theorem placed_joinAll {disk : Disk} {path : Path} {place : Location} {entry : Entry}
    {names : Location} {mode : Nat} {content : Bytes}
    (located : disk.locate true path = .ok place) (found : disk.top.get? place = some entry)
    (file : entry.get? names = some (.file mode content)) (below : names ≠ [])
    (proper : ∀ name ∈ names, Path.isName name = true) :
    disk.Placed (path.joinAll names) (place ++ names) := by
  induction names generalizing path place entry with
  | nil => exact absurd rfl below
  | cons name rest ih =>
      cases entry with
      | file _ _ => cases file
      | link _ => cases file
      | directory entries =>
          obtain ⟨child, named, inner⟩ := Option.bind_eq_some_iff.mp file
          have plain : ∀ target, child ≠ .link target := by
            rintro target rfl
            cases rest with
            | nil => cases inner
            | cons _ _ => cases inner
          have step (last : Bool) : disk.locate last (path.join name) = .ok (place ++ [name]) :=
            locate_join last located found named plain (proper name List.mem_cons_self)
          have there : disk.top.get? (place ++ [name]) = some child :=
            (Entry.get?_child found name).trans named
          cases rest with
          | nil =>
              cases inner
              exact ⟨step, mode, content, there⟩
          | cons next more =>
              have deeper := ih (step true) there inner (List.cons_ne_nil _ _)
                fun other member => proper other (List.mem_cons_of_mem name member)
              rw [List.append_assoc] at deeper
              exact deeper

end Disk

/-! ### Proper trees -/

namespace Entry

mutual

def isProper : Entry → Bool
  | .file _ _ => true
  | .link _ => true
  | .directory entries => decide (entries.map Prod.fst).Nodup && areProper entries

def areProper : List (String × Entry) → Bool
  | [] => true
  | (name, entry) :: entries => Path.isName name && isProper entry && areProper entries

end

theorem areProper_mem {entries : List (String × Entry)} (proper : areProper entries = true)
    {name : String} {entry : Entry} (member : (name, entry) ∈ entries) :
    Path.isName name = true ∧ entry.isProper = true := by
  induction entries with
  | nil => cases member
  | cons head entries ih =>
      obtain ⟨headName, headEntry⟩ := head
      rw [areProper, Bool.and_eq_true, Bool.and_eq_true] at proper
      rcases List.mem_cons.mp member with same | later
      · cases same
        exact proper.1
      · exact ih proper.2 later

theorem lookup_of_mem {entries : List (String × Entry)} (distinct : (entries.map Prod.fst).Nodup)
    {name : String} {entry : Entry} (member : (name, entry) ∈ entries) :
    entries.lookup name = some entry := by
  induction entries with
  | nil => cases member
  | cons head entries ih =>
      obtain ⟨headName, headEntry⟩ := head
      rw [List.map_cons, List.nodup_cons] at distinct
      rcases List.mem_cons.mp member with same | later
      · cases same
        simp only [List.lookup_cons, beq_self_eq_true]
      · have different : name ≠ headName := by
          rintro rfl
          exact distinct.1 (List.mem_map.mpr ⟨_, later, rfl⟩)
        simp only [List.lookup_cons, beq_false_of_ne different]
        exact ih distinct.2 later

theorem mem_of_lookup {entries : List (String × Entry)} {name : String} {entry : Entry}
    (found : entries.lookup name = some entry) : (name, entry) ∈ entries := by
  obtain ⟨before, after, split, _⟩ := List.lookup_eq_some_iff.mp found
  rw [split]
  exact List.mem_append_right before List.mem_cons_self

theorem isProper_get? {top entry : Entry} {place : Location} (proper : top.isProper = true)
    (found : top.get? place = some entry) : entry.isProper = true := by
  induction place generalizing top with
  | nil =>
      cases found
      exact proper
  | cons name rest ih =>
      cases top with
      | file mode content => cases found
      | link target => cases found
      | directory entries =>
          rw [isProper, Bool.and_eq_true] at proper
          obtain ⟨child, named, inner⟩ := Option.bind_eq_some_iff.mp found
          exact ih (areProper_mem proper.2 (mem_of_lookup named)).2 inner

/-! ### Walks -/

/-- No entry on the way from `place` down by some names is excluded, the last one included. -/
def Spared (excluded : Location → Bool) (place names : Location) : Prop :=
  ∀ front, front ≠ [] → front <+: names → excluded (place ++ front) = false

theorem spared_nil (excluded : Location → Bool) (place : Location) : Spared excluded place [] := by
  intro front filled begins
  exact absurd (List.prefix_nil.mp begins) filled

theorem spared_cons {excluded : Location → Bool} {place names : Location} {name : String} :
    Spared excluded place (name :: names) ↔
      excluded (place ++ [name]) = false ∧ Spared excluded (place ++ [name]) names := by
  constructor
  · intro spared
    refine ⟨spared [name] (List.cons_ne_nil _ _) (List.prefix_append [name] names), ?_⟩
    intro front _ begins
    have longer := spared (name :: front) (List.cons_ne_nil _ _)
      (List.cons_prefix_cons.mpr ⟨rfl, begins⟩)
    rwa [List.append_assoc]
  · rintro ⟨here, later⟩ front filled begins
    cases front with
    | nil => exact absurd rfl filled
    | cons first rest =>
        obtain ⟨rfl, inner⟩ := List.cons_prefix_cons.mp begins
        cases rest with
        | nil => exact here
        | cons second more =>
            have deeper := later (second :: more) (List.cons_ne_nil _ _) inner
            rwa [List.append_assoc] at deeper

/-- The names lead from an entry to a regular file, through directories only. -/
def HasFile (entry : Entry) (names : Location) : Prop :=
  ∃ mode content, entry.get? names = some (.file mode content)

mutual

/-- A walk over a proper tree comes to the files that are not excluded on the way, and to no others. -/
theorem mem_walk_iff (excluded : Location → Bool) (place : Location) :
    (entry : Entry) → entry.isProper = true → (location : Location) →
      (location ∈ entry.walk excluded place ↔
        ∃ names, location = place ++ names ∧ entry.HasFile names ∧ Spared excluded place names)
  | .file mode content, _, location => by
      rw [walk, List.mem_singleton]
      constructor
      · intro here
        exact ⟨[], by rw [here, List.append_nil], ⟨mode, content, rfl⟩, spared_nil excluded place⟩
      · rintro ⟨names, same, ⟨_, _, file⟩, _⟩
        cases names with
        | nil => rw [same, List.append_nil]
        | cons name rest => cases file
  | .link target, _, location => by
      rw [walk]
      constructor
      · intro member
        cases member
      · rintro ⟨names, _, ⟨_, _, file⟩, _⟩
        cases names <;> cases file
  | .directory entries, proper, location => by
      rw [isProper, Bool.and_eq_true, decide_eq_true_eq] at proper
      rw [walk, mem_walkAll_iff excluded place entries proper.2 location]
      constructor
      · rintro ⟨name, entry, names, inside, same, ⟨mode, content, file⟩, spared⟩
        refine ⟨name :: names, same, ⟨mode, content, ?_⟩, spared⟩
        rw [get?, lookup_of_mem proper.1 inside, Option.bind_some]
        exact file
      · rintro ⟨names, same, ⟨mode, content, file⟩, spared⟩
        cases names with
        | nil => cases file
        | cons name rest =>
            obtain ⟨inner, named, below⟩ := Option.bind_eq_some_iff.mp file
            exact ⟨name, inner, rest, mem_of_lookup named, same, ⟨mode, content, below⟩, spared⟩

theorem mem_walkAll_iff (excluded : Location → Bool) (place : Location) :
    (entries : List (String × Entry)) → areProper entries = true → (location : Location) →
      (location ∈ walkAll excluded place entries ↔
        ∃ name entry names, (name, entry) ∈ entries ∧ location = place ++ name :: names ∧
          entry.HasFile names ∧ Spared excluded place (name :: names))
  | [], _, location => by
      rw [walkAll]
      constructor
      · intro member
        cases member
      · rintro ⟨_, _, _, inside, _⟩
        cases inside
  | (name, entry) :: entries, proper, location => by
      rw [areProper, Bool.and_eq_true, Bool.and_eq_true] at proper
      rw [walkAll, List.mem_append, mem_walkAll_iff excluded place entries proper.2 location]
      constructor
      · rintro (here | ⟨other, inner, names, inside, rest⟩)
        · split at here
          · cases here
          · rename_i kept
            obtain ⟨names, same, file, spared⟩ :=
              (mem_walk_iff excluded (place ++ [name]) entry proper.1.2 location).mp here
            refine ⟨name, entry, names, List.mem_cons_self, ?_, file, ?_⟩
            · rw [same, List.append_assoc, List.singleton_append]
            · exact spared_cons.mpr ⟨Bool.not_eq_true _ ▸ kept, spared⟩
        · exact ⟨other, inner, names, List.mem_cons_of_mem _ inside, rest⟩
      · rintro ⟨other, inner, names, inside, same, file, spared⟩
        rcases List.mem_cons.mp inside with first | later
        · cases first
          obtain ⟨kept, below⟩ := spared_cons.mp spared
          rw [kept]
          refine Or.inl ((mem_walk_iff excluded (place ++ [name]) entry proper.1.2 location).mpr ?_)
          refine ⟨names, ?_, file, below⟩
          rw [same, List.append_assoc, List.singleton_append]
        · exact Or.inr ⟨other, inner, names, later, same, file, spared⟩

end

theorem HasFile.isName {entry : Entry} {names : Location} (file : entry.HasFile names)
    (proper : entry.isProper = true) : ∀ name ∈ names, Path.isName name = true := by
  obtain ⟨mode, content, found⟩ := file
  induction names generalizing entry with
  | nil =>
      intro name none
      cases none
  | cons name rest ih =>
      cases entry with
      | file _ _ => cases found
      | link _ => cases found
      | directory entries =>
          obtain ⟨inner, named, below⟩ := Option.bind_eq_some_iff.mp found
          rw [isProper, Bool.and_eq_true] at proper
          have child := areProper_mem proper.2 (mem_of_lookup named)
          intro other member
          rcases List.mem_cons.mp member with rfl | later
          · exact child.1
          · exact ih child.2 below other later

def LeadsToFile (entry : Entry) (names : Location) : Prop :=
  entry.HasFile names ∧ ∀ name ∈ names, Path.isName name = true

theorem mem_walk (excluded : Location → Bool) (place : Location) (entry : Entry)
    (proper : entry.isProper = true) (location : Location)
    (member : location ∈ entry.walk excluded place) :
    ∃ names, location = place ++ names ∧ entry.LeadsToFile names := by
  obtain ⟨names, same, file, _⟩ := (mem_walk_iff excluded place entry proper location).mp member
  exact ⟨names, same, file, file.isName proper⟩

theorem mem_walkAll (excluded : Location → Bool) (place : Location)
    (entries : List (String × Entry)) (proper : areProper entries = true) (location : Location)
    (member : location ∈ walkAll excluded place entries) :
    ∃ name entry names, (name, entry) ∈ entries ∧ location = place ++ name :: names ∧
      entry.LeadsToFile names := by
  obtain ⟨name, entry, names, inside, same, file, _⟩ :=
    (mem_walkAll_iff excluded place entries proper location).mp member
  exact ⟨name, entry, names, inside, same, file, file.isName (areProper_mem proper inside).2⟩

end Entry

namespace Disk

theorem mem_pythonFiles {disk : Disk} {excluded : Location → Bool} {root path : Path}
    (proper : disk.top.isProper = true) (member : path ∈ disk.pythonFiles excluded root) :
    ∃ base names, disk.locate true root = .ok base ∧ path = root.joinAll names ∧
      disk.Placed path (base ++ names) := by
  unfold pythonFiles at member
  cases opened : disk.entry root with
  | error fault =>
      rw [opened] at member
      cases member
  | ok entry =>
      rw [opened] at member
      have listed := (List.mergeSort_perm _ _).mem_iff.mp member
      obtain ⟨names, filtered, written⟩ := List.mem_map.mp listed
      obtain ⟨walked, python⟩ := List.mem_filter.mp filtered
      obtain ⟨base, located, found⟩ := entry_eq_ok opened
      obtain ⟨below, same, ⟨mode, content, file⟩, named⟩ :=
        Entry.mem_walk excluded [] entry (Entry.isProper_get? proper found) names walked
      rw [List.nil_append] at same
      subst same
      have deeper : names ≠ [] := by
        rintro rfl
        cases python
      refine ⟨base, names, located, written.symm, ?_⟩
      rw [← written]
      exact placed_joinAll located found file deeper named

theorem placed_of_mem_pythonFiles {disk : Disk} {excluded : Location → Bool} {root path : Path}
    (proper : disk.top.isProper = true) (member : path ∈ disk.pythonFiles excluded root) :
    ∃ place, disk.Placed path place := by
  obtain ⟨base, names, _, _, placed⟩ := mem_pythonFiles proper member
  exact ⟨base ++ names, placed⟩

theorem eq_of_locate_pythonFiles {disk : Disk} {excluded : Location → Bool} {root left right : Path}
    (proper : disk.top.isProper = true) (inLeft : left ∈ disk.pythonFiles excluded root)
    (inRight : right ∈ disk.pythonFiles excluded root)
    (same : disk.locate true left = disk.locate true right) : left = right := by
  obtain ⟨base, names, located, rfl, placed⟩ := mem_pythonFiles proper inLeft
  obtain ⟨again, others, relocated, rfl, replaced⟩ := mem_pythonFiles proper inRight
  rw [located] at relocated
  cases relocated
  rw [placed.1 true, replaced.1 true, Except.ok.injEq] at same
  rw [List.append_cancel_left same]

end Disk

end AgentProbe
