import Mathlib.Data.String.Basic
import AgentProbe.Text.Basic
import AgentProbe.Text.LowerCase

set_option autoImplicit false

/-!
Lower case is final: what it gives has no other lower case.

The characters whose lower case is one other character come in runs, and no run gives a character
that a run moves.  This is checked once, run against run; all else follows from it.  Lower case makes
no blanks either, so that a trimmed text stays trimmed.
-/

namespace AgentProbe

/-! ### Codes -/

theorem toNat_ofNat {code : Nat} (valid : code.isValidChar) : (Char.ofNat code).toNat = code := by
  rw [Char.ofNat, dif_pos valid]
  rfl

theorem toLower_eq (c : Char) :
    c.toLower = if 65 ≤ c.toNat ∧ c.toNat ≤ 90 then Char.ofNat (c.toNat + 32) else c := by
  unfold Char.toLower
  split
  · rename_i capital
    have bounds : 65 ≤ c.toNat ∧ c.toNat ≤ 90 := capital
    have valid : (c.toNat + 32).isValidChar := by
      rw [Nat.isValidChar]
      omega
    rw [if_pos bounds]
    apply Char.toNat_inj.mp
    rw [toNat_ofNat valid]
    change (c.val + 32).toNat = c.toNat + 32
    rw [UInt32.toNat_add]
    change (c.toNat + 32) % 2 ^ 32 = _
    omega
  · rename_i small
    exact (if_neg small).symm

/-! ### Runs -/

namespace CaseRun

def ascii : CaseRun :=
  ⟨65, 90, 1, 32⟩

def table : List CaseRun :=
  ascii :: caseRuns

def moves (run : CaseRun) (code : Nat) : Bool :=
  run.first ≤ code && code ≤ run.last && (code - run.first) % run.step == 0

def lower (run : CaseRun) (code : Nat) : Nat :=
  ((code : Int) + run.delta).toNat

-- The comparisons are the ones that the kernel computes with: there are more than thirty thousand.

def avoids (run : CaseRun) (first last : Nat) : Bool :=
  Nat.blt (run.lower run.last) first || Nat.blt last (run.lower run.first)

/-- Whether nothing that a run gives is moved by the other one: it lies outside of the other, or
every second code between its ends is moved, and those are not the ones. -/
def misses (run other : CaseRun) : Bool :=
  Nat.blt (run.lower run.last) other.first || Nat.blt other.last (run.lower run.first) ||
    (other.step == 2 && (run.step == 2 || run.first == run.last) &&
      (run.lower run.first + other.first) % 2 == 1)

/-- Whether what a run gives are characters, no blanks among them, that stay as they are. -/
def isFinal (run : CaseRun) : Bool :=
  -run.delta ≤ run.first && run.avoids 0xD800 0xDFFF && Nat.blt (run.lower run.last) 0x110000 &&
    run.avoids 0x130 0x130 && run.avoids 0x3A3 0x3A3 && run.avoids 0 32 &&
    blankRanges.all (fun range => run.avoids range.1 range.2) && table.all run.misses

theorem isFinal_table : ∀ run ∈ table, run.isFinal = true := by
  decide +kernel

variable {run : CaseRun} {code : Nat}

theorem not_moves_of_misses (rising : -run.delta ≤ run.first) (moved : run.moves code = true)
    {other : CaseRun} (missed : run.misses other = true) : other.moves (run.lower code) = false := by
  simp only [moves, Bool.and_eq_true, decide_eq_true_eq, beq_iff_eq] at moved
  simp only [misses, Bool.or_eq_true, Bool.and_eq_true, Nat.blt_eq, beq_iff_eq] at missed
  rw [Bool.eq_false_iff]
  simp only [moves, ne_eq, Bool.and_eq_true, decide_eq_true_eq, beq_iff_eq]
  rintro ⟨⟨least, most⟩, even⟩
  simp only [lower] at least most even missed
  rcases missed with (below | above) | ⟨⟨sparse, single⟩, odd⟩
  · omega
  · omega
  · rw [sparse] at even
    rcases single with double | same
    · rw [double] at moved
      omega
    · omega

theorem not_between_of_avoids (moved : run.moves code = true) {first last : Nat}
    (avoided : run.avoids first last = true) :
    ¬ (first ≤ run.lower code ∧ run.lower code ≤ last) := by
  simp only [moves, Bool.and_eq_true, decide_eq_true_eq] at moved
  simp only [avoids, Bool.or_eq_true, Nat.blt_eq] at avoided
  simp only [lower] at avoided ⊢
  omega

structure Gives (code : Nat) : Prop where
  valid : code.isValidChar
  dotted : code ≠ 0x130
  sigma : code ≠ 0x3A3
  unmoved : ∀ run ∈ table, run.moves code = false
  solid : isBlank (Char.ofNat code) = false

theorem gives_lower (known : run ∈ table) (moved : run.moves code = true) :
    Gives (run.lower code) := by
  have final := isFinal_table run known
  simp only [isFinal, Bool.and_eq_true, decide_eq_true_eq, Nat.blt_eq, List.all_eq_true] at final
  obtain ⟨⟨⟨⟨⟨⟨⟨rising, surrogates⟩, limit⟩, dotted⟩, sigma⟩, ascii⟩, blanks⟩, missed⟩ := final
  have most : run.lower code ≤ run.lower run.last := by
    simp only [moves, Bool.and_eq_true, decide_eq_true_eq] at moved
    simp only [lower]
    omega
  have valid : (run.lower code).isValidChar := by
    have apart := not_between_of_avoids moved surrogates
    rw [Nat.isValidChar]
    omega
  constructor
  · exact valid
  · have apart := not_between_of_avoids moved dotted
    omega
  · have apart := not_between_of_avoids moved sigma
    omega
  · intro other member
    exact not_moves_of_misses rising moved (missed other member)
  · have apart := not_between_of_avoids moved ascii
    have high : 32 < run.lower code := by omega
    rw [isBlank, Ranges.classify, toNat_ofNat valid]
    split
    · rw [Bool.or_eq_false_iff, beq_eq_false_iff_ne, Bool.and_eq_false_iff,
        decide_eq_false_iff_not, decide_eq_false_iff_not]
      constructor
      · intro same
        have code := congrArg Char.toNat same
        rw [toNat_ofNat valid] at code
        change _ = 32 at code
        omega
      · omega
    · rw [Ranges.has, List.any_eq_false]
      intro range member
      have apart := not_between_of_avoids moved (blanks range member)
      rw [Bool.and_eq_true, decide_eq_true_eq, decide_eq_true_eq]
      exact apart

end CaseRun

/-! ### Characters -/

/-- What the lower case of a character is: no other one, one that a run gives, or two for the capital
letter with a dot. -/
theorem lowerChar_cases (c : Char) :
    (lowerChar c = [c] ∧ c.toNat ≠ 0x3A3) ∨
    (c.toNat = 0x130 ∧ lowerChar c = ['i', Char.ofNat 0x307]) ∨
    ∃ run ∈ CaseRun.table, run.moves c.toNat = true ∧
      lowerChar c = [Char.ofNat (run.lower c.toNat)] := by
  rw [lowerChar]
  split
  · rename_i low
    rw [toLower_eq]
    split
    · rename_i capital
      refine Or.inr (Or.inr ⟨CaseRun.ascii, List.mem_cons_self, ?_, rfl⟩)
      rw [CaseRun.moves, CaseRun.ascii, Nat.mod_one, decide_eq_true capital.1,
        decide_eq_true capital.2]
      rfl
    · exact Or.inl ⟨rfl, by omega⟩
  · split
    · rename_i dotted
      exact Or.inr (Or.inl ⟨beq_iff_eq.mp dotted, rfl⟩)
    · split
      · rename_i run found
        have moved := List.find?_some found
        have known := List.mem_of_find?_eq_some found
        exact Or.inr (Or.inr ⟨run, List.mem_cons_of_mem _ known, moved, rfl⟩)
      · rename_i unmoved
        refine Or.inl ⟨rfl, ?_⟩
        intro sigma
        rw [sigma] at unmoved
        exact absurd unmoved (by decide)

theorem lowerChar_eq_self {c : Char} (dotted : c.toNat ≠ 0x130)
    (unmoved : ∀ run ∈ CaseRun.table, run.moves c.toNat = false) : lowerChar c = [c] := by
  rcases lowerChar_cases c with ⟨same, _⟩ | ⟨known, _⟩ | ⟨run, member, moved, _⟩
  · exact same
  · exact absurd known dotted
  · rw [unmoved run member] at moved
    cases moved

structure IsLower (c : Char) : Prop where
  fixed : lowerChar c = [c]
  sigma : c.toNat ≠ 0x3A3

/-- What lower case makes of a character: it is kept from then on, and a blank was one before. -/
structure Lowers (c lowered : Char) : Prop where
  lower : IsLower lowered
  blank : isBlank lowered = true → lowered = c

theorem lowers_of_gives {c : Char} {code : Nat} (given : CaseRun.Gives code) :
    Lowers c (Char.ofNat code) where
  lower := by
    have same := toNat_ofNat given.valid
    constructor
    · apply lowerChar_eq_self
      · rw [same]
        exact given.dotted
      · rw [same]
        exact given.unmoved
    · rw [same]
      exact given.sigma
  blank := by
    intro blank
    rw [given.solid] at blank
    cases blank

theorem lowers_of_mem_lowerChar {c lowered : Char} (member : lowered ∈ lowerChar c) :
    Lowers c lowered := by
  rcases lowerChar_cases c with ⟨same, sigma⟩ | ⟨_, pair⟩ | ⟨run, known, moved, single⟩
  · rw [same, List.mem_singleton] at member
    rw [member]
    exact ⟨⟨same, sigma⟩, fun _ => rfl⟩
  · rw [pair, List.mem_cons, List.mem_singleton] at member
    rcases member with rfl | rfl
    · exact ⟨⟨by decide, by decide⟩, fun blank => absurd blank (by decide)⟩
    · exact ⟨⟨by decide, by decide⟩, fun blank => absurd blank (by decide)⟩
  · rw [single, List.mem_singleton] at member
    rw [member]
    exact lowers_of_gives (CaseRun.gives_lower known moved)

theorem lowerChar_ne_nil (c : Char) : lowerChar c ≠ [] := by
  rcases lowerChar_cases c with ⟨same, _⟩ | ⟨_, pair⟩ | ⟨run, _, _, single⟩
  · rw [same]
    exact List.cons_ne_nil _ _
  · rw [pair]
    exact List.cons_ne_nil _ _
  · rw [single]
    exact List.cons_ne_nil _ _

/-! ### Texts -/

def lowerPiece (before : Text) (c : Char) (rest : Text) : Text :=
  if c.toNat == 0x3A3 then
    [Char.ofNat (if meetsCased before && !meetsCased rest then 0x3C2 else 0x3C3)]
  else lowerChar c

theorem lowerFrom_cons (before : Text) (c : Char) (rest : Text) :
    lowerFrom before (c :: rest) = lowerPiece before c rest ++ lowerFrom (c :: before) rest :=
  rfl

theorem lowers_of_mem_lowerPiece {before rest : Text} {c lowered : Char}
    (member : lowered ∈ lowerPiece before c rest) : Lowers c lowered := by
  rw [lowerPiece] at member
  split at member
  · rw [List.mem_singleton] at member
    rw [member]
    split
    · exact ⟨⟨by decide, by decide⟩, fun blank => absurd blank (by decide)⟩
    · exact ⟨⟨by decide, by decide⟩, fun blank => absurd blank (by decide)⟩
  · exact lowers_of_mem_lowerChar member

theorem lowerPiece_ne_nil (before : Text) (c : Char) (rest : Text) :
    lowerPiece before c rest ≠ [] := by
  rw [lowerPiece]
  split
  · exact List.cons_ne_nil _ _
  · exact lowerChar_ne_nil c

theorem isLower_of_mem_lowerFrom {before text : Text} {lowered : Char}
    (member : lowered ∈ lowerFrom before text) : IsLower lowered := by
  induction text generalizing before with
  | nil => cases member
  | cons c rest ih =>
      rw [lowerFrom_cons, List.mem_append] at member
      rcases member with here | later
      · exact (lowers_of_mem_lowerPiece here).lower
      · exact ih later

theorem lowerFrom_eq_self (before : Text) {text : Text} (lower : ∀ c ∈ text, IsLower c) :
    lowerFrom before text = text := by
  induction text generalizing before with
  | nil => rfl
  | cons c rest ih =>
      have here := lower c List.mem_cons_self
      have piece : lowerPiece before c rest = [c] := by
        rw [lowerPiece, if_neg (by rw [beq_iff_eq]; exact here.sigma)]
        exact here.fixed
      rw [lowerFrom_cons, piece, ih (c :: before) fun d member =>
        lower d (List.mem_cons_of_mem c member)]
      rfl

theorem first_lowerFrom {before text : Text} {lowered : Char}
    (first : (lowerFrom before text).head? = some lowered) :
    ∃ c, text.head? = some c ∧ Lowers c lowered := by
  cases text with
  | nil => cases first
  | cons c rest =>
      rw [lowerFrom_cons, List.head?_append_of_ne_nil _ (lowerPiece_ne_nil before c rest)] at first
      exact ⟨c, rfl, lowers_of_mem_lowerPiece (List.mem_of_head? first)⟩

theorem last_lowerFrom {before text : Text} {lowered : Char}
    (last : (lowerFrom before text).getLast? = some lowered) :
    ∃ c, text.getLast? = some c ∧ Lowers c lowered := by
  induction text generalizing before with
  | nil => cases last
  | cons c rest ih =>
      rw [lowerFrom_cons] at last
      cases rest with
      | nil =>
          rw [lowerFrom, List.append_nil] at last
          exact ⟨c, rfl, lowers_of_mem_lowerPiece (List.mem_of_getLast? last)⟩
      | cons d rest =>
          have filled : lowerFrom (c :: before) (d :: rest) ≠ [] := by
            rw [lowerFrom_cons]
            exact List.append_ne_nil_of_left_ne_nil (lowerPiece_ne_nil (c :: before) d rest) _
          rw [List.getLast?_append_of_ne_nil _ filled] at last
          obtain ⟨found, ends, lowers⟩ := ih last
          exact ⟨found, by rw [List.getLast?_cons_cons]; exact ends, lowers⟩

end AgentProbe
