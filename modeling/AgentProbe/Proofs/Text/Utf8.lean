import AgentProbe.Text.Utf8

set_option autoImplicit false

/-!
Reading back what was written: the bytes of a text decode to the text.

The reader is followed byte by byte.  Each byte of an encoded character is one that the reader can
take next, and the bits it has collected at the last of them are those of the character.
-/

namespace AgentProbe.Utf8

/-! ### One byte -/

theorem toNat_ofNat_of_lt (value : Nat) (small : value < 256) :
    (UInt8.ofNat value).toNat = value := by
  rw [UInt8.toNat_ofNat']
  exact Nat.mod_eq_of_lt small

theorem decodeFrom_single {index : Nat} {byte : UInt8} {begun : Begun} {rest : Bytes} {text : Text}
    (leads : Begun.lead? byte = some begun) (whole : begun.owed = 0)
    (read : decodeFrom (index + 1) none rest = .ok text) :
    decodeFrom index none (byte :: rest) = .ok (Char.ofNat begun.value :: text) := by
  simp only [decodeFrom, leads, whole, beq_self_eq_true, if_true, read]

theorem decodeFrom_lead {index : Nat} {byte : UInt8} {begun : Begun} {rest : Bytes}
    (leads : Begun.lead? byte = some begun) (more : begun.owed ≠ 0) :
    decodeFrom index none (byte :: rest) = decodeFrom (index + 1) (some begun) rest := by
  simp only [decodeFrom, leads, beq_iff_eq, more, if_false]

/-- A continuation byte adds six bits. -/
theorem next?_continuation {owed low high value taken bits : Nat} (small : bits < 64)
    (above : low ≤ bits + 128) (below : bits + 128 ≤ high) :
    (Begun.mk owed low high value taken).next? (UInt8.ofNat (bits + 128)) =
      some ⟨owed - 1, 0x80, 0xBF, value * 64 + bits, taken + 1⟩ := by
  have same := toNat_ofNat_of_lt (bits + 128) (by omega)
  simp only [Begun.next?, same, above, below, decide_true, Bool.and_self, if_true,
    Nat.add_sub_cancel]

theorem decodeFrom_more {index owed low high value taken bits : Nat} {rest : Bytes}
    (small : bits < 64) (above : low ≤ bits + 128) (below : bits + 128 ≤ high) :
    decodeFrom index (some ⟨owed + 2, low, high, value, taken⟩)
        (UInt8.ofNat (bits + 128) :: rest) =
      decodeFrom (index + 1) (some ⟨owed + 1, 0x80, 0xBF, value * 64 + bits, taken + 1⟩) rest := by
  simp only [decodeFrom, next?_continuation small above below, Nat.reduceSubDiff, beq_iff_eq,
    Nat.succ_ne_zero, if_false]

theorem decodeFrom_last {index low high value taken bits : Nat} {rest : Bytes} {text : Text}
    (small : bits < 64) (above : low ≤ bits + 128) (below : bits + 128 ≤ high)
    (read : decodeFrom (index + 1) none rest = .ok text) :
    decodeFrom index (some ⟨1, low, high, value, taken⟩) (UInt8.ofNat (bits + 128) :: rest) =
      .ok (Char.ofNat (value * 64 + bits) :: text) := by
  simp only [decodeFrom, next?_continuation small above below, Nat.sub_self, beq_self_eq_true,
    if_true, read]

/-! ### Leading bytes -/

theorem lead?_one {value : Nat} (small : value ≤ 0x7f) :
    Begun.lead? (UInt8.ofNat value) = some ⟨0, 0, 0, value, 1⟩ := by
  have same := toNat_ofNat_of_lt value (by omega)
  have ascii : value < 0x80 := by omega
  simp only [Begun.lead?, same, ascii, if_true]

theorem lead?_two {bits : Nat} (low : 2 ≤ bits) (high : bits < 32) :
    Begun.lead? (UInt8.ofNat (bits + 0xc0)) = some ⟨1, 0x80, 0xBF, bits, 1⟩ := by
  have same := toNat_ofNat_of_lt (bits + 0xc0) (by omega)
  simp only [Begun.lead?, same]
  rw [if_neg (by omega), if_neg (by omega), if_pos (by omega), Nat.add_sub_cancel]

/-- The byte that leads three leaves room for the continuation byte that has to follow. -/
theorem lead?_three (bits following : Nat) (high : bits < 16) (small : following < 64)
    (long : 0x800 ≤ bits * 4096 + following * 64 + 63)
    (proper : ¬ (bits = 13 ∧ 32 ≤ following)) :
    ∃ low top, Begun.lead? (UInt8.ofNat (bits + 0xe0)) = some ⟨2, low, top, bits, 1⟩ ∧
      low ≤ following + 128 ∧ following + 128 ≤ top := by
  have same := toNat_ofNat_of_lt (bits + 0xe0) (by omega)
  simp only [Begun.lead?, same, beq_iff_eq]
  rw [if_neg (by omega), if_neg (by omega), if_neg (by omega)]
  by_cases first : bits = 0
  · refine ⟨0xA0, 0xBF, ?_, by omega, by omega⟩
    rw [if_pos (by omega), first]
  · rw [if_neg (by omega)]
    by_cases surrogate : bits = 13
    · refine ⟨0x80, 0x9F, ?_, by omega, by omega⟩
      rw [if_pos (by omega), surrogate]
    · refine ⟨0x80, 0xBF, ?_, by omega, by omega⟩
      rw [if_neg (by omega), if_pos (by omega), Nat.add_sub_cancel]

/-- The byte that leads four leaves room for the continuation byte that has to follow. -/
theorem lead?_four (bits following : Nat) (high : bits < 5) (small : following < 64)
    (long : 0x10000 ≤ bits * 262144 + following * 4096 + 4095)
    (proper : ¬ (bits = 4 ∧ 16 ≤ following)) :
    ∃ low top, Begun.lead? (UInt8.ofNat (bits + 0xf0)) = some ⟨3, low, top, bits, 1⟩ ∧
      low ≤ following + 128 ∧ following + 128 ≤ top := by
  have same := toNat_ofNat_of_lt (bits + 0xf0) (by omega)
  simp only [Begun.lead?, same, beq_iff_eq]
  rw [if_neg (by omega), if_neg (by omega), if_neg (by omega), if_neg (by omega),
    if_neg (by omega), if_neg (by omega)]
  by_cases first : bits = 0
  · refine ⟨0x90, 0xBF, ?_, by omega, by omega⟩
    rw [if_pos (by omega), first]
  · rw [if_neg (by omega)]
    by_cases last : bits = 4
    · refine ⟨0x80, 0x8F, ?_, by omega, by omega⟩
      rw [if_neg (by omega), if_pos (by omega), last]
    · refine ⟨0x80, 0xBF, ?_, by omega, by omega⟩
      rw [if_pos (by omega), Nat.add_sub_cancel]

/-! ### One character and a whole text -/

theorem code_valid (c : Char) :
    c.val.toNat < 0xd800 ∨ (0xdfff < c.val.toNat ∧ c.val.toNat < 0x110000) :=
  c.valid

theorem ofNat_code (c : Char) (value : Nat) (same : value = c.val.toNat) : Char.ofNat value = c := by
  rw [same]
  exact Char.ofNat_toNat c

theorem decodeFrom_encodeChar (c : Char) {rest : Bytes} {text : Text}
    (read : ∀ index, decodeFrom index none rest = .ok text) (index : Nat) :
    decodeFrom index none (String.utf8EncodeChar c ++ rest) = .ok (c :: text) := by
  have valid := code_valid c
  unfold String.utf8EncodeChar
  generalize code : c.val.toNat = value at valid
  dsimp only
  split
  · rename_i one
    rw [List.singleton_append, decodeFrom_single (lead?_one one) rfl (read _),
      ofNat_code c value code.symm]
  split
  · rename_i notOne two
    rw [List.cons_append, List.singleton_append,
      decodeFrom_lead (lead?_two (by omega) (by omega)) (Nat.succ_ne_zero _),
      decodeFrom_last (by omega) (by omega) (by omega) (read _), ofNat_code c _ (by omega)]
  split
  · rename_i notTwo three
    obtain ⟨low, top, leads, above, below⟩ := lead?_three (value / 4096 % 16) (value / 64 % 64)
      (by omega) (by omega) (by omega) (by omega)
    rw [List.cons_append, List.cons_append, List.singleton_append,
      decodeFrom_lead leads (Nat.succ_ne_zero _), decodeFrom_more (by omega) above below,
      decodeFrom_last (by omega) (by omega) (by omega) (read _), ofNat_code c _ (by omega)]
  · rename_i notThree
    obtain ⟨low, top, leads, above, below⟩ := lead?_four (value / 262144 % 8) (value / 4096 % 64)
      (by omega) (by omega) (by omega) (by omega)
    rw [List.cons_append, List.cons_append, List.cons_append, List.singleton_append,
      decodeFrom_lead leads (Nat.succ_ne_zero _), decodeFrom_more (by omega) above below,
      decodeFrom_more (by omega) (by omega) (by omega),
      decodeFrom_last (by omega) (by omega) (by omega) (read _), ofNat_code c _ (by omega)]

theorem decodeFrom_encode (text : Text) (index : Nat) :
    decodeFrom index none (encode text) = .ok text := by
  induction text generalizing index with
  | nil => rfl
  | cons c rest ih =>
      rw [encode, List.flatMap_cons]
      exact decodeFrom_encodeChar c ih index

/-- The bytes of a text decode to the text. -/
theorem decode_encode (text : Text) : decode (encode text) = .ok text :=
  decodeFrom_encode text 0

end AgentProbe.Utf8
