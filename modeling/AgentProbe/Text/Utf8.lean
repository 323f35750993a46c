import AgentProbe.Text.Basic

set_option autoImplicit false

/-!
Text as bytes: UTF-8.

A character is a leading byte and the continuation bytes that it announces.  The leading byte also
bounds the first continuation byte, which rules out long forms, surrogates and code points that do
not exist.  Reading stops at the first byte that cannot continue a character; the lenient reader
puts a replacement character for every such piece instead.
-/

namespace AgentProbe

abbrev Bytes := List UInt8

namespace Utf8

def encode (text : Text) : Bytes :=
  text.flatMap String.utf8EncodeChar

inductive Fault where
  /-- `length` bytes from `index` on start no character. -/
  | invalid (index length : Nat)
  /-- The bytes end within the character that starts at `index`. -/
  | incomplete (index : Nat)
deriving DecidableEq, Repr, Inhabited

def Fault.message : Fault → String
  | .invalid index length =>
    "invalid utf-8 sequence of " ++ toString length ++ " bytes from index " ++ toString index
  | .incomplete index => "incomplete utf-8 byte sequence from index " ++ toString index

structure Begun where
  /-- The number of continuation bytes that are still to come. -/
  owed : Nat
  /-- The least value of the next byte. -/
  low : Nat
  /-- The greatest value of the next byte. -/
  high : Nat
  /-- The bits read so far. -/
  value : Nat
  /-- The number of bytes read so far. -/
  taken : Nat
deriving DecidableEq, Repr, Inhabited

/-- What a byte between characters means: nothing, a whole character or the start of one. -/
def Begun.lead? (byte : UInt8) : Option Begun :=
  let b := byte.toNat
  if b < 0x80 then some ⟨0, 0, 0, b, 1⟩
  else if b < 0xC2 then none
  else if b < 0xE0 then some ⟨1, 0x80, 0xBF, b - 0xC0, 1⟩
  else if b == 0xE0 then some ⟨2, 0xA0, 0xBF, 0, 1⟩
  else if b == 0xED then some ⟨2, 0x80, 0x9F, 0xD, 1⟩
  else if b < 0xF0 then some ⟨2, 0x80, 0xBF, b - 0xE0, 1⟩
  else if b == 0xF0 then some ⟨3, 0x90, 0xBF, 0, 1⟩
  else if b < 0xF4 then some ⟨3, 0x80, 0xBF, b - 0xF0, 1⟩
  else if b == 0xF4 then some ⟨3, 0x80, 0x8F, 4, 1⟩
  else none

/-- The character with one more byte, if the byte can continue it. -/
def Begun.next? (begun : Begun) (byte : UInt8) : Option Begun :=
  let b := byte.toNat
  if begun.low ≤ b && b ≤ begun.high then
    some ⟨begun.owed - 1, 0x80, 0xBF, begun.value * 64 + (b - 0x80), begun.taken + 1⟩
  else none

def decodeFrom (index : Nat) : Option Begun → Bytes → Except Fault Text
  | none, [] => .ok []
  | some begun, [] => .error (.incomplete (index - begun.taken))
  | begun?, byte :: rest =>
    let read := match begun? with
      | none => Begun.lead? byte
      | some begun => begun.next? byte
    match read, begun? with
    | none, none => .error (.invalid index 1)
    | none, some begun => .error (.invalid (index - begun.taken) begun.taken)
    | some begun, _ =>
      if begun.owed == 0 then
        match decodeFrom (index + 1) none rest with
        | .ok text => .ok (Char.ofNat begun.value :: text)
        | .error fault => .error fault
      else decodeFrom (index + 1) (some begun) rest

def decode (bytes : Bytes) : Except Fault Text :=
  decodeFrom 0 none bytes

def replacement : Char := '\uFFFD'

def decodeLossyFrom : Option Begun → Bytes → Text
  | none, [] => []
  | some _, [] => [replacement]
  | begun?, byte :: rest =>
    let broken := match begun? with
      | none => false
      | some begun => (begun.next? byte).isNone
    let read := match begun? with
      | none => Begun.lead? byte
      | some begun => (begun.next? byte).or (Begun.lead? byte)
    (if broken then [replacement] else []) ++ match read with
      | none => replacement :: decodeLossyFrom none rest
      | some begun =>
        if begun.owed == 0 then Char.ofNat begun.value :: decodeLossyFrom none rest
        else decodeLossyFrom (some begun) rest

/-- The text of the bytes, with a replacement character for every piece that is not text. -/
def decodeLossy (bytes : Bytes) : Text :=
  decodeLossyFrom none bytes

end Utf8

end AgentProbe
