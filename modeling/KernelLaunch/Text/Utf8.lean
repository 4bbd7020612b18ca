import KernelLaunch.Bytes

/-! Where bytes stop being UTF-8. A sequence is judged byte by byte: the first byte fixes the
length, the second byte of some lengths a narrower range, so that no character has two spellings
and none is a surrogate or above the last code point. -/

namespace KernelLaunch

inductive Utf8Error where
  /-- The bytes of this length at this index begin no character. -/
  | invalid (index length : Nat)
  /-- The bytes end inside the character that begins at this index. -/
  | incomplete (index : Nat)
  deriving DecidableEq

namespace Utf8Error

def message : Utf8Error → String
  | .invalid index length => s!"invalid utf-8 sequence of {length} bytes from index {index}"
  | .incomplete index => s!"incomplete utf-8 byte sequence from index {index}"

end Utf8Error

namespace Utf8

inductive Sequence where
  | character (length : Nat)
  /-- This many bytes that begin no character. -/
  | invalid (length : Nat)
  /-- The beginning of a character, cut short. -/
  | incomplete
  deriving DecidableEq

def isContinuation (byte : UInt8) : Bool := 0x80 ≤ byte && byte ≤ 0xBF

/-- The length of a character by its first byte, and the range of its second byte; no length when
no character begins with the byte. -/
def leading (byte : UInt8) : Option (Nat × UInt8 × UInt8) :=
  if byte < 0x80 then some (1, 0x80, 0xBF)
  else if byte < 0xC2 then none
  else if byte < 0xE0 then some (2, 0x80, 0xBF)
  else if byte = 0xE0 then some (3, 0xA0, 0xBF)
  else if byte = 0xED then some (3, 0x80, 0x9F)
  else if byte < 0xF0 then some (3, 0x80, 0xBF)
  else if byte = 0xF0 then some (4, 0x90, 0xBF)
  else if byte < 0xF4 then some (4, 0x80, 0xBF)
  else if byte = 0xF4 then some (4, 0x80, 0x8F)
  else none

/-- Judges the bytes after the second one: `seen` bytes are in order and `missing` are to come. -/
def continuations (seen : Nat) : (missing : Nat) → Bytes → Sequence
  | 0, _ => .character seen
  | _ + 1, [] => .incomplete
  | missing + 1, byte :: rest =>
    if isContinuation byte then continuations (seen + 1) missing rest else .invalid seen

def sequence (first : UInt8) (rest : Bytes) : Sequence :=
  match leading first with
  | none => .invalid 1
  | some (1, _) => .character 1
  | some (length, lowest, highest) =>
    match rest with
    | [] => .incomplete
    | second :: rest =>
      if lowest ≤ second && second ≤ highest then continuations 2 (length - 2) rest
      else .invalid 1

def firstError? (index : Nat) : Bytes → Option Utf8Error
  | [] => none
  | first :: rest =>
    match sequence first rest with
    | .character length => firstError? (index + length) (rest.drop (length - 1))
    | .invalid length => some (.invalid index length)
    | .incomplete => some (.incomplete index)
termination_by bytes => bytes.length

/-- The text that the bytes spell, or the first place at which they spell none. -/
def decode (bytes : Bytes) : Except Utf8Error String :=
  match Bytes.toText? bytes with
  | some text => .ok text
  | none => .error ((firstError? 0 bytes).getD (.incomplete bytes.length))

theorem decode_eq_ok_iff {bytes : Bytes} {text : String} :
    decode bytes = .ok text ↔ bytes = Bytes.ofText text := by
  rw [← Bytes.toText?_eq_some_iff, decode]
  cases Bytes.toText? bytes <;> simp

end Utf8
end KernelLaunch
