/-!
# `GridWalk.Text.Utf8`: text from bytes

`Utf8.decode` reads UTF-8 byte by byte. A character is a lead byte and the continuation bytes
that it announces. Overlong forms, surrogates and code points past U+10FFFF are refused at the
second byte, so each refused input has one of three causes. `Utf8.decodeMarked` does the same
after one byte order mark, if there is one.
-/

set_option autoImplicit false

namespace GridWalk.Text.Utf8

/-- Why bytes are no UTF-8. -/
inductive DecodeError
  | invalidStart
  | invalidContinuation
  | unexpectedEnd
deriving DecidableEq

/-- The reason in words. -/
def DecodeError.reason : DecodeError → String
  | invalidStart => "invalid start byte"
  | invalidContinuation => "invalid continuation byte"
  | unexpectedEnd => "unexpected end of data"

/-- A character that has begun. `value` holds the bits so far, `missing` more bytes must
follow, and the next one must lie between `low` and `high`. -/
structure Pending where
  value : Nat
  missing : Nat
  low : Nat
  high : Nat

/-- What a lead byte begins: the pending character, or `none` when no character starts so. The
bounds on the second byte rule out overlong forms, surrogates and code points past U+10FFFF. -/
def lead? (b : Nat) : Option Pending :=
  if b < 0x80 then some ⟨b, 0, 0, 0⟩
  else if b < 0xC2 then none
  else if b < 0xE0 then some ⟨b - 0xC0, 1, 0x80, 0xBF⟩
  else if b = 0xE0 then some ⟨0, 2, 0xA0, 0xBF⟩
  else if b = 0xED then some ⟨0xD, 2, 0x80, 0x9F⟩
  else if b < 0xF0 then some ⟨b - 0xE0, 2, 0x80, 0xBF⟩
  else if b = 0xF0 then some ⟨0, 3, 0x90, 0xBF⟩
  else if b < 0xF4 then some ⟨b - 0xF0, 3, 0x80, 0xBF⟩
  else if b = 0xF4 then some ⟨4, 3, 0x80, 0x8F⟩
  else none

/-- The decoder between two bytes: the characters read, and the one that has begun. -/
structure State where
  done : Array Char
  pending : Option Pending

/-- The state after a character got all but `p.missing` of its bytes. -/
def State.put (s : State) (p : Pending) : State :=
  if p.missing = 0 then ⟨s.done.push (Char.ofNat p.value), none⟩ else ⟨s.done, some p⟩

/-- The decoder takes one byte. -/
def step (s : State) (byte : UInt8) : Except DecodeError State :=
  let b := byte.toNat
  match s.pending with
  | none =>
    match lead? b with
    | none => .error .invalidStart
    | some p => .ok (s.put p)
  | some p =>
    if p.low ≤ b ∧ b ≤ p.high then
      .ok (s.put ⟨p.value * 64 + b % 64, p.missing - 1, 0x80, 0xBF⟩)
    else .error .invalidContinuation

/-- The text that the bytes stand for. -/
def decode (bytes : List UInt8) : Except DecodeError String := do
  let s ← bytes.foldlM step ⟨#[], none⟩
  match s.pending with
  | none => return String.ofList s.done.toList
  | some _ => throw .unexpectedEnd

/-- The bytes of the byte order mark. -/
def mark : List UInt8 := [0xEF, 0xBB, 0xBF]

/-- The bytes after the byte order mark. Bytes that are only a beginning of the mark stand for
no text at all. -/
def unmarked (bytes : List UInt8) : List UInt8 :=
  if bytes.isPrefixOf mark then []
  else if mark.isPrefixOf bytes then bytes.drop mark.length
  else bytes

/-- The text of a file that may begin with a byte order mark. -/
def decodeMarked (bytes : List UInt8) : Except DecodeError String :=
  decode (unmarked bytes)

end GridWalk.Text.Utf8
