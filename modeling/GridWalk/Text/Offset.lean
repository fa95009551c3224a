/-!
# `GridWalk.Text.Offset`: offsets into a text

Offsets count characters from 0. A negative offset counts back from the end of the text, so
that -1 stands before the last character. Reading from there goes through the end of the text
to offset 0 and on through the whole text. In front of the first character counted that way
there is nothing to read. `drop_readFrom` says that reading some characters and then the others
is reading all of them.
-/

set_option autoImplicit false

namespace GridWalk.Text

/-- The offset counted from the start of a text with `length` characters. It stops at the start. -/
def fromStart (length : Nat) (offset : Int) : Nat :=
  if 0 ≤ offset then offset.toNat else (offset + length).toNat

/-- The characters from the offset `first` up to the offset `last`. -/
def slice (text : List Char) (first last : Int) : List Char :=
  (text.take (fromStart text.length last)).drop (fromStart text.length first)

/-- All that is read from the offset on. -/
def readFrom (text : List Char) (offset : Int) : List Char :=
  if 0 ≤ offset then text.drop offset.toNat
  else if 0 ≤ offset + text.length then text.drop (offset + text.length).toNat ++ text
  else []

/-- From an offset of the text itself, what is read is the text after it. -/
@[simp]
theorem readFrom_natCast (text : List Char) (n : Nat) : readFrom text n = text.drop n := by
  simp [readFrom]

/-- Reading can be interrupted. -/
theorem drop_readFrom {text : List Char} {offset : Int} (h : 0 ≤ offset + text.length) (n : Nat) :
    (readFrom text offset).drop n = readFrom text (offset + n) := by
  unfold readFrom
  by_cases hpos : 0 ≤ offset
  · have hn : 0 ≤ offset + n := by omega
    rw [if_pos hpos, if_pos hn, List.drop_drop]
    congr 1
    omega
  · rw [if_neg hpos, if_pos h, List.drop_append, List.drop_drop]
    by_cases hn : 0 ≤ offset + n
    · rw [if_pos hn, List.drop_eq_nil_of_le (by omega), List.nil_append, List.length_drop]
      congr 1
      omega
    · rw [if_neg hn, if_pos (by omega), List.length_drop]
      congr 1
      · congr 1
        omega
      · rw [show n - (text.length - (offset + text.length).toNat) = 0 by omega, List.drop_zero]

/-- No more is read than lies between the offset and the end. -/
theorem length_readFrom_le (text : List Char) (offset : Int) :
    (readFrom text offset).length ≤ (text.length - offset).toNat := by
  unfold readFrom
  split
  · rw [List.length_drop]
    omega
  · split
    · rw [List.length_append, List.length_drop]
      omega
    · simp

end GridWalk.Text
