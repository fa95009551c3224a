import GridWalk.Fault
import GridWalk.ParseError
import GridWalk.Text.Position
import GridWalk.Text.Quoted

/-!
# `GridWalk.Scan.Cursor`: a place in a text

A cursor is a text with an offset. It also holds the unread rest, so that looking ahead costs
nothing. The rest is what is read from the offset on, which is a field of the type. An offset
past the end leaves no rest. A negative offset counts back from the end, and if there are not
that many characters, the cursor stands outside: there it cannot look at anything.
-/

set_option autoImplicit false

namespace GridWalk

open GridWalk.Text (position quotedChars readFrom fromStart)

/-- A place in a text. -/
structure Cursor where
  text : List Char
  pos : Int
  rest : List Char
  rest_eq : rest = readFrom text pos

namespace Cursor

/-- The beginning of a text. -/
def start (text : List Char) : Cursor :=
  ⟨text, 0, text, by simp [readFrom]⟩

/-- The same text at another offset. -/
def seek (c : Cursor) (pos : Int) : Cursor :=
  ⟨c.text, pos, readFrom c.text pos, rfl⟩

/-- The cursor stands in front of all that can be read. -/
def isOutside (c : Cursor) : Bool :=
  decide (c.pos < 0) && decide (c.pos + c.text.length < 0)

/-- The cursor `n` characters further. -/
def advance (c : Cursor) (n : Nat) : Cursor :=
  if h : c.isOutside = true then c.seek (c.pos + n)
  else ⟨c.text, c.pos + n, c.rest.drop n, by
    simp only [isOutside, Bool.and_eq_true, decide_eq_true_eq] at h
    rw [c.rest_eq, Text.drop_readFrom (by omega)]⟩

/-- The number of steps to the end of the text. -/
def remaining (c : Cursor) : Nat :=
  (c.text.length - c.pos).toNat

/-- Nothing is left to read, and the text is behind the cursor. -/
def atEnd (c : Cursor) : Bool :=
  decide (0 ≤ c.pos) && c.rest.isEmpty

/-- The next character. -/
def peek (c : Cursor) : Option Char :=
  c.rest.head?

/-- The end of the text from the cursor on. Outside it is the whole text. -/
def ahead (c : Cursor) : List Char :=
  if 0 ≤ c.pos then c.rest else c.text.drop (fromStart c.text.length c.pos)

/-- The text goes on with `word`. Past the end it does not even go on with the empty word. -/
def startsWith (c : Cursor) (word : List Char) : Bool :=
  word.isPrefixOf c.ahead && (!word.isEmpty || decide (c.pos ≤ c.text.length))

/-- The next character is an ASCII digit. -/
def atDigit (c : Cursor) : Bool :=
  match c.peek with
  | some d => d.isDigit
  | none => false

/-- Line and column of the cursor. -/
def place (c : Cursor) : Text.Position :=
  position c.text c.pos

/-- What stands at the cursor, in words. -/
def describe (c : Cursor) : String :=
  match c.peek with
  | none => "end of input"
  | some '\n' => "newline"
  | some '\r' => "carriage return"
  | some ' ' => "space"
  | some d => String.ofList (quotedChars [d])

/-- The error that something else was expected here. -/
def error (c : Cursor) (expected : String) (detail : Option String) : ParseError :=
  ⟨expected, c.describe, c.place.line, c.place.column, detail⟩

/-- The least offset at which a look is tried: it has 64 bits with its sign. -/
def leastOffset : Int := -9223372036854775808

/-- What a look at the text under the cursor shows. -/
def look {α : Type} (c : Cursor) (view : Cursor → α) : Except Fault α :=
  if c.isOutside then .error (if c.pos < leastOffset then .offsetTooLow else .outsideText)
  else .ok (view c)

/-- A cursor is its text and its offset. -/
theorem eq_of_pos_eq {c d : Cursor} (htext : c.text = d.text) (hpos : c.pos = d.pos) : c = d := by
  obtain ⟨text, pos, rest, hrest⟩ := c
  obtain ⟨text', pos', rest', hrest'⟩ := d
  simp only at htext hpos
  subst htext hpos hrest hrest'
  rfl

/-- A step leads to the offset that is so much larger. -/
theorem advance_eq_seek (c : Cursor) (n : Nat) : c.advance n = c.seek (c.pos + n) := by
  unfold advance
  split
  · rfl
  · exact eq_of_pos_eq rfl rfl

/-- The text stays. -/
@[simp]
theorem text_advance (c : Cursor) (n : Nat) : (c.advance n).text = c.text := by
  rw [advance_eq_seek]
  rfl

/-- The offset grows by the length of the step. -/
@[simp]
theorem pos_advance (c : Cursor) (n : Nat) : (c.advance n).pos = c.pos + n := by
  rw [advance_eq_seek]
  rfl

/-- A step brings the end nearer. -/
@[simp]
theorem remaining_advance (c : Cursor) (n : Nat) :
    (c.advance n).remaining = c.remaining - n := by
  unfold remaining
  rw [text_advance, pos_advance]
  omega

/-- The unread rest lies in front of the end. -/
theorem length_rest_le (c : Cursor) : c.rest.length ≤ c.remaining := by
  rw [c.rest_eq]
  exact Text.length_readFrom_le _ _

/-- What the text goes on with lies in front of the end. -/
theorem length_le_remaining {c : Cursor} {word : List Char} (h : c.startsWith word = true) :
    word.length ≤ c.remaining := by
  simp only [startsWith, Bool.and_eq_true] at h
  have hword := (List.isPrefixOf_iff_prefix.mp h.1).length_le
  have hrest := c.length_rest_le
  unfold ahead fromStart at hword
  split at hword
  · omega
  · rw [List.length_drop] at hword
    unfold remaining
    omega

end Cursor

end GridWalk
