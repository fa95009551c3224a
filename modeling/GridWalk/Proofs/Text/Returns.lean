import GridWalk.Proofs.Text.Position
import Mathlib.Data.List.Induction

/-!
# `GridWalk.Proofs.Text.Returns`: carriage returns in front of line feeds

`withReturns` puts a carriage return in front of every line feed of a text. Characters of the text
move back by one for each line feed before them, but no line gets another number, and no character
in front of the end of its line gets another column.

* `withReturns_append`: the returns go in piece by piece.
* `position_withReturns`: corresponding offsets have the same position.
-/

set_option autoImplicit false

namespace GridWalk.Text

/-- The text with a carriage return in front of every line feed. -/
def withReturns (text : List Char) : List Char :=
  text.flatMap fun c => if c = '\n' then ['\r', '\n'] else [c]

@[simp]
theorem withReturns_nil : withReturns [] = [] :=
  rfl

@[simp]
theorem withReturns_lineFeed (text : List Char) :
    withReturns ('\n' :: text) = '\r' :: '\n' :: withReturns text :=
  rfl

/-- Any other character stays alone. -/
theorem withReturns_cons {c : Char} (hc : c ≠ '\n') (text : List Char) :
    withReturns (c :: text) = c :: withReturns text := by
  simp [withReturns, hc]

@[simp]
theorem withReturns_append (text more : List Char) :
    withReturns (text ++ more) = withReturns text ++ withReturns more :=
  List.flatMap_append

/-- A text without line feeds stays as it is. -/
theorem withReturns_eq_self {text : List Char} (h : '\n' ∉ text) : withReturns text = text := by
  induction text with
  | nil => rfl
  | cons c text ih =>
    rw [List.mem_cons, not_or] at h
    rw [withReturns_cons (Ne.symm h.1), ih h.2]

/-- A word without line feeds stays as it is in front of any text. -/
theorem withReturns_word {word : List Char} (h : '\n' ∉ word) (rest : List Char) :
    withReturns (word ++ rest) = word ++ withReturns rest := by
  rw [withReturns_append, withReturns_eq_self h]

/-- A text that is not empty does not become empty. -/
theorem withReturns_ne_nil {text : List Char} (h : text ≠ []) : withReturns text ≠ [] := by
  cases text with
  | nil => exact absurd rfl h
  | cons c text =>
    by_cases hc : c = '\n'
    · simp [hc]
    · simp [withReturns_cons hc]

/-! ### Positions -/

/-- No line feed is added. -/
theorem count_withReturns (text : List Char) :
    (withReturns text).count '\n' = text.count '\n' := by
  induction text with
  | nil => rfl
  | cons c text ih =>
    by_cases hc : c = '\n'
    · simp [hc, ih]
    · simp [withReturns_cons hc, hc, ih]

/-- The last line has no line feed, so it stays as it is. -/
theorem lastLine_withReturns (text : List Char) :
    (withReturns text).reverse.takeWhile (· != '\n') = text.reverse.takeWhile (· != '\n') := by
  -- The characters of the last line are those nearest to the end.
  induction text using List.reverseRecOn with
  | nil => rfl
  | append_singleton text c ih =>
    by_cases hc : c = '\n'
    · simp [hc]
    · simp [withReturns_cons hc, hc, ih]

/-- From the start of the last line to the end it is as far as that line is long. -/
theorem length_sub_lineStart (text : List Char) :
    (text.length : Int) - lineStart text = (text.reverse.takeWhile (· != '\n')).length := by
  have hle := (List.takeWhile_prefix (· != '\n') (l := text.reverse)).length_le
  rw [List.length_reverse] at hle
  unfold lineStart
  omega

/-- Corresponding offsets have the same position. -/
theorem position_withReturns (text more : List Char) :
    position (withReturns (text ++ more)) (withReturns text).length
      = position (text ++ more) text.length := by
  rw [position_natCast, position_natCast, withReturns_append, List.take_left, List.take_left,
    count_withReturns, length_sub_lineStart, length_sub_lineStart, lastLine_withReturns]

end GridWalk.Text
