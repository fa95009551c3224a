import GridWalk.Text.Position

/-!
# `GridWalk.Proofs.Text.Position`: a position is an address

A reader is told line and column, and these lead back to one offset. Two offsets in the same line
have the same line start, so their columns differ as the offsets do.

* `lineStart_append`: text without a line feed starts no new line.
* `eq_of_position_eq`: no two offsets have the same position, and no offset outside of the text
  has a position of the text.
* `position_append`: what follows an offset has no part in its position.
-/

set_option autoImplicit false

namespace GridWalk.Text

/-- An offset of the text itself counts from its start. -/
theorem fromStart_natCast (length n : Nat) : fromStart length n = n := by
  simp [fromStart]

/-- Text without a line feed starts no new line. -/
theorem lineStart_append {before after : List Char} (h : '\n' ∉ after) :
    lineStart (before ++ after) = lineStart before := by
  have hall : ∀ c ∈ after.reverse, (c != '\n') = true := by
    intro c hc
    rw [bne_iff_ne]
    rintro rfl
    exact h (List.mem_reverse.mp hc)
  unfold lineStart
  rw [List.reverse_append, List.takeWhile_append_of_pos hall]
  simp only [List.length_append, List.length_reverse]
  omega

/-- A line starts before its text. -/
theorem lineStart_le_length (before : List Char) : lineStart before ≤ before.length :=
  Nat.sub_le _ _

/-- Two offsets with as many line feeds before them have the same line start. -/
theorem lineStart_take_eq {text : List Char} {m n : Nat} (hmn : m ≤ n)
    (hcount : (text.take m).count '\n' = (text.take n).count '\n') :
    lineStart (text.take n) = lineStart (text.take m) := by
  have hsplit : text.take n = text.take m ++ (text.take n).drop m := by
    have h := List.take_append_drop m (text.take n)
    rw [List.take_take, Nat.min_eq_left hmn] at h
    exact h.symm
  rw [hsplit, List.count_append] at hcount
  -- No line feed is left for the text between the two offsets.
  have hnone : ((text.take n).drop m).count '\n' = 0 := by omega
  rw [hsplit]
  exact lineStart_append (List.count_eq_zero.mp hnone)

/-- The position of an offset of the text itself. -/
theorem position_natCast (text : List Char) (n : Nat) :
    position text n = ⟨(text.take n).count '\n' + 1, n - lineStart (text.take n) + 1⟩ := by
  simp only [position, fromStart_natCast]

/-- Columns of offsets in the text count from 1. -/
theorem one_le_column {text : List Char} {n : Nat} (h : n ≤ text.length) :
    1 ≤ (position text n).column := by
  have hle := lineStart_le_length (text.take n)
  rw [List.length_take, Nat.min_eq_left h] at hle
  rw [position_natCast]
  show 1 ≤ (n : Int) - lineStart (text.take n) + 1
  omega

/-- Offsets from the start on are told apart by their positions. -/
theorem eq_of_position_natCast_eq {text : List Char} {m n : Nat}
    (h : position text m = position text n) : m = n := by
  rw [position_natCast, position_natCast, Position.mk.injEq] at h
  obtain ⟨hline, hcolumn⟩ := h
  have hcount : (text.take m).count '\n' = (text.take n).count '\n' := by omega
  have hstart : lineStart (text.take n) = lineStart (text.take m) := by
    rcases Nat.le_total m n with hmn | hnm
    · exact lineStart_take_eq hmn hcount
    · exact (lineStart_take_eq hnm hcount.symm).symm
  omega

/-- A position of the text is the position of one offset only. -/
theorem eq_of_position_eq {text : List Char} {n : Nat} {q : Int} (hn : n ≤ text.length)
    (h : position text q = position text n) : q = n := by
  by_cases hq : 0 ≤ q
  · obtain ⟨m, rfl⟩ := Int.eq_ofNat_of_zero_le hq
    rw [eq_of_position_natCast_eq h]
  · -- A negative offset stands left of every line.
    have hcolumn : (position text q).column ≤ 0 := by
      show q - lineStart (text.take (fromStart text.length q)) + 1 ≤ 0
      omega
    have hone := one_le_column hn
    rw [h] at hcolumn
    omega

/-- What follows an offset has no part in its position. -/
theorem position_append {text : List Char} {n : Nat} (h : n ≤ text.length) (more : List Char) :
    position (text ++ more) n = position text n := by
  rw [position_natCast, position_natCast, List.take_append_of_le_length h]

end GridWalk.Text
