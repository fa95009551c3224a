import GridWalk.Proofs.Text.Position
import Mathlib.Algebra.GroupWithZero.Nat

/-!
# `GridWalk.Proofs.Addresses`: line and column as an address

`Text.position` counts the line feeds in front of an offset and looks back for the last of them. A
reader goes the other way: cut the text at its line feeds, go down to the line and along it to the
column. Both agree at every offset, also on a line feed, right behind one, and at the end of the
text. Only line feeds cut, so a carriage return is a character of its line like any other.

A text is taken here as its lines with a line feed between them. `intercalate_eq` cuts it in front
of a line and behind it, and all else is read off that cut.

* `exists_line_of_le`: every offset lies in a line or right behind it.
* `position_offsetOfLine_add`: line and column of an offset that is given by its line.
* `before_position_iff`: positions are in the order of their offsets.
* `position_is_address`: line and column lead back to the offset and to no other.
-/

set_option autoImplicit false

namespace GridWalk.Text

/-- The offset at which the line with the index `l` starts. Each line before it has a line feed
behind it. -/
def offsetOfLine (lines : List (List Char)) (l : Nat) : Nat :=
  ((lines.take l).map fun line => line.length + 1).sum

namespace Position

/-- The first position stands in a line before the second, or in the same line left of it. -/
def Before (a b : Position) : Prop :=
  a.line < b.line ∨ (a.line = b.line ∧ a.column < b.column)

instance (a b : Position) : Decidable (a.Before b) :=
  inferInstanceAs (Decidable (_ ∨ _))

/-- The position is an address of the offset `p`: there is a line with its number, which is `line`.
The column is one of that line or the one right behind it. The lines before it, each with its line
feed, and the characters left of the column are `p` characters. -/
structure IsAddress (text : List Char) (p : Nat) (place : Position) (line : List Char) : Prop where
  one_le_line : 1 ≤ place.line
  line_le : place.line ≤ (text.splitOn '\n').length
  getElem?_line : (text.splitOn '\n')[place.line - 1]? = some line
  one_le_column : 1 ≤ place.column
  column_le : place.column ≤ line.length + 1
  offset_eq : (p : Int) = offsetOfLine (text.splitOn '\n') (place.line - 1) + place.column - 1

/-- What stands at the offset `p` is the character of the line `row` in the column, or the line feed
behind the line, or the end of the text behind the last line. -/
def Shows (text : List Char) (p : Nat) (place : Position) (row : List Char) : Prop :=
  (place.column ≤ row.length ∧ text[p]? = row[(place.column - 1).toNat]?) ∨
    (place.column = row.length + 1 ∧ place.line < (text.splitOn '\n').length ∧
      text[p]? = some '\n') ∨
    (place.column = row.length + 1 ∧ place.line = (text.splitOn '\n').length ∧
      p = text.length)

end Position

/-! ### A text as its lines -/

variable {lines : List (List Char)} {line : List Char} {l : Nat}

/-- A first line with others below it. -/
theorem intercalate_cons (line : List Char) (lines : List (List Char)) :
    ['\n'].intercalate (line :: lines) = line ++ lines.flatMap ('\n' :: ·) := by
  induction lines generalizing line with
  | nil => simp
  | cons next lines ih =>
    rw [List.intercalate_cons_cons, ih]
    simp

/-- A text in three parts: the lines in front of one line, this line, and the lines behind it. The
first part ends with a line feed, and the last one starts with one, unless they are empty. -/
theorem intercalate_eq (h : lines[l]? = some line) :
    ['\n'].intercalate lines
      = (lines.take l).flatMap (· ++ ['\n']) ++ (line ++ (lines.drop (l + 1)).flatMap ('\n' :: ·))
    := by
  induction lines generalizing l with
  | nil => simp at h
  | cons first lines ih =>
    cases l with
    | zero =>
      obtain rfl : first = line := by simpa using h
      exact intercalate_cons first lines
    | succ l =>
      have h : lines[l]? = some line := by simpa using h
      have hne : lines ≠ [] := by
        rintro rfl
        simp at h
      rw [List.intercalate_cons_of_ne_nil hne, ih h]
      simp

/-- The lines in front of a line are as long as its offset says. -/
theorem length_flatMap_take (lines : List (List Char)) (l : Nat) :
    ((lines.take l).flatMap (· ++ ['\n'])).length = offsetOfLine lines l := by
  simp [offsetOfLine, List.length_flatMap]

/-- Every offset of a text lies in one of its lines or right behind one. -/
theorem exists_line_of_le {p : Nat} (hne : lines ≠ [])
    (hp : p ≤ (['\n'].intercalate lines).length) :
    ∃ l line c, lines[l]? = some line ∧ c ≤ line.length ∧ p = offsetOfLine lines l + c := by
  induction lines generalizing p with
  | nil => exact absurd rfl hne
  | cons first lines ih =>
    by_cases hfirst : p ≤ first.length
    · exact ⟨0, first, p, rfl, hfirst, by simp [offsetOfLine]⟩
    · -- The offset lies behind the line feed of the first line, so there are other lines.
      have hlines : lines ≠ [] := by
        rintro rfl
        simp at hp
        omega
      rw [List.intercalate_cons_of_ne_nil hlines] at hp
      simp only [List.length_append, List.length_cons, List.length_nil] at hp
      obtain ⟨l, line, c, hline, hc, heq⟩ := ih (p := p - (first.length + 1)) hlines (by omega)
      refine ⟨l + 1, line, c, by simpa using hline, hc, ?_⟩
      have hstart : offsetOfLine (first :: lines) (l + 1)
          = first.length + 1 + offsetOfLine lines l := by
        simp [offsetOfLine]
      omega

/-- A line starts right behind a line feed. -/
theorem lineStart_flatMap (ls : List (List Char)) :
    lineStart (ls.flatMap (· ++ ['\n'])) = (ls.flatMap (· ++ ['\n'])).length := by
  rcases List.eq_nil_or_concat ls with rfl | ⟨before, last, rfl⟩
  · rfl
  · simp [lineStart]

/-- There is one line feed for each line. -/
theorem count_flatMap {ls : List (List Char)} (h : ∀ line ∈ ls, '\n' ∉ line) :
    (ls.flatMap (· ++ ['\n'])).count '\n' = ls.length := by
  induction ls with
  | nil => rfl
  | cons line ls ih =>
    rw [List.forall_mem_cons] at h
    rw [List.flatMap_cons, List.count_append, List.count_append, List.count_eq_zero.mpr h.1, ih h.2,
      List.length_cons]
    show 0 + 1 + ls.length = ls.length + 1
    omega

/-- An offset that is given by its line and the characters in front of it has this line and
column. -/
theorem position_offsetOfLine_add {c : Nat} (hfree : ∀ line ∈ lines, '\n' ∉ line)
    (h : lines[l]? = some line) (hc : c ≤ line.length) :
    position (['\n'].intercalate lines) (offsetOfLine lines l + c : Nat) = ⟨l + 1, c + 1⟩ := by
  have hl : l < lines.length := (List.getElem?_eq_some_iff.mp h).1
  -- In front of the offset stand the lines before and a part of the line without a line feed.
  have htake : (['\n'].intercalate lines).take (offsetOfLine lines l + c)
      = (lines.take l).flatMap (· ++ ['\n']) ++ line.take c := by
    rw [intercalate_eq h, ← length_flatMap_take, List.take_length_add_append,
      List.take_append_of_le_length hc]
  have hpart : '\n' ∉ line.take c :=
    fun hmem => hfree line (List.mem_of_getElem? h) (List.mem_of_mem_take hmem)
  have hlines : ∀ line ∈ lines.take l, '\n' ∉ line :=
    fun line hline => hfree line (List.mem_of_mem_take hline)
  rw [position_natCast, htake, List.count_append, count_flatMap hlines,
    List.count_eq_zero.mpr hpart, lineStart_append hpart, lineStart_flatMap, length_flatMap_take,
    List.length_take, Nat.min_eq_left (by omega)]
  rw [Position.mk.injEq]
  omega

/-- What stands at an offset that is given by its line. -/
theorem getElem?_offsetOfLine_add (h : lines[l]? = some line) (c : Nat) :
    (['\n'].intercalate lines)[offsetOfLine lines l + c]?
      = (line ++ (lines.drop (l + 1)).flatMap ('\n' :: ·))[c]? := by
  rw [intercalate_eq h, ← length_flatMap_take, List.getElem?_append_right (Nat.le_add_right _ _),
    Nat.add_sub_cancel_left]

/-- Behind a line stands its line feed, and behind the last line nothing. -/
theorem getElem?_behind_line (h : lines[l]? = some line) :
    (['\n'].intercalate lines)[offsetOfLine lines l + line.length]?
      = if l + 1 < lines.length then some '\n' else none := by
  rw [getElem?_offsetOfLine_add h, List.getElem?_append_right (Nat.le_refl _), Nat.sub_self]
  split
  · next hnext =>
    rw [List.drop_eq_getElem_cons hnext]
    rfl
  · next hlast =>
    rw [List.drop_eq_nil_of_le (Nat.le_of_not_lt hlast)]
    rfl

/-- The lines of a text have no line feeds in them. -/
theorem lineFeed_not_mem_splitOn (text : List Char) : ∀ line ∈ text.splitOn '\n', '\n' ∉ line := by
  induction text with
  | nil => simp
  | cons c text ih =>
    rw [List.splitOn_cons_eq_if_modifyHead]
    cases hlines : text.splitOn '\n' with
    | nil => exact absurd hlines (List.splitOn_ne_nil '\n' text)
    | cons first lines =>
      rw [hlines, List.forall_mem_cons] at ih
      split
      · simpa using ih
      · next hc =>
        have hc : c ≠ '\n' := by simpa using hc
        simpa [hc.symm] using ih

/-! ### The order of positions -/

/-- Positions are in the order of their offsets. -/
theorem before_position {text : List Char} {p q : Nat} (h : p < q) :
    (position text p).Before (position text q) := by
  have hcount : (text.take p).count '\n' ≤ (text.take q).count '\n' :=
    (List.take_prefix_take_left (Nat.le_of_lt h)).sublist.count_le '\n'
  rw [position_natCast, position_natCast]
  rcases Nat.lt_or_eq_of_le hcount with hless | heq
  · exact .inl (by show _ + 1 < _ + 1; omega)
  · -- No line feed lies between the two, so both columns are counted from one line start.
    have hstart := lineStart_take_eq (Nat.le_of_lt h) heq
    refine .inr ⟨?_, ?_⟩
    · show _ + 1 = _ + 1
      omega
    · show (p : Int) - lineStart (text.take p) + 1 < q - lineStart (text.take q) + 1
      omega

/-- One position stands before another exactly when its offset does. -/
theorem before_position_iff {text : List Char} {p q : Nat} :
    (position text p).Before (position text q) ↔ p < q := by
  refine ⟨fun h => ?_, before_position⟩
  refine Nat.lt_of_not_le fun hqp => ?_
  rcases Nat.lt_or_eq_of_le hqp with hlt | rfl
  · have hback : (position text q).Before (position text p) := before_position hlt
    unfold Position.Before at h hback
    omega
  · unfold Position.Before at h
    omega

/-! ### Addresses -/

namespace Position

/-- An address of an offset is its position. -/
theorem IsAddress.eq_position {text line : List Char} {p : Nat} {place : Position}
    (h : place.IsAddress text p line) : place = position text p := by
  have hposition := position_offsetOfLine_add (c := (place.column - 1).toNat)
    (lineFeed_not_mem_splitOn text) h.getElem?_line (by have := h.column_le; omega)
  rw [List.intercalate_splitOn] at hposition
  have hp : p = offsetOfLine (text.splitOn '\n') (place.line - 1) + (place.column - 1).toNat := by
    have hoffset := h.offset_eq
    have hcolumn := h.one_le_column
    omega
  rw [hp, hposition]
  obtain ⟨row, column⟩ := place
  have hline := h.one_le_line
  have hcolumn := h.one_le_column
  simp only [Position.mk.injEq] at hline hcolumn ⊢
  omega

/-- The line of an offset, the characters in front of the offset in that line, and the position
that both make. -/
theorem exists_line {text : List Char} {p : Nat} (hp : p ≤ text.length) :
    ∃ l line c, (text.splitOn '\n')[l]? = some line ∧ c ≤ line.length ∧
      p = offsetOfLine (text.splitOn '\n') l + c ∧ position text p = ⟨l + 1, c + 1⟩ := by
  have hwhole : ['\n'].intercalate (text.splitOn '\n') = text := List.intercalate_splitOn '\n'
  obtain ⟨l, line, c, hline, hc, hoffset⟩ :=
    exists_line_of_le (p := p) (List.splitOn_ne_nil '\n' text) (by rw [hwhole]; exact hp)
  refine ⟨l, line, c, hline, hc, hoffset, ?_⟩
  rw [hoffset, ← position_offsetOfLine_add (lineFeed_not_mem_splitOn text) hline hc, hwhole]

/-- A line and a number of characters in it are an address of the offset that they lead to. -/
theorem isAddress_mk {text line : List Char} {p l c : Nat}
    (h : (text.splitOn '\n')[l]? = some line) (hc : c ≤ line.length)
    (hp : p = offsetOfLine (text.splitOn '\n') l + c) :
    (⟨l + 1, c + 1⟩ : Position).IsAddress text p line where
  one_le_line := Nat.le_add_left 1 l
  line_le := (List.getElem?_eq_some_iff.mp h).1
  getElem?_line := h
  one_le_column := by show (1 : Int) ≤ c + 1; omega
  column_le := by show (c : Int) + 1 ≤ line.length + 1; omega
  offset_eq := by
    show (p : Int) = (offsetOfLine (text.splitOn '\n') l : Nat) + (c + 1) - 1
    omega

/-- A line and a number of characters in it show what stands at the offset that they lead to. -/
theorem shows_mk {text row : List Char} {p l c : Nat}
    (h : (text.splitOn '\n')[l]? = some row) (hc : c ≤ row.length)
    (hp : p = offsetOfLine (text.splitOn '\n') l + c) (hle : p ≤ text.length) :
    (⟨l + 1, c + 1⟩ : Position).Shows text p row := by
  have hwhole : ['\n'].intercalate (text.splitOn '\n') = text := List.intercalate_splitOn '\n'
  rcases Nat.lt_or_eq_of_le hc with hinside | rfl
  · have hchar := getElem?_offsetOfLine_add h c
    rw [hwhole, ← hp, List.getElem?_append_left hinside] at hchar
    refine .inl ⟨by show (c : Int) + 1 ≤ row.length; omega, ?_⟩
    show text[p]? = row[((c : Int) + 1 - 1).toNat]?
    rw [hchar, Int.add_sub_cancel, Int.toNat_natCast]
  · -- Right behind a line it depends on whether there is another one.
    have hchar := getElem?_behind_line h
    have hl : l < (text.splitOn '\n').length := (List.getElem?_eq_some_iff.mp h).1
    rw [hwhole, ← hp] at hchar
    split at hchar
    · next hnext => exact .inr (.inl ⟨rfl, hnext, hchar⟩)
    · next hlast =>
      refine .inr (.inr ⟨rfl, by show l + 1 = _; omega, ?_⟩)
      exact Nat.le_antisymm hle (List.getElem?_eq_none_iff.mp hchar)

end Position

/-- Line and column are an exact address.

The position of every offset of a text, its end included, is an address of that offset, for a text
that is cut at its line feeds and nowhere else. What stands at the offset is the character of that
line in that column, or the line feed behind the line, or the end of the text. No other line and
column are an address of the offset. The positions of two offsets are in the order of the offsets,
line before column, so they are the same only for the same offset. -/
theorem position_is_address (text : List Char) (p : Nat) (hp : p ≤ text.length) :
    (∃ line, (position text p).IsAddress text p line ∧ (position text p).Shows text p line) ∧
      (∀ place line, place.IsAddress text p line → place = position text p) ∧
      ∀ q : Nat, (p < q ↔ (position text p).Before (position text q)) ∧
        (p = q ↔ position text p = position text q) := by
  refine ⟨?_, fun place line h => h.eq_position, fun q => ⟨before_position_iff.symm, ?_⟩⟩
  · obtain ⟨l, line, c, hline, hc, hoffset, hposition⟩ := Position.exists_line hp
    rw [hposition]
    exact ⟨line, Position.isAddress_mk hline hc hoffset, Position.shows_mk hline hc hoffset hp⟩
  · exact ⟨fun h => by rw [h], eq_of_position_natCast_eq⟩

/-- A text with four lines, of which the second ends with a carriage return and the third holds a
separator that cuts no line. The offset is the line feed behind the carriage return. -/
theorem position_is_address_return :
    6 ≤ "ab\ncd\r\n\u2028e\n".toList.length ∧
      position "ab\ncd\r\n\u2028e\n".toList 6 = ⟨2, 4⟩ ∧
      (position "ab\ncd\r\n\u2028e\n".toList 6).IsAddress "ab\ncd\r\n\u2028e\n".toList 6
        ['c', 'd', '\r'] := by
  have hlength : 6 ≤ "ab\ncd\r\n\u2028e\n".toList.length := by decide
  have hposition : position "ab\ncd\r\n\u2028e\n".toList (6 : Nat) = ⟨2, 4⟩ := by decide
  obtain ⟨⟨line, haddress, -⟩, -⟩ := position_is_address "ab\ncd\r\n\u2028e\n".toList 6 hlength
  have hline := haddress.getElem?_line
  rw [hposition] at hline
  obtain rfl : line = ['c', 'd', '\r'] := Option.some.inj (hline.symm.trans (by decide))
  exact ⟨hlength, hposition, haddress⟩

end GridWalk.Text
