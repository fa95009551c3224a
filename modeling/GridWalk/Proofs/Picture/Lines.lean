import GridWalk.Observer.Picture
import GridWalk.Proofs.Membership
import Mathlib.Algebra.Order.Group.Abs
import Mathlib.Algebra.Order.Group.Int

/-!
# `GridWalk.Proofs.Picture.Lines`: the lines of a picture, character by character

A picture is made of joined lines, and its lines of joined cells and labels. Here they are as lists
of characters, in a form that can be taken apart again: each cell brings the bar behind it, and each
label the blanks behind it. The window is never empty when the robot stands on the grid, so every
row has cells.

* `Window.mem_columns_around` and `Window.mem_rows_around`: which columns and rows are shown.
* `Text.padded`: decimal labels of at least two digits.
* `Picture.toList_row`, `Picture.toList_border` and `Picture.toList_axis`: the three kinds of lines.
* `Picture.splitOn_render`: the lines are found again between the line feeds.
-/

set_option autoImplicit false

namespace GridWalk

/-- The cell is shown in a picture of the robot: it lies on the grid and is at most `r` cells away
along both axes. -/
def Arena.InView (a : Arena) (r : Int) (p : Pose) (c : Cell) : Prop :=
  c ∈ a.grid ∧ |c.x - p.cell.x| ≤ r ∧ |c.y - p.cell.y| ≤ r

/-- The robot itself is in view. -/
theorem Arena.inView_robot {a : Arena} {p : Pose} {r : Int} (hp : p.cell ∈ a.grid) (hr : 0 ≤ r) :
    a.InView r p p.cell :=
  ⟨hp, by simpa using hr, by simpa using hr⟩

/-! ### Windows -/

namespace Window

variable {g : Grid} {r : Int} {c : Cell}

/-- The columns of the grid at most `r` cells away. -/
theorem mem_columns_around {x : Int} :
    x ∈ (around g r c).columns ↔ (0 ≤ x ∧ x < g.width) ∧ |x - c.x| ≤ r := by
  simp only [columns, around, mem_span, abs_le]
  omega

/-- The rows of the grid at most `r` cells away. -/
theorem mem_rows_around {y : Int} :
    y ∈ (around g r c).rows ↔ (0 ≤ y ∧ y < g.height) ∧ |y - c.y| ≤ r := by
  simp only [rows, around, List.mem_reverse, mem_span, abs_le]
  omega

/-- The integers of a span go up. -/
theorem pairwise_span (first last : Int) : (span first last).Pairwise (· < ·) := by
  rw [span, List.pairwise_map]
  exact List.pairwise_lt_range.imp fun h => by omega

/-- The cells of a window in reading order, the northern rows first and in each row the western
cells first. -/
def cells (w : Window) : List Cell :=
  w.rows.flatMap fun y => w.columns.map fun x => ⟨x, y⟩

theorem mem_cells {w : Window} : c ∈ w.cells ↔ c.x ∈ w.columns ∧ c.y ∈ w.rows := by
  simp only [cells, List.mem_flatMap, List.mem_map]
  constructor
  · rintro ⟨y, hy, x, hx, rfl⟩
    exact ⟨hx, hy⟩
  · intro h
    exact ⟨c.y, h.2, c.x, h.1, rfl⟩

/-- A cell stands in the window around a robot when it is in view. -/
theorem mem_cells_around {a : Arena} {p : Pose} :
    c ∈ (around a.grid r p.cell).cells ↔ a.InView r p c := by
  rw [mem_cells, mem_columns_around, mem_rows_around, Arena.InView, Grid.mem_iff]
  exact and_and_and_comm

/-- A span with integers in it is told by them. -/
theorem span_ends {first last first' last' : Int} (hne : first ≤ last)
    (h : ∀ i, i ∈ span first last ↔ i ∈ span first' last') : first = first' ∧ last = last' := by
  simp only [mem_span] at h
  have hfirst := h first
  have hlast := h last
  have hfirst' := h first'
  have hlast' := h last'
  omega

/-- A window with cells in it is told by them. -/
theorem eq_of_cells {w w' : Window} (c : Cell) (hc : c ∈ w.cells)
    (h : ∀ e, e ∈ w.cells ↔ e ∈ w'.cells) : w = w' := by
  obtain ⟨hx, hy⟩ := mem_cells.mp hc
  obtain ⟨hx', hy'⟩ := mem_cells.mp ((h c).mp hc)
  -- A column is in the window if its cell in the row of `c` is, and a row likewise.
  have hcolumns : ∀ x, x ∈ w.columns ↔ x ∈ w'.columns := by
    intro x
    have hcell := h ⟨x, c.y⟩
    simpa [mem_cells, hy, hy'] using hcell
  have hrows : ∀ y, y ∈ span w.bottom w.top ↔ y ∈ span w'.bottom w'.top := by
    intro y
    have hcell := h ⟨c.x, y⟩
    simpa [mem_cells, hx, hx', rows] using hcell
  have hsides := span_ends (mem_span.mp hx |>.1.trans (mem_span.mp hx).2) hcolumns
  have hy := mem_span.mp (List.mem_reverse.mp hy)
  have hends := span_ends (hy.1.trans hy.2) hrows
  show Window.mk w.left w.right w.bottom w.top = w'
  rw [hsides.1, hsides.2, hends.1, hends.2]

/-- The cells are in reading order. -/
theorem pairwise_cells (w : Window) :
    w.cells.Pairwise fun c e => e.y < c.y ∨ (e.y = c.y ∧ c.x < e.x) := by
  rw [cells, List.pairwise_flatMap]
  -- Within a row the columns go up, and from one row to the next the rows go down.
  constructor
  · intro y _
    rw [List.pairwise_map]
    exact (pairwise_span w.left w.right).imp fun h => .inr ⟨rfl, h⟩
  · rw [rows, List.pairwise_reverse]
    refine (pairwise_span w.bottom w.top).imp fun h c hc e he => .inl ?_
    obtain ⟨x, -, rfl⟩ := List.mem_map.mp hc
    obtain ⟨x', -, rfl⟩ := List.mem_map.mp he
    exact h

theorem nodup_cells (w : Window) : w.cells.Nodup :=
  (pairwise_cells w).imp fun h heq => by
    subst heq
    omega

end Window

/-! ### Labels -/

namespace Text

/-- The number in decimal digits, with a zero in front when there is only one. -/
def padded (n : Int) : String :=
  String.ofList ((toString n).toList.leftpad 2 '0')

variable {n : Int} {c : Char}

theorem toList_padded (k : Nat) :
    (padded k).toList = (Nat.toDigits 10 k).leftpad 2 '0' := by
  have hdigits : (toString (k : Int)).toList = Nat.toDigits 10 k := Nat.toList_repr
  rw [padded, String.toList_ofList, hdigits]

theorem isDigit_of_mem_padded (hn : 0 ≤ n) (hc : c ∈ (padded n).toList) : c.isDigit = true := by
  obtain ⟨k, rfl⟩ := Int.eq_ofNat_of_zero_le hn
  rw [toList_padded, List.leftpad, List.mem_append] at hc
  rcases hc with hc | hc
  · rw [List.eq_of_mem_replicate hc]
    decide
  · exact Nat.isDigit_of_mem_toDigits (by decide) (by decide) hc

/-- A label has two characters exactly if the number is below 100, and otherwise it has more. -/
theorem length_padded (hn : 0 ≤ n) :
    2 ≤ (padded n).toList.length ∧ ((padded n).toList.length ≤ 2 ↔ n < 100) := by
  obtain ⟨k, rfl⟩ := Int.eq_ofNat_of_zero_le hn
  have hlength : (Nat.toDigits 10 k).length ≤ 2 ↔ k < 10 ^ 2 :=
    Nat.length_toDigits_le_iff (by decide) (by decide)
  rw [toList_padded, List.length_leftpad]
  omega

/-- The zero in front does not change the value. -/
theorem ofDigitChars_padded (k : Nat) : Nat.ofDigitChars 10 (padded k).toList 0 = k := by
  rw [toList_padded, List.leftpad, Nat.ofDigitChars_append]
  have hzeros (i : Nat) : Nat.ofDigitChars 10 (List.replicate i '0') 0 = 0 := by
    induction i with
    | zero => rfl
    | succ i ih => rw [List.replicate_succ, Nat.ofDigitChars_cons]; exact ih
  rw [hzeros, Nat.ofDigitChars_ten_toDigits]

end Text

namespace Picture

/-- Rows and columns carry their numbers in decimal. -/
theorem numbered_eq {n : Int} (hn : 0 ≤ n) : numbered n = Text.padded n := by
  obtain ⟨k, rfl⟩ := Int.eq_ofNat_of_zero_le hn
  have hdigits : (toString (k : Int)).toList = Nat.toDigits 10 k := Nat.toList_repr
  have hone : (Nat.toDigits 10 k).length ≤ 1 ↔ k < 10 ^ 1 :=
    Nat.length_toDigits_le_iff (by decide) (by decide)
  rw [← String.toList_inj, Text.toList_padded, numbered]
  -- Only a single digit has room for a zero in front.
  split
  · next hsmall =>
    have hdigit := Nat.toDigits_of_lt_base (b := 10) (n := k) (by omega)
    rw [String.toList_append, hdigits, hdigit]
    rfl
  · next hlarge =>
    have htwo : 2 - (Nat.toDigits 10 k).length = 0 := by omega
    rw [hdigits, List.leftpad, htwo]
    rfl

/-! ### The three kinds of lines -/

/-- The characters that a cell can hold. -/
def marks : List Char :=
  ['^', '>', 'v', '<', 'O', ' ']

theorem mark_mem (a : Arena) (p : Pose) (c : Cell) : mark a p c ∈ marks := by
  unfold mark
  split
  · cases p.heading <;> decide
  · split <;> decide

theorem toList_border (n : Nat) : (border n).toList
    = ' ' :: ' ' :: ((List.replicate n ['+', '-', '-', '-']).flatten ++ ['+']) := by
  rw [border, String.toList_append, String.toList_append, String.toList_join,
    List.flatMap_replicate]
  rfl

/-- Joined cells with a bar at the end are cells that have a bar each. -/
theorem intercalate_append_bar {f : Int → List Char} {columns : List Int} (h : columns ≠ []) :
    ['|'].intercalate (columns.map f) ++ ['|'] = columns.flatMap fun x => f x ++ ['|'] := by
  induction columns with
  | nil => exact absurd rfl h
  | cons x columns ih =>
    cases columns with
    | nil => simp
    | cons x' columns =>
      rw [List.map_cons, List.map_cons, List.intercalate_cons_cons, List.append_assoc,
        ← List.map_cons, ih (List.cons_ne_nil x' columns)]
      rfl

theorem toList_row {columns : List Int} (a : Arena) (p : Pose) (y : Int) (h : columns ≠ []) :
    (row a p columns y).toList = (numbered y).toList ++ '|' ::
      columns.flatMap fun x => [' ', mark a p ⟨x, y⟩, ' '] ++ ['|'] := by
  rw [← intercalate_append_bar h]
  simp [row, String.toList_intercalate, Function.comp_def]

theorem toList_axis (columns : List Int) :
    (axis columns).toList = ' ' :: ' ' :: ' ' :: ' ' ::
      columns.flatMap fun x => (numbered x).toList ++ [' ', ' '] := by
  simp [axis, String.toList_join, List.flatMap_map]

/-! ### Line feeds -/

section
variable {a : Arena} {p : Pose} {columns : List Int} {n : Int} {r : Int}

/-- What is no digit does not occur in labels. -/
theorem not_mem_numbered {c : Char} (hn : 0 ≤ n) (hc : c.isDigit = false) :
    c ∉ (numbered n).toList := by
  intro hmem
  rw [numbered_eq hn] at hmem
  rw [Text.isDigit_of_mem_padded hn hmem] at hc
  cases hc

theorem numbered_ne_nil (hn : 0 ≤ n) : (numbered n).toList ≠ [] := by
  have hlength := (Text.length_padded hn).1
  intro hnil
  rw [← numbered_eq hn, hnil] at hlength
  cases hlength

/-- What is no mark does not occur in cells. -/
theorem mark_ne {c : Char} (e : Cell) (hc : c ∉ marks) : mark a p e ≠ c := by
  intro heq
  exact hc (heq ▸ mark_mem a p e)

theorem lineFeed_not_mem_border (k : Nat) : '\n' ∉ (border k).toList := by
  rw [toList_border]
  simp [List.mem_replicate]

theorem lineFeed_not_mem_row {y : Int} (hy : 0 ≤ y) (hcolumns : columns ≠ []) :
    '\n' ∉ (row a p columns y).toList := by
  have hmark (x : Int) : '\n' ≠ mark a p ⟨x, y⟩ := (mark_ne ⟨x, y⟩ (by decide)).symm
  rw [toList_row a p y hcolumns]
  simp [not_mem_numbered hy, hmark]

theorem lineFeed_not_mem_axis (hcolumns : ∀ x ∈ columns, 0 ≤ x) :
    '\n' ∉ (axis columns).toList := by
  rw [toList_axis]
  simp
  intro x hx
  exact not_mem_numbered (hcolumns x hx) (by decide)

/-- The columns of a robot on the grid: there are some, and none is negative. -/
theorem columns_around (hp : p.cell ∈ a.grid) (hr : 0 ≤ r) :
    (Window.around a.grid r p.cell).columns ≠ [] ∧
      ∀ x ∈ (Window.around a.grid r p.cell).columns, 0 ≤ x := by
  constructor
  · have hcolumn : p.cell.x ∈ (Window.around a.grid r p.cell).columns := by
      rw [Window.mem_columns_around]
      exact ⟨(Grid.mem_iff.mp hp).1, by simpa using hr⟩
    exact List.ne_nil_of_mem hcolumn
  · intro x hx
    exact (Window.mem_columns_around.mp hx).1.1

/-- The lines of a picture are what stands between its line feeds. -/
theorem splitOn_render (hp : p.cell ∈ a.grid) (hr : 0 ≤ r) :
    (render a r p).toList.splitOn '\n' = (lines a r p).map String.toList := by
  rw [render, String.toList_intercalate]
  refine List.splitOn_intercalate '\n' ?_ (by simp [lines])
  obtain ⟨hne, hcolumns⟩ := columns_around hp hr
  -- A line is one of four: a border, the row below it, the last border, or the line of labels.
  intro line hline
  simp only [lines, List.map_append, List.map_flatMap, List.mem_append, List.mem_flatMap,
    List.map_cons, List.map_nil, List.mem_cons, List.not_mem_nil, or_false] at hline
  rcases hline with ⟨y, hy, rfl | rfl⟩ | rfl | rfl
  · exact lineFeed_not_mem_border _
  · exact lineFeed_not_mem_row (Window.mem_rows_around.mp hy).1.1 hne
  · exact lineFeed_not_mem_border _
  · exact lineFeed_not_mem_axis hcolumns

end

end Picture

end GridWalk
