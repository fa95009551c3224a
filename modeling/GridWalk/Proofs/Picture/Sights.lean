import GridWalk.Proofs.Picture.Lines
import Mathlib.Data.Set.Card

/-!
# `GridWalk.Proofs.Picture.Sights`: what can be read off a picture

A picture is taken apart again: its text at the line feeds, each row of cells at its bars, and the
line below the cells at its blanks. Nothing of that looks at the robot or at the arena. What is
read are sights. A sight is a cell of the picture with the label of its row, the label of its
column and what stands in it.

The sights of a picture are the cells around the robot, each of them once. Since labels are decimal
numbers, a sight tells which cell it shows. So two pictures are the same only if they show the same.

* `Sheet.read?`: the parts of a text that has the form of a picture.
* `Sheet.sights`: the cells of a picture with their labels.
* `read?_render` and `sights_sheet`: the parts and the sights of a picture.
* `picture_shows_window`: a picture shows the window and nothing else.
-/

set_option autoImplicit false

namespace GridWalk

/-- A cell as it stands in a picture, with the labels of its row and its column. -/
structure Sight where
  row : String
  column : String
  content : String
deriving DecidableEq

/-- The parts of a picture. -/
structure Sheet where
  /-- The rows of cells from the top, each with the border above it. -/
  bands : List (List Char × List Char)
  /-- The border below the last row. -/
  bottom : List Char
  /-- The line of column labels. -/
  axis : List Char

/-! ### Reading -/

/-- What stands between the blanks of a line. -/
def Text.words (line : List Char) : List (List Char) :=
  (line.splitOn ' ').filter (· ≠ [])

namespace Sheet

/-- The lines of a picture are borders and rows in turn, then the last border and the labels. -/
def ofLines? : List (List Char) → Option Sheet
  | [bottom, axis] => some ⟨[], bottom, axis⟩
  | border :: row :: rest =>
    (ofLines? rest).map fun s => { s with bands := (border, row) :: s.bands }
  | _ => none

/-- The picture that a text shows, if it shows one. -/
def read? (text : String) : Option Sheet :=
  ofLines? (text.toList.splitOn '\n')

/-- The cells of a row. In front of the first bar stands the label of the row, and behind the last
bar nothing. A cell without a column label, or a label without a cell, would be a sight too. -/
def sightsOfRow (columns : List (List Char)) (row : List Char) : List Sight :=
  match row.splitOn '|' with
  | [] => []
  | label :: fields =>
    columns.zipWithAll (fun column field => ⟨String.ofList label, String.ofList (column.getD []),
      String.ofList (field.getD [])⟩) fields.dropLast

/-- The cells of a picture in reading order. -/
def sights (s : Sheet) : List Sight :=
  s.bands.flatMap fun band => sightsOfRow (Text.words s.axis) band.2

end Sheet

namespace Sight

/-- The cell that the labels of a sight tell. -/
def cell (s : Sight) : Cell :=
  ⟨Nat.ofDigitChars 10 s.column.toList 0, Nat.ofDigitChars 10 s.row.toList 0⟩

/-- The content has an arrow in it. -/
def holdsArrow (s : Sight) : Bool :=
  s.content.toList.any fun c => c ∈ ['^', '>', 'v', '<']

end Sight

/-! ### Words and fields -/

namespace Text

/-- A blank belongs to no word. -/
theorem words_blank (line : List Char) : words (' ' :: line) = words line := by
  have hsplit := List.splitOn_append_cons_self_of_not_mem (List.not_mem_nil (a := ' ')) line
  rw [List.nil_append] at hsplit
  rw [words, hsplit]
  rfl

/-- What stands in front of a blank is a word. -/
theorem words_append {word : List Char} (line : List Char) (hword : word ≠ [])
    (hblank : ' ' ∉ word) : words (word ++ ' ' :: line) = word :: words line := by
  rw [words, List.splitOn_append_cons_self_of_not_mem hblank,
    List.filter_cons_of_pos (by simpa using hword)]
  rfl

/-- Words with two blanks behind each. -/
theorem words_flatMap {f : Int → List Char} {ns : List Int}
    (h : ∀ n ∈ ns, f n ≠ [] ∧ ' ' ∉ f n) :
    words (ns.flatMap fun n => f n ++ [' ', ' ']) = ns.map f := by
  induction ns with
  | nil => rfl
  | cons n ns ih =>
    rw [List.forall_mem_cons] at h
    rw [List.flatMap_cons, List.append_assoc]
    show words (f n ++ ' ' :: ' ' :: ns.flatMap fun n => f n ++ [' ', ' ']) = _
    rw [words_append _ h.1.1 h.1.2, words_blank, ih h.2, List.map_cons]

/-- Fields with a bar behind each. -/
theorem splitOn_flatMap {f : Int → List Char} {ns : List Int} (h : ∀ n, '|' ∉ f n) :
    (ns.flatMap fun n => f n ++ ['|']).splitOn '|' = ns.map f ++ [[]] := by
  induction ns with
  | nil => rfl
  | cons n ns ih =>
    rw [List.flatMap_cons, List.append_assoc]
    show (f n ++ '|' :: ns.flatMap fun n => f n ++ ['|']).splitOn '|' = _
    rw [List.splitOn_append_cons_self_of_not_mem (h n), ih, List.map_cons, List.cons_append]

end Text

/-- Of two lists that go along the same list nothing is left over. -/
theorem Sheet.zipWithAll_map_map {α β γ δ : Type} (f : Option β → Option γ → δ) (g : α → β)
    (h : α → γ) (xs : List α) :
    (xs.map g).zipWithAll f (xs.map h) = xs.map fun x => f (some (g x)) (some (h x)) := by
  induction xs with
  | nil => rfl
  | cons x xs ih => simp [ih]

/-! ### The sights of a picture -/

namespace Picture

variable {a : Arena} {p : Pose} {r : Int}

/-- The parts of the picture of a robot. -/
def sheet (a : Arena) (r : Int) (p : Pose) : Sheet :=
  let w := Window.around a.grid r p.cell
  ⟨w.rows.map fun y => ((border w.columns.length).toList, (row a p w.columns y).toList),
    (border w.columns.length).toList, (axis w.columns).toList⟩

theorem ofLines?_bands {α : Type} (border bottom axis : List Char) (row : α → List Char)
    (ys : List α) :
    Sheet.ofLines? ((ys.flatMap fun y => [border, row y]) ++ [bottom, axis])
      = some ⟨ys.map fun y => (border, row y), bottom, axis⟩ := by
  induction ys with
  | nil => rfl
  | cons y ys ih =>
    -- The lines that are left are never none, so the row is not the line of labels.
    have hrest : (ys.flatMap fun y => [border, row y]) ++ [bottom, axis] ≠ [] := by simp
    show Sheet.ofLines? (border :: row y ::
      ((ys.flatMap fun y => [border, row y]) ++ [bottom, axis])) = _
    rw [Sheet.ofLines?.eq_2 _ _ _ hrest, ih]
    rfl

/-- A picture is read as its parts. -/
theorem read?_render (hp : p.cell ∈ a.grid) (hr : 0 ≤ r) :
    Sheet.read? (render a r p) = some (sheet a r p) := by
  rw [Sheet.read?, splitOn_render hp hr, lines, List.map_append, List.map_flatMap]
  exact ofLines?_bands _ _ _ _ _

/-- What stands in a cell of a picture: its mark between blanks. -/
def content (a : Arena) (p : Pose) (c : Cell) : String :=
  String.ofList [' ', mark a p c, ' ']

/-- The sight of a cell of a picture. -/
def sight (a : Arena) (p : Pose) (c : Cell) : Sight :=
  ⟨Text.padded c.y, Text.padded c.x, content a p c⟩

/-- The sights of a row are its cells. -/
theorem sightsOfRow_row {columns : List Int} {y : Int} (hy : 0 ≤ y) (hne : columns ≠ [])
    (hcolumns : ∀ x ∈ columns, 0 ≤ x) :
    Sheet.sightsOfRow (columns.map fun x => (numbered x).toList) (row a p columns y).toList
      = columns.map fun x => sight a p ⟨x, y⟩ := by
  have hfields (x : Int) : '|' ∉ [' ', mark a p ⟨x, y⟩, ' '] := by
    have hmark : mark a p ⟨x, y⟩ ≠ '|' := mark_ne ⟨x, y⟩ (by decide)
    simp [hmark.symm]
  rw [Sheet.sightsOfRow, toList_row a p y hne, List.splitOn_append_cons_self_of_not_mem
    (not_mem_numbered hy (by decide)), Text.splitOn_flatMap hfields]
  -- What stands behind the last bar is not a cell.
  show List.zipWithAll _ _ (columns.map _ ++ [[]]).dropLast = _
  rw [List.dropLast_concat, Sheet.zipWithAll_map_map]
  refine List.map_congr_left fun x hx => ?_
  simp [sight, content, numbered_eq hy, numbered_eq (hcolumns x hx)]

/-- The sights of a picture are the cells of its window. -/
theorem sights_sheet (hp : p.cell ∈ a.grid) (hr : 0 ≤ r) :
    (sheet a r p).sights = (Window.around a.grid r p.cell).cells.map (sight a p) := by
  obtain ⟨hne, hcolumns⟩ := columns_around hp hr
  -- The words of the last line are the column labels, one for each cell of a row.
  have hlabels : Text.words (axis (Window.around a.grid r p.cell).columns).toList
      = (Window.around a.grid r p.cell).columns.map fun x => (numbered x).toList := by
    rw [toList_axis, Text.words_blank, Text.words_blank, Text.words_blank, Text.words_blank]
    exact Text.words_flatMap fun x hx =>
      ⟨numbered_ne_nil (hcolumns x hx), not_mem_numbered (hcolumns x hx) (by decide)⟩
  show ((Window.around a.grid r p.cell).rows.map _).flatMap _ = _
  rw [List.flatMap_map, Window.cells, List.map_flatMap, List.flatMap_def, List.flatMap_def]
  refine congrArg List.flatten (List.map_congr_left fun y hy => ?_)
  have hrow : 0 ≤ y := (Window.mem_rows_around.mp hy).1.1
  show Sheet.sightsOfRow (Text.words (axis (Window.around a.grid r p.cell).columns).toList) _ = _
  rw [hlabels, sightsOfRow_row hrow hne hcolumns, List.map_map]
  rfl

/-! ### What a sight tells -/

/-- The labels of a cell of the grid tell which cell it is. -/
theorem cell_sight {c : Cell} (hc : c ∈ a.grid) : (sight a p c).cell = c := by
  obtain ⟨x, y⟩ := c
  rw [Grid.mem_iff] at hc
  obtain ⟨m, rfl⟩ := Int.eq_ofNat_of_zero_le hc.1.1
  obtain ⟨n, rfl⟩ := Int.eq_ofNat_of_zero_le hc.2.1
  show (⟨(Nat.ofDigitChars 10 (Text.padded m).toList 0 : Nat),
    (Nat.ofDigitChars 10 (Text.padded n).toList 0 : Nat)⟩ : Cell) = ⟨m, n⟩
  rw [Text.ofDigitChars_padded, Text.ofDigitChars_padded]

/-- The sights of a picture tell the cells of the window. -/
theorem map_cell_sights (hp : p.cell ∈ a.grid) (hr : 0 ≤ r) :
    (sheet a r p).sights.map Sight.cell = (Window.around a.grid r p.cell).cells := by
  rw [sights_sheet hp hr, List.map_map]
  refine (List.map_congr_left fun c hc => ?_).trans (List.map_id _)
  exact cell_sight (Window.mem_cells_around.mp hc).1

/-- The robot is drawn by the arrow of its heading, also on an obstacle. -/
theorem mark_robot (a : Arena) (p : Pose) : mark a p p.cell = p.heading.arrow :=
  if_pos rfl

/-- A cell shows the robot if the robot is there, and otherwise whether an obstacle is. -/
theorem mark_eq (a : Arena) (p : Pose) (c : Cell) :
    mark a p c = if c = p.cell then p.heading.arrow else if c ∈ a.obstacles then 'O' else ' ' := by
  simp only [mark, Arena.isBlocked_iff, @eq_comm Cell p.cell c]
  rfl

/-- Any other cell shows whether an obstacle is there. -/
theorem mark_of_ne {c : Cell} (hc : c ≠ p.cell) :
    mark a p c = if c ∈ a.obstacles then 'O' else ' ' := by
  rw [mark_eq, if_neg hc]

/-- The robot alone is drawn by an arrow. -/
theorem holdsArrow_sight {c : Cell} : (sight a p c).holdsArrow = true ↔ c = p.cell := by
  have hcontent : (sight a p c).content.toList = [' ', mark a p c, ' '] := String.toList_ofList
  rw [Sight.holdsArrow, hcontent]
  by_cases hc : c = p.cell
  · rw [hc, mark_robot]
    cases p.heading <;> simp [Heading.arrow]
  · rw [mark_of_ne hc]
    split <;> simp [hc]

theorem arrow_inj {h i : Heading} (heq : h.arrow = i.arrow) : h = i := by
  revert heq
  cases h <;> cases i <;> decide

/-! ### Two pictures -/

variable {b : Arena} {q : Pose} {r' : Int}

/-- Windows around a robot that show the same cells are the same. -/
theorem around_eq (hp : p.cell ∈ a.grid) (hr : 0 ≤ r)
    (h : ∀ c, a.InView r p c ↔ b.InView r' q c) :
    Window.around a.grid r p.cell = Window.around b.grid r' q.cell := by
  refine Window.eq_of_cells p.cell ?_ fun c => ?_
  · exact Window.mem_cells_around.mpr (Arena.inView_robot hp hr)
  · rw [Window.mem_cells_around, Window.mem_cells_around, h c]

/-- Pictures with the same window and the same marks in it are the same. -/
theorem lines_congr (hw : Window.around a.grid r p.cell = Window.around b.grid r' q.cell)
    (hmarks : ∀ c ∈ (Window.around a.grid r p.cell).cells, mark a p c = mark b q c) :
    lines a r p = lines b r' q := by
  have hrow : ∀ y ∈ (Window.around a.grid r p.cell).rows,
      row a p (Window.around a.grid r p.cell).columns y
        = row b q (Window.around a.grid r p.cell).columns y := by
    intro y hy
    have hcells : ((Window.around a.grid r p.cell).columns.map fun x =>
          String.ofList [' ', mark a p ⟨x, y⟩, ' '])
        = (Window.around a.grid r p.cell).columns.map fun x =>
          String.ofList [' ', mark b q ⟨x, y⟩, ' '] := by
      refine List.map_congr_left fun x hx => ?_
      rw [hmarks ⟨x, y⟩ (Window.mem_cells.mpr ⟨hx, hy⟩)]
    rw [row, row, hcells]
  simp only [lines]
  rw [← hw, List.flatMap_def, List.flatMap_def, List.map_congr_left fun y hy => by rw [hrow y hy]]

/-- A sight shows the mark of its cell. -/
theorem mark_eq_of_sight_eq {c : Cell} (h : sight a p c = sight b q c) :
    mark a p c = mark b q c := by
  have hcontent : content a p c = content b q c := congrArg Sight.content h
  have hchars := String.ofList_injective hcontent
  simpa using hchars

/-- Pictures that are the same show the same cells, and the same in each of them. -/
theorem of_render_eq (hp : p.cell ∈ a.grid) (hr : 0 ≤ r) (hq : q.cell ∈ b.grid) (hr' : 0 ≤ r')
    (h : render a r p = render b r' q) :
    (∀ c, a.InView r p c ↔ b.InView r' q c) ∧ ∀ c, a.InView r p c → sight a p c = sight b q c := by
  -- The same text has the same parts, and these show the cells and what stands in them.
  have hsheet : sheet a r p = sheet b r' q := by
    rw [← Option.some_inj, ← read?_render hp hr, h, read?_render hq hr']
  have hcells : (Window.around a.grid r p.cell).cells = (Window.around b.grid r' q.cell).cells := by
    rw [← map_cell_sights hp hr, hsheet, map_cell_sights hq hr']
  have hsights := sights_sheet hp hr
  rw [hsheet, sights_sheet hq hr', ← hcells, List.map_inj_left] at hsights
  constructor
  · intro c
    rw [← Window.mem_cells_around, hcells, Window.mem_cells_around]
  · intro c hc
    exact (hsights c (Window.mem_cells_around.mpr hc)).symm

/-- Pictures are the same if they show the same window, the same robot and the same obstacles around
it, and only then. -/
theorem render_eq_iff (hp : p.cell ∈ a.grid) (hr : 0 ≤ r) (hq : q.cell ∈ b.grid) (hr' : 0 ≤ r') :
    render a r p = render b r' q ↔ (∀ c, a.InView r p c ↔ b.InView r' q c) ∧ p = q ∧
      ∀ c, a.InView r p c → c ≠ p.cell → (c ∈ a.obstacles ↔ c ∈ b.obstacles) := by
  constructor
  · intro h
    obtain ⟨hview, hsights⟩ := of_render_eq hp hr hq hr' h
    have hrobot := hsights p.cell (Arena.inView_robot hp hr)
    -- The arrow of one robot can only be the arrow of the other.
    have hcell : p.cell = q.cell := by
      rw [← holdsArrow_sight (a := b), ← hrobot, holdsArrow_sight]
    have hheading : p.heading = q.heading := by
      have hmark := mark_eq_of_sight_eq hrobot
      rw [mark_robot, hcell, mark_robot] at hmark
      exact arrow_inj hmark
    have hpose : p = q := by
      show Pose.mk p.cell p.heading = q
      rw [hcell, hheading]
    refine ⟨hview, hpose, fun c hc hne => ?_⟩
    have hmark := mark_eq_of_sight_eq (hsights c hc)
    rw [mark_of_ne hne, mark_of_ne (hpose ▸ hne)] at hmark
    by_cases ha : c ∈ a.obstacles <;> by_cases hb : c ∈ b.obstacles <;> simp [ha, hb] at hmark ⊢
  · intro h
    obtain ⟨hview, rfl, hobstacles⟩ := h
    rw [render, render, lines_congr (around_eq hp hr hview)]
    intro c hc
    have hc := Window.mem_cells_around.mp hc
    by_cases hne : c = p.cell
    · rw [hne, mark_robot, mark_robot]
    · rw [mark_of_ne hne, mark_of_ne hne]
      simp only [hobstacles c hc hne]

/-! ### The number of lines -/

/-- The window has as many rows as the grid has near the robot. -/
theorem length_rows : (Window.around a.grid r p.cell).rows.length
    = {y | (0 ≤ y ∧ y < a.grid.height) ∧ |y - p.cell.y| ≤ r}.ncard := by
  have hnodup : (Window.around a.grid r p.cell).rows.Nodup := by
    rw [Window.rows, List.nodup_reverse]
    exact (Window.pairwise_span _ _).imp fun h => by omega
  rw [← List.toFinset_card_of_nodup hnodup, ← Set.ncard_coe_finset]
  congr 1
  ext y
  rw [List.coe_toFinset, Set.mem_ofPred_eq, Set.mem_ofPred_eq, Window.mem_rows_around]

/-- Two lines for each row, and two more. -/
theorem length_lines : (lines a r p).length
    = 2 * {y | (0 ≤ y ∧ y < a.grid.height) ∧ |y - p.cell.y| ≤ r}.ncard + 2 := by
  simp [lines, List.length_flatMap, ← length_rows]
  omega

/-- One sight holds an arrow, that of the robot. -/
theorem filter_holdsArrow_sights (hp : p.cell ∈ a.grid) (hr : 0 ≤ r) :
    (sheet a r p).sights.filter Sight.holdsArrow = [sight a p p.cell] := by
  have hrobot : p.cell ∈ (Window.around a.grid r p.cell).cells :=
    Window.mem_cells_around.mpr (Arena.inView_robot hp hr)
  -- The sights with an arrow are those of the robot's cell, which the window has once.
  have hfilter : (Sight.holdsArrow ∘ sight a p) = (· == p.cell) := by
    funext c
    rw [Bool.eq_iff_iff, Function.comp, holdsArrow_sight, beq_iff_eq]
  rw [sights_sheet hp hr, List.filter_map, hfilter, List.filter_beq,
    List.count_eq_one_of_mem (Window.nodup_cells _) hrobot]
  rfl

end Picture

/-! ### Main result -/

variable {a b : Arena} {p q : Pose} {r r' : Int}

/-- A picture shows the window around the robot and nothing else. It has two lines for each row of
the grid in view, and two more. Its sights are the cells in view, each once and in reading order,
with their coordinates as labels; the robot's cell holds the arrow of its heading and any other cell
an `O` or a blank. Two pictures are the same exactly if they have the same window, the same robot
and around the robot the same obstacles in view. -/
theorem picture_shows_window (hp : p.cell ∈ a.grid) (hr : 0 ≤ r) (hq : q.cell ∈ b.grid)
    (hr' : 0 ≤ r') :
    ((Picture.render a r p).toList.splitOn '\n').length
        = 2 * {y | (0 ≤ y ∧ y < a.grid.height) ∧ |y - p.cell.y| ≤ r}.ncard + 2 ∧
      (∃ (s : Sheet) (shown : List Cell),
        Sheet.read? (Picture.render a r p) = some s ∧
        shown.Nodup ∧
        (∀ c, c ∈ shown ↔ c ∈ a.grid ∧ |c.x - p.cell.x| ≤ r ∧ |c.y - p.cell.y| ≤ r) ∧
        shown.Pairwise (fun c e => e.y < c.y ∨ (e.y = c.y ∧ c.x < e.x)) ∧
        s.sights = shown.map (fun c => ⟨Text.padded c.y, Text.padded c.x, String.ofList
          [' ', if c = p.cell then p.heading.arrow else if c ∈ a.obstacles then 'O' else ' ',
            ' ']⟩) ∧
        s.sights.filter Sight.holdsArrow = [⟨Text.padded p.cell.y, Text.padded p.cell.x,
          String.ofList [' ', p.heading.arrow, ' ']⟩]) ∧
      (Picture.render a r p = Picture.render b r' q ↔
        (∀ c, a.InView r p c ↔ b.InView r' q c) ∧ p = q ∧
          ∀ c, a.InView r p c → c ≠ p.cell → (c ∈ a.obstacles ↔ c ∈ b.obstacles)) := by
  refine ⟨?_, ⟨Picture.sheet a r p, (Window.around a.grid r p.cell).cells, ?_⟩, ?_⟩
  · rw [Picture.splitOn_render hp hr, List.length_map]
    exact Picture.length_lines
  · refine ⟨Picture.read?_render hp hr, Window.nodup_cells _, fun c => Window.mem_cells_around,
      Window.pairwise_cells _, ?_, ?_⟩
    · rw [Picture.sights_sheet hp hr]
      refine List.map_congr_left fun c _ => ?_
      rw [Picture.sight, Picture.content, Picture.mark_eq]
    · rw [Picture.filter_holdsArrow_sights hp hr, Picture.sight, Picture.content,
        Picture.mark_robot]
  · exact Picture.render_eq_iff hp hr hq hr'

/-- An obstacle under the robot does not show, nor how far a picture would reach beyond the grid. -/
theorem picture_shows_window_hidden :
    Picture.render ⟨⟨3, 3⟩, CellSet.ofList [⟨1, 1⟩], []⟩ 2 ⟨⟨1, 1⟩, .north⟩
      = Picture.render ⟨⟨3, 3⟩, CellSet.ofList [], []⟩ 7 ⟨⟨1, 1⟩, .north⟩ := by
  have hp : (⟨1, 1⟩ : Cell) ∈ (⟨3, 3⟩ : Grid) := by
    rw [Grid.mem_iff]
    decide
  have hnear : (0 : Int) ≤ 2 := by decide
  have hfar : (0 : Int) ≤ 7 := by decide
  have hsame := picture_shows_window (a := ⟨⟨3, 3⟩, CellSet.ofList [⟨1, 1⟩], []⟩)
    (b := ⟨⟨3, 3⟩, CellSet.ofList [], []⟩) (p := ⟨⟨1, 1⟩, .north⟩) (q := ⟨⟨1, 1⟩, .north⟩)
    hp hnear hp hfar
  refine hsame.2.2.mpr ⟨fun c => ?_, rfl, fun c _ hne => ?_⟩
  · simp only [Arena.InView, Grid.mem_iff, abs_le]
    omega
  · show c ∈ (CellSet.ofList [⟨1, 1⟩]).toList ↔ c ∈ (CellSet.ofList []).toList
    rw [CellSet.mem_toList_ofList, CellSet.mem_toList_ofList]
    simpa using hne

end GridWalk
