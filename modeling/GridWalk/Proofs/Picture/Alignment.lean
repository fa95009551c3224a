import GridWalk.Proofs.Picture.Sights

/-!
# `GridWalk.Proofs.Picture.Alignment`: when the lines of a picture fit together

The lines of a picture leave room for labels of two characters: borders start with two blanks, the
line of column labels with four, and behind a column label stand two blanks. But a label is as wide
as its number. A wider label moves what stands behind it, in a row the cells and below the cells the
labels further east. The bars then miss the marks of the border, and the labels their columns.

So a picture is aligned exactly if every row in view has a number below 100, and every column in
view too except the easternmost one, whose label has nothing behind it.

* `Text.places` and `Text.wordStarts`: where a character stands in a line, and where words start.
* `Sheet.IsAligned`: the lines of a picture fit together.
* `Picture.isAligned_sheet_iff`: the two conditions on the labels.
* `picture_aligned_iff_narrow_labels`: the same in terms of the cells in view.
-/

set_option autoImplicit false

namespace GridWalk

namespace Text

/-- The places of a character in a line that starts at place `i`. -/
def places (c : Char) (i : Nat) (line : List Char) : List Nat :=
  line.findIdxs (· == c) i

/-- The places where words start in a line that starts at place `i`, behind the character
`before`. -/
def wordStarts (before : Char) (i : Nat) : List Char → List Nat
  | [] => []
  | c :: line =>
    if before = ' ' ∧ c ≠ ' ' then i :: wordStarts c (i + 1) line else wordStarts c (i + 1) line

end Text

namespace Sheet

/-- The places of the marks in a row: each stands two places behind the bar on its left. -/
def markPlaces (row : List Char) : List Nat :=
  (Text.places '|' 0 row).dropLast.map (· + 2)

/-- The lines of a picture fit together. -/
@[mk_iff]
structure IsAligned (s : Sheet) : Prop where
  /-- Borders and rows have the same length. -/
  lengths : ∀ band ∈ s.bands,
    band.1.length = s.bottom.length ∧ band.2.length = s.bottom.length
  /-- The bars of a row stand under the marks of the border above it. -/
  bars : ∀ band ∈ s.bands, Text.places '|' 0 band.2 = Text.places '+' 0 band.1
  /-- The labels of the columns start where the marks of a row stand. -/
  labels : ∀ band ∈ s.bands, Text.wordStarts ' ' 0 s.axis = markPlaces band.2

end Sheet

/-! ### Places -/

namespace Text

variable {c : Char} {i w j : Nat}

theorem places_append (c : Char) (i : Nat) (line rest : List Char) :
    places c i (line ++ rest) = places c i line ++ places c (i + line.length) rest :=
  List.findIdxs_append

theorem places_of_not_mem {line : List Char} (h : c ∉ line) : places c i line = [] := by
  rw [places, List.findIdxs_eq_nil_iff]
  intro d hd
  simpa using fun heq : d = c => h (heq ▸ hd)

/-- A character that stands once in each of many blocks of one width. -/
theorem places_flatten {blocks : List (List Char)}
    (h : ∀ block ∈ blocks, block.length = w ∧ ∀ i, places c i block = [i + j]) :
    places c i blocks.flatten = List.range' (i + j) blocks.length w := by
  induction blocks generalizing i with
  | nil => rfl
  | cons block blocks ih =>
    obtain ⟨hwidth, hplace⟩ := h block List.mem_cons_self
    rw [List.flatten_cons, places_append, hplace, hwidth,
      ih fun b hb => h b (List.mem_cons_of_mem block hb), List.length_cons, List.range'_succ,
      Nat.add_right_comm i w j]
    rfl

/-! ### Starts of words -/

variable {before : Char} {word line : List Char}

theorem wordStarts_blank : wordStarts before i (' ' :: line) = wordStarts ' ' (i + 1) line := by
  simp [wordStarts]

/-- Within a word no word starts. -/
theorem wordStarts_within (hbefore : before ≠ ' ') (hword : ' ' ∉ word) :
    wordStarts before i (word ++ ' ' :: line) = wordStarts ' ' (i + word.length + 1) line := by
  induction word generalizing before i with
  | nil => exact wordStarts_blank
  | cons c word ih =>
    rw [List.mem_cons, not_or] at hword
    rw [List.cons_append, wordStarts, if_neg fun h => hbefore h.1, ih (Ne.symm hword.1) hword.2,
      List.length_cons, Nat.add_right_comm i 1, Nat.add_assoc i word.length 1]

/-- Behind a blank a word starts. -/
theorem wordStarts_append (hne : word ≠ []) (hword : ' ' ∉ word) :
    wordStarts ' ' i (word ++ ' ' :: line)
      = i :: wordStarts ' ' (i + word.length + 1) line := by
  cases word with
  | nil => exact absurd rfl hne
  | cons c word =>
    rw [List.mem_cons, not_or] at hword
    rw [List.cons_append, wordStarts, if_pos ⟨rfl, Ne.symm hword.1⟩,
      wordStarts_within (Ne.symm hword.1) hword.2, List.length_cons, Nat.add_right_comm i 1,
      Nat.add_assoc i word.length 1]

/-- Words with two blanks behind each start at every fourth place exactly if they have two
characters, the last one excepted. -/
theorem wordStarts_flatMap_iff {f : Int → List Char} {ns : List Int}
    (h : ∀ n ∈ ns, f n ≠ [] ∧ ' ' ∉ f n) :
    wordStarts ' ' i (ns.flatMap fun n => f n ++ [' ', ' ']) = List.range' i ns.length 4 ↔
      ns.Pairwise fun n _ => (f n).length = 2 := by
  have hstep (i : Nat) (n : Int) (ns : List Int) (hn : f n ≠ [] ∧ ' ' ∉ f n) :
      wordStarts ' ' i ((n :: ns).flatMap fun n => f n ++ [' ', ' '])
        = i :: wordStarts ' ' (i + (f n).length + 2) (ns.flatMap fun n => f n ++ [' ', ' ']) := by
    rw [List.flatMap_cons, List.append_assoc]
    show wordStarts ' ' i (f n ++ ' ' :: ' ' :: ns.flatMap fun n => f n ++ [' ', ' ']) = _
    rw [wordStarts_append hn.1 hn.2, wordStarts_blank]
  induction ns generalizing i with
  | nil => simp [wordStarts]
  | cons n ns ih =>
    rw [List.forall_mem_cons] at h
    rw [hstep i n ns h.1, List.length_cons, List.range'_succ, List.cons_inj_right,
      List.pairwise_cons]
    by_cases hwidth : (f n).length = 2
    · have hrest := ih (i := i + 4) h.2
      rw [hwidth]
      simpa using hrest
    · cases ns with
      | nil => simp [wordStarts]
      | cons m ns =>
        -- The next word misses its place.
        rw [hstep _ m ns (h.2 m List.mem_cons_self), List.length_cons, List.range'_succ,
          List.cons_eq_cons]
        constructor
        · intro hplaces
          omega
        · intro hall
          exact absurd (hall.1 m List.mem_cons_self) hwidth

end Text

namespace Picture

variable {a : Arena} {p : Pose} {r : Int} {columns : List Int} {y : Int}

/-- A label has two characters if its number is below 100. -/
theorem length_numbered_iff (hy : 0 ≤ y) : (numbered y).toList.length = 2 ↔ y < 100 := by
  have hlength := Text.length_padded hy
  rw [numbered_eq hy]
  omega

/-! ### Rows and borders -/

theorem length_border (n : Nat) : (border n).toList.length = 3 + 4 * n := by
  rw [toList_border]
  simp
  omega

theorem length_row (hne : columns ≠ []) :
    (row a p columns y).toList.length = (numbered y).toList.length + 1 + 4 * columns.length := by
  rw [toList_row a p y hne]
  simp [List.length_flatMap]
  omega

/-- A row is as long as its border if its label has two characters. -/
theorem length_row_eq_iff (hy : 0 ≤ y) (hne : columns ≠ []) :
    (row a p columns y).toList.length = (border columns.length).toList.length ↔ y < 100 := by
  rw [length_row hne, length_border, ← length_numbered_iff hy]
  omega

theorem places_border (n : Nat) :
    Text.places '+' 0 (border n).toList = List.range' 2 (n + 1) 4 := by
  have hblock : ∀ block ∈ List.replicate n ['+', '-', '-', '-'],
      block.length = 4 ∧ ∀ i, Text.places '+' i block = [i + 0] := by
    intro block hmem
    rw [List.eq_of_mem_replicate hmem]
    exact ⟨rfl, fun i => rfl⟩
  rw [toList_border]
  -- Two blanks stand in front of the first mark.
  show Text.places '+' 2 ((List.replicate n ['+', '-', '-', '-']).flatten ++ ['+']) = _
  rw [Text.places_append, Text.places_flatten hblock, List.range'_concat]
  simp [Text.places]
  omega

theorem places_row (hy : 0 ≤ y) (hne : columns ≠ []) :
    Text.places '|' 0 (row a p columns y).toList
      = List.range' (numbered y).toList.length (columns.length + 1) 4 := by
  have hblock : ∀ block ∈ columns.map fun x => [' ', mark a p ⟨x, y⟩, ' '] ++ ['|'],
      block.length = 4 ∧ ∀ i, Text.places '|' i block = [i + 3] := by
    intro block hmem
    obtain ⟨x, -, rfl⟩ := List.mem_map.mp hmem
    have hmark : mark a p ⟨x, y⟩ ≠ '|' := mark_ne ⟨x, y⟩ (by decide)
    exact ⟨rfl, fun i => by simp [Text.places, hmark]⟩
  have hlabel : '|' ∉ (numbered y).toList := not_mem_numbered hy (by decide)
  rw [toList_row a p y hne, Text.places_append, Text.places_of_not_mem hlabel, List.nil_append,
    List.range'_succ]
  show (0 + (numbered y).toList.length) :: Text.places '|' _ (columns.flatMap _) = _
  rw [List.flatMap_def, Text.places_flatten hblock, List.length_map, Nat.zero_add]

/-- The bars of a row stand under the marks of its border if its label has two characters. -/
theorem places_row_eq_iff (hy : 0 ≤ y) (hne : columns ≠ []) :
    Text.places '|' 0 (row a p columns y).toList
      = Text.places '+' 0 (border columns.length).toList ↔ y < 100 := by
  rw [places_row hy hne, places_border, ← length_numbered_iff hy]
  constructor
  · intro heq
    rw [List.range'_succ, List.range'_succ, List.cons_eq_cons] at heq
    exact heq.1
  · intro hlabel
    rw [hlabel]

/-! ### Rows and column labels -/

theorem markPlaces_row (hy : 0 ≤ y) (hne : columns ≠ []) :
    Sheet.markPlaces (row a p columns y).toList
      = List.range' ((numbered y).toList.length + 2) columns.length 4 := by
  -- The last bar closes the row, and no mark stands behind it.
  rw [Sheet.markPlaces, places_row hy hne, List.range'_concat, List.dropLast_concat,
    Nat.add_comm _ 2, ← List.map_add_range']
  simp only [Nat.add_comm]

/-- The column labels have their places if they have two characters, the last one excepted. -/
theorem wordStarts_axis_iff (hcolumns : ∀ x ∈ columns, 0 ≤ x) :
    Text.wordStarts ' ' 0 (axis columns).toList = List.range' 4 columns.length 4 ↔
      columns.Pairwise fun x _ => x < 100 := by
  have hlabels := Text.wordStarts_flatMap_iff (i := 4) fun x hx =>
    And.intro (numbered_ne_nil (hcolumns x hx))
      (not_mem_numbered (c := ' ') (hcolumns x hx) (by decide))
  rw [toList_axis, Text.wordStarts_blank, Text.wordStarts_blank, Text.wordStarts_blank,
    Text.wordStarts_blank, hlabels]
  exact List.Pairwise.iff_of_mem fun hx _ => length_numbered_iff (hcolumns _ hx)

/-! ### The whole picture -/

/-- A picture is aligned if its rows have numbers below 100, and so have its columns except the
last. -/
theorem isAligned_sheet_iff (hp : p.cell ∈ a.grid) (hr : 0 ≤ r) :
    (sheet a r p).IsAligned ↔
      (∀ y ∈ (Window.around a.grid r p.cell).rows, y < 100) ∧
        (Window.around a.grid r p.cell).columns.Pairwise fun x _ => x < 100 := by
  obtain ⟨hne, hcolumns⟩ := columns_around hp hr
  have hrows : ∀ y ∈ (Window.around a.grid r p.cell).rows, 0 ≤ y := by
    intro y hy
    exact (Window.mem_rows_around.mp hy).1.1
  -- Under a row with a label of two characters, the columns have their marks where labels belong.
  have hlabels : ∀ y ∈ (Window.around a.grid r p.cell).rows, y < 100 →
      (Text.wordStarts ' ' 0 (axis (Window.around a.grid r p.cell).columns).toList
          = Sheet.markPlaces (row a p (Window.around a.grid r p.cell).columns y).toList ↔
        (Window.around a.grid r p.cell).columns.Pairwise fun x _ => x < 100) := by
    intro y hy hlow
    rw [markPlaces_row (hrows y hy) hne, (length_numbered_iff (hrows y hy)).mpr hlow]
    exact wordStarts_axis_iff hcolumns
  simp only [Sheet.isAligned_iff, sheet, List.forall_mem_map, true_and]
  constructor
  · intro h
    have hlow : ∀ y ∈ (Window.around a.grid r p.cell).rows, y < 100 := by
      intro y hy
      exact (length_row_eq_iff (hrows y hy) hne).mp (h.1 y hy)
    have hrobot : p.cell.y ∈ (Window.around a.grid r p.cell).rows :=
      (Window.mem_cells.mp (Window.mem_cells_around.mpr (Arena.inView_robot hp hr))).2
    exact ⟨hlow, (hlabels _ hrobot (hlow _ hrobot)).mp (h.2.2 _ hrobot)⟩
  · intro h
    refine ⟨fun y hy => ?_, fun y hy => ?_, fun y hy => ?_⟩
    · exact (length_row_eq_iff (hrows y hy) hne).mpr (h.1 y hy)
    · exact (places_row_eq_iff (hrows y hy) hne).mpr (h.1 y hy)
    · exact (hlabels y hy (h.1 y hy)).mpr h.2

end Picture

/-! ### Main result -/

variable {a : Arena} {p : Pose} {r : Int}

/-- A picture is aligned exactly if every row in view has a number below 100, and so has every
column with another one in view on its east. -/
theorem picture_aligned_iff_narrow_labels (hp : p.cell ∈ a.grid) (hr : 0 ≤ r) :
    ∃ s, Sheet.read? (Picture.render a r p) = some s ∧
      (s.IsAligned ↔ (∀ c, a.InView r p c → c.y < 100) ∧
        ∀ c e, a.InView r p c → a.InView r p e → c.x < e.x → c.x < 100) := by
  have hview (c : Cell) : a.InView r p c ↔ c.x ∈ (Window.around a.grid r p.cell).columns ∧
      c.y ∈ (Window.around a.grid r p.cell).rows := by
    rw [← Window.mem_cells_around, Window.mem_cells]
  have hrobot := (hview p.cell).mp (Arena.inView_robot hp hr)
  have hsorted : (Window.around a.grid r p.cell).columns.Pairwise (· < ·) :=
    Window.pairwise_span _ _
  refine ⟨Picture.sheet a r p, Picture.read?_render hp hr, ?_⟩
  rw [Picture.isAligned_sheet_iff hp hr]
  constructor
  · intro h
    have hfirst : (Window.around a.grid r p.cell).columns.Pairwise fun x x' => x < x' → x < 100 :=
      h.2.imp fun {x x'} (hx : x < 100) (_ : x < x') => hx
    -- The columns go up, so nothing is said about two of them in the other order.
    have hwest := hfirst.forall_of_forall_of_flip (fun x _ hlt => absurd hlt (lt_irrefl x))
      (hsorted.imp fun hlt hgt => absurd hgt hlt.not_gt)
    exact ⟨fun c hc => h.1 c.y ((hview c).mp hc).2,
      fun c e hc he => hwest ((hview c).mp hc).1 ((hview e).mp he).1⟩
  · intro h
    constructor
    · intro y hy
      exact h.1 ⟨p.cell.x, y⟩ ((hview _).mpr ⟨hrobot.1, hy⟩)
    · refine hsorted.imp_of_mem fun {x x'} hx hx' hlt => ?_
      exact h.2 ⟨x, p.cell.y⟩ ⟨x', p.cell.y⟩ ((hview _).mpr ⟨hx, hrobot.2⟩)
        ((hview _).mpr ⟨hx', hrobot.2⟩) hlt

/-- The last column may have a wider label. -/
theorem picture_aligned_iff_narrow_labels_column_100 :
    ∃ s, Sheet.read? (Picture.render ⟨⟨101, 1⟩, CellSet.ofList [], []⟩ 1 ⟨⟨100, 0⟩, .west⟩)
      = some s ∧ s.IsAligned := by
  have hp : (⟨100, 0⟩ : Cell) ∈ (⟨101, 1⟩ : Grid) := by
    rw [Grid.mem_iff]
    decide
  obtain ⟨s, hread, haligned⟩ := picture_aligned_iff_narrow_labels
    (a := ⟨⟨101, 1⟩, CellSet.ofList [], []⟩) (p := ⟨⟨100, 0⟩, .west⟩) (r := 1) hp (by decide)
  refine ⟨s, hread, haligned.mpr ⟨fun c hc => ?_, fun c e hc he hlt => ?_⟩⟩
  · have hrow := (Grid.mem_iff.mp hc.1).2
    simp only at hrow
    omega
  · have hcolumn := (Grid.mem_iff.mp he.1).1
    simp only at hcolumn
    omega

/-- A row with number 100 is longer than the borders above and below it. -/
theorem picture_of_row_100_not_aligned :
    (⟨0, 100⟩ : Cell) ∈ (⟨1, 101⟩ : Grid) ∧
      Picture.render ⟨⟨1, 101⟩, CellSet.ofList [], []⟩ 0 ⟨⟨0, 100⟩, .north⟩
        = "  +---+\n100| ^ |\n  +---+\n    00  " ∧
      ∃ s, Sheet.read? (Picture.render ⟨⟨1, 101⟩, CellSet.ofList [], []⟩ 0 ⟨⟨0, 100⟩, .north⟩)
        = some s ∧ ¬ s.IsAligned := by
  have hp : (⟨0, 100⟩ : Cell) ∈ (⟨1, 101⟩ : Grid) := by
    rw [Grid.mem_iff]
    decide
  refine ⟨hp, by decide, _, Picture.read?_render hp (by decide), fun haligned => ?_⟩
  have hrows := ((Picture.isAligned_sheet_iff hp (by decide)).mp haligned).1
  exact absurd (hrows 100 (by decide)) (by decide)

end GridWalk
