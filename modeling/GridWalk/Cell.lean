/-!
# `GridWalk.Cell`: cells and sets of cells

A cell is a pair of integers. Cells are ordered by column and then by row. A `CellSet` keeps
its cells in that order without repetitions, so a set is determined by its members
(`CellSet.ext_mem`): neither the order nor the repetition of the cells it was built from is
left in it. Where the members are gone through one by one, the order is left to a
`CellSet.Arrangement`.
-/

set_option autoImplicit false

namespace GridWalk

/-- A cell of the plane. `x` grows to the east and `y` to the north. -/
structure Cell where
  x : Int
  y : Int
deriving DecidableEq

namespace Cell

/-- The first cell stands in a column before the second, or below it in the same column. -/
def Before (a b : Cell) : Prop :=
  a.x < b.x ∨ (a.x = b.x ∧ a.y < b.y)

instance (a b : Cell) : Decidable (a.Before b) :=
  inferInstanceAs (Decidable (_ ∨ _))

/-- The cell as messages about obstacles show it. -/
def describe (c : Cell) : String :=
  "Obstacle(x=" ++ toString c.x ++ ", y=" ++ toString c.y ++ ")"

/-- The order of cells is transitive. -/
theorem Before.trans {a b c : Cell} (hab : a.Before b) (hbc : b.Before c) : a.Before c := by
  unfold Before at *
  omega

/-- No cell stands before itself. -/
theorem not_before_self (a : Cell) : ¬a.Before a := by
  unfold Before
  omega

/-- Two different cells are in order one way or the other. -/
theorem before_or_eq_or_before (a b : Cell) : a.Before b ∨ a = b ∨ b.Before a := by
  cases a
  cases b
  simp only [Before, Cell.mk.injEq]
  omega

/-- Puts a cell into an ordered list, unless it is there. -/
def insertInto (c : Cell) : List Cell → List Cell
  | [] => [c]
  | d :: rest =>
    if c.Before d then c :: d :: rest
    else if c = d then d :: rest
    else d :: insertInto c rest

/-- The new cell and the old ones, and no others. -/
theorem mem_insertInto {c e : Cell} {cells : List Cell} :
    e ∈ insertInto c cells ↔ e = c ∨ e ∈ cells := by
  induction cells with
  | nil => simp [insertInto]
  | cons d rest ih =>
    unfold insertInto
    split
    · simp
    · split
      · next heq => subst heq; simp
      · simp only [List.mem_cons, ih]
        constructor
        · rintro (h | h | h) <;> simp [h]
        · rintro (h | h | h) <;> simp [h]

/-- An ordered list stays ordered. -/
theorem pairwise_insertInto {c : Cell} {cells : List Cell} (h : cells.Pairwise Before) :
    (insertInto c cells).Pairwise Before := by
  induction cells with
  | nil => simp [insertInto]
  | cons d rest ih =>
    obtain ⟨hd, hrest⟩ := List.pairwise_cons.mp h
    unfold insertInto
    split
    · next hcd =>
      refine List.pairwise_cons.mpr ⟨fun e he => ?_, h⟩
      rcases List.mem_cons.mp he with rfl | he
      · exact hcd
      · exact hcd.trans (hd e he)
    · next hcd =>
      split
      · exact h
      · next hne =>
        refine List.pairwise_cons.mpr ⟨fun e he => ?_, ih hrest⟩
        rcases mem_insertInto.mp he with rfl | he
        · exact ((before_or_eq_or_before e d).resolve_left hcd).resolve_left hne
        · exact hd e he

end Cell

/-- A finite set of cells. -/
structure CellSet where
  /-- The members, by column and then by row. -/
  toList : List Cell
  ordered : toList.Pairwise Cell.Before

namespace CellSet

/-- The set without members. -/
def empty : CellSet :=
  ⟨[], List.Pairwise.nil⟩

/-- The set with one more member. -/
def insert (s : CellSet) (c : Cell) : CellSet :=
  ⟨c.insertInto s.toList, Cell.pairwise_insertInto s.ordered⟩

/-- The set of the cells of a list. -/
def ofList (cells : List Cell) : CellSet :=
  cells.foldr (fun c s => s.insert c) empty

/-- The cell is a member. -/
def contains (s : CellSet) (c : Cell) : Bool :=
  s.toList.contains c

/-- The number of members. -/
def size (s : CellSet) : Nat :=
  s.toList.length

/-- The members of a set in the order in which they are gone through. Any order may be met, and it
may come from the way in which the set was listed. -/
structure Arrangement (s : CellSet) where
  cells : List Cell
  /-- Each member comes once. -/
  perm : cells.Perm s.toList

/-- The arrangement by column and then by row. -/
def arranged (s : CellSet) : s.Arrangement :=
  ⟨s.toList, .refl _⟩

/-- A way to go through sets, with an arrangement for each of them. -/
abbrev Order : Type :=
  (s : CellSet) → s.Arrangement

/-- The set of a list has the cells of the list as its members, in whatever order and however
often the list names them. -/
@[simp]
theorem mem_toList_ofList {cells : List Cell} {c : Cell} :
    c ∈ (ofList cells).toList ↔ c ∈ cells := by
  induction cells with
  | nil => simp [ofList, empty]
  | cons d rest ih =>
    change c ∈ d.insertInto (ofList rest).toList ↔ _
    rw [Cell.mem_insertInto, ih, List.mem_cons]

/-- To ask the set is to ask the list. -/
@[simp]
theorem contains_ofList {cells : List Cell} {c : Cell} :
    (ofList cells).contains c = cells.contains c := by
  rw [Bool.eq_iff_iff]
  simp [contains]

/-- Two ordered lists with the same cells are the same list. -/
theorem eq_of_mem_iff {xs ys : List Cell} (hx : xs.Pairwise Cell.Before)
    (hy : ys.Pairwise Cell.Before) (h : ∀ c, c ∈ xs ↔ c ∈ ys) : xs = ys := by
  induction xs generalizing ys with
  | nil =>
    cases ys with
    | nil => rfl
    | cons d ys => exact absurd ((h d).mpr List.mem_cons_self) List.not_mem_nil
  | cons c xs ih =>
    cases ys with
    | nil => exact absurd ((h c).mp List.mem_cons_self) List.not_mem_nil
    | cons d ys =>
      obtain ⟨hc, hxs⟩ := List.pairwise_cons.mp hx
      obtain ⟨hd, hys⟩ := List.pairwise_cons.mp hy
      -- Each head is the least cell of both lists.
      have hcd : c = d := by
        rcases List.mem_cons.mp ((h c).mp List.mem_cons_self) with heq | hmem
        · exact heq
        · rcases List.mem_cons.mp ((h d).mpr List.mem_cons_self) with heq | hmem'
          · exact heq.symm
          · exact absurd ((hd c hmem).trans (hc d hmem')) (Cell.not_before_self d)
      subst hcd
      refine congrArg (c :: ·) (ih hxs hys fun e => ?_)
      have he := h e
      simp only [List.mem_cons] at he
      constructor
      · intro hmem
        rcases he.mp (.inr hmem) with rfl | hmem'
        · exact absurd (hc e hmem) (Cell.not_before_self e)
        · exact hmem'
      · intro hmem
        rcases he.mpr (.inr hmem) with rfl | hmem'
        · exact absurd (hd e hmem) (Cell.not_before_self e)
        · exact hmem'

/-- A set is determined by its members. -/
theorem ext_mem {s t : CellSet} (h : ∀ c, c ∈ s.toList ↔ c ∈ t.toList) : s = t := by
  obtain ⟨xs, hx⟩ := s
  obtain ⟨ys, hy⟩ := t
  have : xs = ys := eq_of_mem_iff hx hy h
  subst this
  rfl

end CellSet

end GridWalk
