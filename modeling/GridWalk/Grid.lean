import GridWalk.Cell

/-!
# `GridWalk.Grid`: the rectangle of a document

The cells of a grid run from (0, 0) in the south-west corner to (width - 1, height - 1) in the
north-east corner. A grid with a side below 1 can be written but has no cells.
-/

set_option autoImplicit false

namespace GridWalk

/-- A rectangle of cells. -/
structure Grid where
  width : Int
  height : Int
deriving DecidableEq

namespace Grid

/-- Both sides are at least 1. -/
def isValid (g : Grid) : Bool :=
  decide (1 ≤ g.width) && decide (1 ≤ g.height)

/-- The cell lies in the grid. -/
def contains (g : Grid) (c : Cell) : Bool :=
  decide (0 ≤ c.x) && decide (c.x < g.width) && decide (0 ≤ c.y) && decide (c.y < g.height)

/-- The sides with a cross between them, as in a document. -/
def extent (g : Grid) : String :=
  toString g.width ++ "x" ++ toString g.height

/-- The grid as messages show it. -/
def describe (g : Grid) : String :=
  "Grid(width=" ++ toString g.width ++ ", height=" ++ toString g.height ++ ")"

/-- The test is what its name says. -/
theorem isValid_iff {g : Grid} : g.isValid = true ↔ 1 ≤ g.width ∧ 1 ≤ g.height := by
  simp [isValid]

/-- A cell lies in the grid when both coordinates are between 0 and the side. -/
theorem contains_iff {g : Grid} {c : Cell} :
    g.contains c = true ↔ (0 ≤ c.x ∧ c.x < g.width) ∧ 0 ≤ c.y ∧ c.y < g.height := by
  simp [contains, and_assoc]

end Grid

end GridWalk
