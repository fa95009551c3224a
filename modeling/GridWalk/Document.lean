import GridWalk.Arena

/-!
# `GridWalk.Document`: documents as written

A document is a text in its parts: obstacles in their order and with their repetitions, nothing
compared with the grid. `Document.arena` forgets order and repetition of the obstacles and
checks nothing.
-/

set_option autoImplicit false

namespace GridWalk

/-- A document as written. -/
structure Document where
  grid : Grid
  obstacles : List Cell
  journeys : List Journey
deriving DecidableEq

namespace Document

/-- The arena of the document, with no check of what lies where. -/
def arena (d : Document) : Arena :=
  ⟨d.grid, CellSet.ofList d.obstacles, d.journeys⟩

/-- The document as messages show it: its grid and its counts. -/
def describe (d : Document) : String :=
  "ParsedDocument(grid=" ++ d.grid.describe ++ ", obstacles=" ++ toString d.obstacles.length
    ++ ", journeys=" ++ toString d.journeys.length ++ ")"

/-- A cell is blocked in the arena of a document when the document lists it. -/
@[simp]
theorem isBlocked_arena {d : Document} {c : Cell} :
    d.arena.isBlocked c = d.obstacles.contains c :=
  CellSet.contains_ofList

end Document

end GridWalk
