import GridWalk.Grid
import GridWalk.Journey

/-!
# `GridWalk.Arena`: what robots drive in

An arena is a grid with a set of obstacles and the journeys through it. Every journey sees the
same arena, and no journey changes it.
-/

set_option autoImplicit false

namespace GridWalk

/-- A grid with a set of obstacles and the journeys through it. -/
structure Arena where
  grid : Grid
  obstacles : CellSet
  journeys : List Journey

namespace Arena

/-- An obstacle stands on the cell. -/
def isBlocked (a : Arena) (c : Cell) : Bool :=
  a.obstacles.contains c

/-- The arena as messages show it: its grid and its counts. -/
def describe (a : Arena) : String :=
  "ValidatedDocument(grid=" ++ a.grid.describe ++ ", obstacles=" ++ toString a.obstacles.size
    ++ ", journeys=" ++ toString a.journeys.length ++ ")"

end Arena

end GridWalk
