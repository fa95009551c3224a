import GridWalk.Cell
import GridWalk.Heading

/-!
# `GridWalk.Pose`: where a robot stands and how it faces

A pose is a cell and a heading. Turns and moves give new poses and know nothing of grids or
obstacles.
-/

set_option autoImplicit false

namespace GridWalk

/-- The cell of a robot and its heading. -/
structure Pose where
  cell : Cell
  heading : Heading
deriving DecidableEq

namespace Pose

/-- The robot after a quarter turn to the left. -/
def turnLeft (p : Pose) : Pose :=
  ⟨p.cell, p.heading.turnLeft⟩

/-- The robot after a quarter turn to the right. -/
def turnRight (p : Pose) : Pose :=
  ⟨p.cell, p.heading.turnRight⟩

/-- The robot one cell ahead, with the same heading. -/
def ahead (p : Pose) : Pose :=
  ⟨⟨p.cell.x + p.heading.dx, p.cell.y + p.heading.dy⟩, p.heading⟩

/-- The pose in output lines: column, row and heading letter. -/
def line (p : Pose) : String :=
  toString p.cell.x ++ " " ++ toString p.cell.y ++ " " ++ p.heading.letter.toString

/-- The pose as messages show it. -/
def describe (p : Pose) : String :=
  "RobotState(x=" ++ toString p.cell.x ++ ", y=" ++ toString p.cell.y ++ ", direction="
    ++ p.heading.letter.toString ++ ")"

end Pose

end GridWalk
