import GridWalk.Document
import GridWalk.Violation

/-!
# `GridWalk.Document.Check`: documents against their own grids

`Document.violations` lists every disagreement of a document with its grid, in document order:
the grid, the obstacles as listed, and for each journey its start before its goal. An invalid
grid has no cells, so all that the document puts on it is listed as well. `Document.check`
gives the arena exactly when the list is empty.
-/

set_option autoImplicit false

namespace GridWalk

namespace Grid

/-- The violation of a grid without cells. -/
def ownViolations (g : Grid) : List Violation :=
  if g.isValid then [] else [.invalidGrid g]

/-- The violation of an obstacle outside the grid. -/
def obstacleViolations (g : Grid) (obstacle : Cell) : List Violation :=
  if g.contains obstacle then [] else [.obstacleOutside obstacle g]

/-- The violation of a pose outside the grid. -/
def poseViolations (g : Grid) (which : JourneyEnd) (p : Pose) : List Violation :=
  if g.contains p.cell then [] else [.poseOutside which p g]

/-- The violations of a journey. Both ends are looked at, the start first. -/
def journeyViolations (g : Grid) (j : Journey) : List Violation :=
  g.poseViolations .start j.start ++ g.poseViolations .goal j.goal

end Grid

namespace Document

/-- All violations of the document, in document order. -/
def violations (d : Document) : List Violation :=
  d.grid.ownViolations ++ d.obstacles.flatMap d.grid.obstacleViolations
    ++ d.journeys.flatMap d.grid.journeyViolations

/-- The arena of a document without violations, or the rejection that lists them all. -/
def check (d : Document) : Except Rejection Arena :=
  match d.violations with
  | [] => .ok d.arena
  | v :: vs => .error ⟨(v :: vs).map Notice.ofViolation, by simp⟩

/-- A document passes exactly when it has no violation. Its arena is then the unchecked one. -/
theorem check_eq_ok_iff {d : Document} {a : Arena} :
    d.check = .ok a ↔ d.violations = [] ∧ a = d.arena := by
  unfold check
  split
  · next h => simp [h, eq_comm]
  · next v vs h => simp [h]

end Document

end GridWalk
