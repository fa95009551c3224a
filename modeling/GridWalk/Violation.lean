import GridWalk.Fault
import GridWalk.Grid
import GridWalk.Pose

/-!
# `GridWalk.Violation`: what is wrong with a document

A `Violation` is one way in which a document disagrees with its own grid. A `Notice` is its
report: a kind and a message. A `Rejection` holds the notices of a refused document. There is
at least one, which is a field of the type.
-/

set_option autoImplicit false

namespace GridWalk

open GridWalk.Text (quoted)

/-- The kinds of violations. -/
inductive ViolationKind
  | invalidGrid
  | obstacleOutside
  | poseOutside
deriving DecidableEq

namespace ViolationKind

/-- The name of the kind in reports. -/
def name : ViolationKind → String
  | invalidGrid => "invalid-grid"
  | obstacleOutside => "obstacle-out-of-bounds"
  | poseOutside => "robot-state-out-of-bounds"

/-- The kind with the name. -/
def read (name : String) : Except Fault ViolationKind :=
  match [invalidGrid, obstacleOutside, poseOutside].find? fun k => k.name == name with
  | some k => .ok k
  | none => .error (.unknownKind name)

end ViolationKind

/-- The end of a journey that a pose belongs to. -/
inductive JourneyEnd
  | start
  | goal
deriving DecidableEq

/-- The word for the end at the start of a message. -/
def JourneyEnd.word : JourneyEnd → String
  | start => "Initial"
  | goal => "Final"

/-- One way in which a document disagrees with its grid. -/
inductive Violation
  /-- The grid has a side below 1. -/
  | invalidGrid (grid : Grid)
  /-- An obstacle lies outside the grid. -/
  | obstacleOutside (obstacle : Cell) (grid : Grid)
  /-- A journey starts or should end outside the grid. -/
  | poseOutside (which : JourneyEnd) (pose : Pose) (grid : Grid)
deriving DecidableEq

namespace Violation

/-- The kind of the violation. -/
def kind : Violation → ViolationKind
  | invalidGrid _ => .invalidGrid
  | obstacleOutside _ _ => .obstacleOutside
  | poseOutside _ _ _ => .poseOutside

/-- The violation in words. -/
def message : Violation → String
  | invalidGrid g => "Invalid grid " ++ g.describe
  | obstacleOutside c g =>
    "Obstacle [" ++ c.describe ++ "] out of bounds of defined grid [" ++ g.extent ++ "]"
  | poseOutside which p g =>
    which.word ++ " robot state [" ++ p.describe ++ "] out of bounds of defined grid ["
      ++ g.extent ++ "]"

end Violation

/-- The report of one violation. -/
structure Notice where
  kind : ViolationKind
  message : String
deriving DecidableEq

namespace Notice

/-- The report of a violation. -/
def ofViolation (v : Violation) : Notice :=
  ⟨v.kind, v.message⟩

/-- The output line. -/
def line (n : Notice) : String :=
  "Validation: " ++ n.message

/-- The notice as messages show it. -/
def describe (n : Notice) : String :=
  "ValidationError(kind=" ++ n.kind.name ++ ", message=" ++ quoted n.message ++ ")"

end Notice

/-- The notices of a refused document, in document order. -/
structure Rejection where
  notices : List Notice
  notices_ne_nil : notices ≠ []

namespace Rejection

/-- A rejection with the notices, if there is one at all. -/
def ofNotices (notices : List Notice) : Except Fault Rejection :=
  if h : notices = [] then .error .noViolation else .ok ⟨notices, h⟩

/-- The messages of the notices. -/
def messages (r : Rejection) : List String :=
  r.notices.map Notice.message

/-- All messages in one line. -/
def message (r : Rejection) : String :=
  "; ".intercalate r.messages

/-- The output lines. -/
def lines (r : Rejection) : List String :=
  r.notices.map Notice.line

end Rejection

end GridWalk
