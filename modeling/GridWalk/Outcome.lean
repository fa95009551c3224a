import GridWalk.Fault
import GridWalk.Pose

/-!
# `GridWalk.Outcome`: how a journey ends

An outcome is a verdict with a pose. For a success and an unexpected end the pose is where the
robot stands. For an exit and a crash it is the pose that the robot tried to take, or the start
when the robot starts on an obstacle. Each outcome has one output line. An `Ending` may lack its
verdict, and then it has no line.
-/

set_option autoImplicit false

namespace GridWalk

/-- The four ways in which a journey can end. -/
inductive Verdict
  /-- All commands were carried out, and the robot stands at the goal. -/
  | success
  /-- A move would have left the grid. -/
  | outOfBounds
  /-- A move would have entered an obstacle, or the robot starts on one. -/
  | crashed
  /-- All commands were carried out, and the robot does not stand at the goal. -/
  | unexpectedEnd
deriving DecidableEq

namespace Verdict

/-- The word for the verdict in output lines, reports and titles. -/
def name : Verdict → String
  | success => "SUCCESS"
  | outOfBounds => "OUT OF BOUNDS"
  | crashed => "CRASHED"
  | unexpectedEnd => "FAILURE"

/-- The verdict with the word. -/
def ofName? (name : String) : Option Verdict :=
  [success, outOfBounds, crashed, unexpectedEnd].find? fun v => v.name == name

/-- The word for the verdict where messages show an outcome. -/
def tag : Verdict → String
  | success => "Success"
  | outOfBounds => "OutOfBounds"
  | crashed => "Crashed"
  | unexpectedEnd => "UnexpectedFinalState"

/-- The word of a verdict leads back to it. -/
theorem ofName?_name (v : Verdict) : ofName? v.name = some v := by
  cases v <;> decide

end Verdict

/-- How a journey ends. -/
structure Outcome where
  verdict : Verdict
  pose : Pose
deriving DecidableEq

namespace Outcome

/-- The journey did what it was asked for. -/
def isSuccess (o : Outcome) : Bool :=
  o.verdict == .success

/-- The output line. An exit does not say where, and a crash does not say how the robot
faced. -/
def line (o : Outcome) : String :=
  match o.verdict with
  | .success | .unexpectedEnd => o.verdict.name ++ " " ++ o.pose.line
  | .outOfBounds => o.verdict.name
  | .crashed =>
    o.verdict.name ++ " " ++ toString o.pose.cell.x ++ " " ++ toString o.pose.cell.y

/-- The outcome as messages show it. -/
def describe (o : Outcome) : String :=
  o.verdict.tag ++ "(" ++ o.pose.describe ++ ")"

end Outcome

/-- The end of a journey whose verdict may be missing. -/
structure Ending where
  verdict : Option Verdict
  pose : Pose
deriving DecidableEq

namespace Ending

/-- The ending as messages show it. -/
def describe (e : Ending) : String :=
  match e.verdict with
  | some v => Outcome.describe ⟨v, e.pose⟩
  | none => "Outcome(" ++ e.pose.describe ++ ")"

/-- The output line. Without a verdict there is none. -/
def line (e : Ending) : Except Fault String :=
  match e.verdict with
  | some v => .ok (Outcome.line ⟨v, e.pose⟩)
  | none => .error (.noVerdict e.describe)

end Ending

end GridWalk
