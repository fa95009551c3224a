import GridWalk.Command
import GridWalk.Pose

/-!
# `GridWalk.Journey`: one run of a robot, as it is asked for

A journey is a start, a list of commands and a goal. The goal is where the robot should stand
when it has carried out all commands.
-/

set_option autoImplicit false

namespace GridWalk

/-- One run of a robot. -/
structure Journey where
  start : Pose
  commands : List Command
  goal : Pose
deriving DecidableEq

namespace Journey

/-- The commands in their letters. -/
def spelling (j : Journey) : String :=
  String.ofList (Command.spell j.commands)

/-- The journey as messages show it. The letters of commands need no escapes between quotes. -/
def describe (j : Journey) : String :=
  "RobotJourney(initial=" ++ j.start.describe ++ ", commands='" ++ j.spelling
    ++ "', expected_final=" ++ j.goal.describe ++ ")"

end Journey

end GridWalk
