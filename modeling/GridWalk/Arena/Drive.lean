import GridWalk.Observer

/-!
# `GridWalk.Arena.Drive`: robots drive

`Arena.step` carries out one command. A turn always works. A move fails with an outcome when it
would leave the grid or enter an obstacle, and the grid is looked at first. `Arena.walk` carries
out commands up to the first failure, `Arena.travel` is a whole journey, and `Arena.simulate`
drives all journeys in document order. A failed journey does not stop the next one.

All of these announce what happens to hooks in any monad. With `Hooks.silent` in the identity
monad they are plain functions.
-/

set_option autoImplicit false

namespace GridWalk.Arena

/-- Moves one cell ahead, or fails with the pose that the robot tried to take. -/
def advance (a : Arena) (p : Pose) : Except Outcome Pose :=
  if a.grid.contains p.ahead.cell then
    if a.isBlocked p.ahead.cell then .error ⟨.crashed, p.ahead⟩ else .ok p.ahead
  else .error ⟨.outOfBounds, p.ahead⟩

/-- Carries out one command. -/
def step (a : Arena) (p : Pose) : Command → Except Outcome Pose
  | .left => .ok p.turnLeft
  | .right => .ok p.turnRight
  | .forward => a.advance p

/-- How a journey ends whose commands have all been carried out. -/
def arrive (goal p : Pose) : Outcome :=
  if p = goal then ⟨.success, p⟩ else ⟨.unexpectedEnd, p⟩

variable {m : Type → Type} [Monad m]

/-- Carries out commands from a pose and announces each pose that is reached after it. -/
def walk (reach : Pose → m Unit) (a : Arena) (goal : Pose) : Pose → List Command → m Outcome
  | p, [] => pure (arrive goal p)
  | p, k :: rest =>
    match a.step p k with
    | .error outcome => pure outcome
    | .ok q => do
      reach q
      walk reach a goal q rest

/-- Drives a journey from its start on, unless an obstacle stands there. -/
def drive (reach : Pose → m Unit) (a : Arena) (j : Journey) : m Outcome := do
  if a.isBlocked j.start.cell then return ⟨.crashed, j.start⟩
  reach j.start
  walk reach a j.goal j.start j.commands

/-- The record of a finished journey. -/
def journeyRecord (j : Journey) (outcome : Outcome) : Record :=
  ⟨.debug, "robot_journeys.simulation.simulator",
    "Journey " ++ j.describe ++ " finished: " ++ outcome.describe⟩

/-- Drives one journey and announces its start, the poses on the way and its end. -/
def travel (hooks : Hooks m) (a : Arena) (j : Journey) : m Outcome := do
  hooks.observe a (.started j)
  let outcome ← drive (fun p => hooks.observe a (.reached p)) a j
  hooks.observe a (.finished j outcome)
  hooks.log (journeyRecord j outcome)
  return outcome

/-- Drives all journeys and gives their outcomes, in document order. -/
def simulate (hooks : Hooks m) (a : Arena) : m (List Outcome) :=
  a.journeys.mapM (travel hooks a)

/-- The outcomes of all journeys when nobody watches. -/
def outcomes (a : Arena) : List Outcome :=
  Id.run (a.simulate Hooks.silent)

end GridWalk.Arena
