import GridWalk.Run
import GridWalk.Text.Json

/-!
# `GridWalk.Report`: a run as JSON

A report names the file, says whether the journeys were driven, and repeats the output lines. It
has one entry per journey, with the pose that the output line may leave out. The lines of a run
without journeys driven are its errors.
-/

set_option autoImplicit false

namespace GridWalk

open GridWalk.Text (Json)

/-- The entry of one journey. -/
structure JourneyReport where
  index : Nat
  status : String
  line : String
  pose : Pose

/-- The report of a run. -/
structure Report where
  file : String
  ok : Bool
  lines : List String
  journeys : List JourneyReport
  errors : List String

namespace JourneyReport

/-- The entry of the journey with the number `index`, counted from 0. -/
def ofOutcome (outcome : Outcome) (line : String) (index : Nat) : JourneyReport :=
  ⟨index, outcome.verdict.name, line, outcome.pose⟩

/-- The entry as JSON. -/
def json (j : JourneyReport) : Json :=
  .object
    [("index", .number j.index), ("status", .text j.status), ("line", .text j.line),
      ("state", .object
        [("x", .number j.pose.cell.x), ("y", .number j.pose.cell.y),
          ("d", .text j.pose.heading.letter.toString)])]

end JourneyReport

namespace Report

/-- The report of a run on the file. Each outcome goes with the output line in its place. -/
def ofRun (file : String) (r : Run) : Report :=
  let paired := (r.outcomes.zip r.lines).zipIdx
  let journeys := paired.map fun entry => JourneyReport.ofOutcome entry.1.1 entry.1.2 entry.2
  ⟨file, r.isCompleted, r.lines, journeys, if r.isCompleted then [] else r.lines⟩

/-- The report as JSON. -/
def json (r : Report) : Json :=
  .object
    [("file", .text r.file), ("ok", .bool r.ok), ("lines", .list (r.lines.map Json.text)),
      ("journeys", .list (r.journeys.map JourneyReport.json)),
      ("errors", .list (r.errors.map Json.text))]

end Report

end GridWalk
