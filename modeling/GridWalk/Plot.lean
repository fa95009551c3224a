import GridWalk.Arena
import GridWalk.Outcome
import GridWalk.Plot.Point
import GridWalk.Text.Json

/-!
# `GridWalk.Plot`: the trajectories of a run as a drawing

A drawing is a list of calls to whatever draws. `Plot.calls` gives the calls of a run: the frame, a
square for each obstacle, then for each journey its way from cell to cell, its start, its last
heading and, unless it is a success, the cell where it failed. The squares come in the order in
which the set of obstacles is gone through, which is an argument. The title counts the outcomes by
verdict, in the order in which the verdicts first occur.
-/

set_option autoImplicit false

namespace GridWalk

open GridWalk.Text (Json)

/-- The colours of marks. -/
inductive Colour
  | gray
  | green
  | orange
  | red
  | purple
deriving DecidableEq

/-- The name of a colour. -/
def Colour.name : Colour → String
  | gray => "gray"
  | green => "green"
  | orange => "orange"
  | red => "red"
  | purple => "purple"

/-- The colour of a verdict. -/
def Verdict.colour : Verdict → Colour
  | success => .green
  | outOfBounds => .orange
  | crashed => .red
  | unexpectedEnd => .purple

/-- The shapes of marks. -/
inductive Shape
  | disc
  | cross
deriving DecidableEq

/-- The letter of a shape. -/
def Shape.letter : Shape → String
  | disc => "o"
  | cross => "x"

/-- One step of a drawing. -/
inductive DrawCall
  | clear
  /-- The horizontal axis runs from 0 to `last`. -/
  | xLimit (last : Int)
  /-- The vertical axis runs from 0 to `last`. -/
  | yLimit (last : Int)
  /-- Both axes have the same scale. -/
  | equalAspect
  | xTicks (ticks : List Int)
  | yTicks (ticks : List Int)
  | gridLines
  /-- Fills the unit square of the cell. -/
  | square (cell : Cell)
  /-- A line in a shade from 0 to 255. -/
  | line (first last : Point) (shade : Nat)
  | mark (shape : Shape) (place : Point) (colour : Colour)
  | label (place : Point) (text : String)
  | arrow (place offset : Point) (colour : Colour)
  | title (text : String)
  | save (path : String)
  | close
deriving DecidableEq

namespace DrawCall

/-- The call as a JSON list, its name first. Coordinates are texts with two decimals. -/
def json : DrawCall → Json
  | clear => .list [.text "clear"]
  | xLimit last => .list [.text "xlim", .number 0, .number last]
  | yLimit last => .list [.text "ylim", .number 0, .number last]
  | equalAspect => .list [.text "aspect", .text "equal"]
  | xTicks ticks => .list [.text "xticks", .list (ticks.map Json.number)]
  | yTicks ticks => .list [.text "yticks", .list (ticks.map Json.number)]
  | gridLines => .list [.text "grid", .bool true]
  | square c =>
    .list [.text "rects", .list [.list [.number c.x, .number c.y, .number 1, .number 1]]]
  | line first last shade =>
    .list [.text "line", .list [.text first.x.text, .text last.x.text],
      .list [.text first.y.text, .text last.y.text], .number shade]
  | mark shape p colour =>
    .list [.text "mark", .text shape.letter, .text p.x.text, .text p.y.text, .text colour.name]
  | label p text => .list [.text "text", .text p.x.text, .text p.y.text, .text text]
  | arrow p offset colour =>
    .list [.text "arrow", .text p.x.text, .text p.y.text, .text offset.x.text,
      .text offset.y.text, .text colour.name]
  | title text => .list [.text "title", .text text]
  | save path => .list [.text "save", .text path]
  | close => .list [.text "close"]

end DrawCall

namespace Plot

/-- The longest side of a grid that gets ticks and grid lines. -/
def tickedSide : Int := 40

/-- The ticks of an axis, from 0 to `last`. -/
def ticks (last : Int) : List Int :=
  (List.range (last + 1).toNat).map fun n : Nat => (n : Int)

/-- The calls for the frame of a grid. -/
def frame (g : Grid) : List DrawCall :=
  [.xLimit g.width, .yLimit g.height, .equalAspect]
    ++ if g.width ≤ tickedSide ∧ g.height ≤ tickedSide then
        [.xTicks (ticks g.width), .yTicks (ticks g.height), .gridLines]
      else []

/-- The calls for obstacles, one for each of them. -/
def obstacles {s : CellSet} (arrangement : s.Arrangement) : List DrawCall :=
  arrangement.cells.map .square

/-- The shade of the step with the number `index` on a path of `count` poses. -/
def shade (index count : Nat) : Nat :=
  256 * index / max (count - 1) 1

/-- The calls for the way along a path. A turn on the spot draws nothing. -/
def way (path : List Pose) : List DrawCall :=
  let count := path.length
  (path.zip path.tail).zipIdx.filterMap fun entry =>
    let here := entry.1.1.cell
    let there := entry.1.2.cell
    if here = there then none
    else some (.line (Point.centre here) (Point.centre there) (shade entry.2 count))

/-- The calls for the journey with the number `index`, counted from 0. -/
def journey (index : Nat) (path : List Pose) (outcome : Outcome) : List DrawCall :=
  match path with
  | [] => []
  | first :: _ =>
    let last := path.getLastD first
    let colour := outcome.verdict.colour
    way path
      ++ [.mark .disc (Point.centre first.cell) .gray,
        .label (Point.above first.cell) ("#" ++ toString (index + 1)),
        .arrow (Point.centre last.cell) (Point.arrow last.heading) colour]
      ++ if outcome.isSuccess then []
        else [.mark .cross (Point.centre outcome.pose.cell) colour]

/-- The tally with one more occurrence of the verdict. -/
def count (v : Verdict) : List (Verdict × Nat) → List (Verdict × Nat)
  | [] => [(v, 1)]
  | (w, n) :: rest => if v = w then (w, n + 1) :: rest else (w, n) :: count v rest

/-- How often each verdict occurs, in the order of first occurrence. -/
def tally (outcomes : List Outcome) : List (Verdict × Nat) :=
  outcomes.foldl (fun counts o => count o.verdict counts) []

/-- The tally in words. -/
def summary (outcomes : List Outcome) : String :=
  let parts := (tally outcomes).map fun entry => entry.1.name ++ ": " ++ toString entry.2
  if parts.isEmpty then "No journeys" else " | ".intercalate parts

/-- The title of the drawing, under the title that the caller gave, if any. -/
def heading (title : String) (a : Arena) (outcomes : List Outcome) : String :=
  (if title.isEmpty then "" else title ++ "\n") ++ "Grid " ++ a.grid.extent ++ " | Obstacles: "
    ++ toString a.obstacles.size ++ "\n" ++ summary outcomes

/-- All calls of a drawing. `trips` are the journeys with their trajectories and outcomes. The
drawing goes to the file `path`, and the obstacles are gone through as they are arranged. -/
def calls (a : Arena) (trips : List (List Pose × Outcome)) (title path : String)
    (arrangement : a.obstacles.Arrangement := a.obstacles.arranged) : List DrawCall :=
  [.clear] ++ frame a.grid ++ obstacles arrangement
    ++ (trips.zipIdx.flatMap fun entry => journey entry.2 entry.1.1 entry.1.2)
    ++ [.title (heading title a (trips.map Prod.snd)), .save path, .close]

end Plot

end GridWalk
