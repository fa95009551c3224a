import GridWalk.Document
import GridWalk.Scan.Progress

/-!
# `GridWalk.Document.Reader`: documents from text

A document is a grid line, then obstacle lines, then journeys of three lines each:

```text
GRID <width>x<height>
OBSTACLE <x> <y>
<x> <y> <heading>
<commands>
<x> <y> <heading>
```

Blanks of any kind may follow each part, and none need to. A number is the longest run of
digits, so a digit always decides where a part goes on. `Document.read` reads a whole text and
stops at its first fault.
-/

set_option autoImplicit false

namespace GridWalk

namespace Rule

/-- The word at the start of the grid line. -/
def gridWord : List Char := ['G', 'R', 'I', 'D']

/-- The word at the start of an obstacle line. -/
def obstacleWord : List Char := ['O', 'B', 'S', 'T', 'A', 'C', 'L', 'E']

/-- Reads the grid line. -/
def gridLine : Rule Grid := do
  literal gridWord "GRID keyword"
  spaces "at least one space after GRID keyword"
  let width ← number "grid width"
  literal ['x'] "'x' between grid width and height"
  let height ← number "grid height"
  let _ ← optionalEndOfLine
  return ⟨width, height⟩

/-- Reads an obstacle line. -/
def obstacleLine : Rule Cell := do
  literal obstacleWord "OBSTACLE keyword"
  spaces "at least one space after OBSTACLE keyword"
  let x ← number "obstacle X coordinate"
  spaces "at least one space after obstacle X coordinate"
  let y ← number "obstacle Y coordinate"
  let _ ← optionalEndOfLine
  return ⟨x, y⟩

/-- Reads a pose. `which` says in errors which pose of the journey it is. -/
def pose (which : String) : Rule Pose := do
  let x ← number (which ++ " robot X coordinate")
  spaces ("at least one space after " ++ which ++ " robot X coordinate")
  let y ← number (which ++ " robot Y coordinate")
  spaces ("at least one space after " ++ which ++ " robot Y coordinate")
  let h ← heading (which ++ " robot direction, one of [N, E, S, W]")
  return ⟨⟨x, y⟩, h⟩

/-- Reads the three lines of a journey. -/
def journey : Rule Journey := do
  let start ← pose "initial"
  endOfLine "newline after initial state"
  let ks ← commands "robot commands, one or more of [L, R, F]"
  endOfLine "newline after commands"
  let goal ← pose "final"
  let _ ← optionalEndOfLine
  return ⟨start, ks, goal⟩

/-- An obstacle line uses up its word at least. -/
theorem eager_obstacleLine : obstacleLine.Eager :=
  (eager_literal (by decide) _).bind fun _ =>
    (eager_spaces _).steady.bind fun _ =>
      (eager_number _).steady.bind fun _ =>
        (eager_spaces _).steady.bind fun _ =>
          (eager_number _).steady.bind fun _ =>
            steady_optionalEndOfLine.bind fun _ => steady_pure _

/-- A pose uses up its column number at least. -/
theorem eager_pose (which : String) : (pose which).Eager :=
  (eager_number _).bind fun _ =>
    (eager_spaces _).steady.bind fun _ =>
      (eager_number _).steady.bind fun _ =>
        (eager_spaces _).steady.bind fun _ =>
          (eager_heading _).steady.bind fun _ => steady_pure _

/-- A journey uses up its start at least. -/
theorem eager_journey : journey.Eager :=
  (eager_pose _).bind fun _ =>
    (steady_endOfLine _).bind fun _ =>
      (eager_commands _).steady.bind fun _ =>
        (steady_endOfLine _).bind fun _ =>
          (eager_pose _).steady.bind fun _ =>
            steady_optionalEndOfLine.bind fun _ => steady_pure _

/-- An obstacle line and the blanks after it. -/
def obstacleEntry : Rule Cell := do
  let cell ← obstacleLine
  skipBlanks
  return cell

/-- A journey and the blanks after it. `expected` says what may stand here. -/
def journeyEntry (expected : String) : Rule Journey := do
  aheadDigit expected
  let j ← journey
  skipBlanks
  return j

/-- The obstacle section gets shorter with each entry. -/
theorem eager_obstacleEntry : obstacleEntry.Eager :=
  eager_obstacleLine.bind fun _ => steady_skipBlanks.bind fun _ => steady_pure _

/-- The journey section gets shorter with each entry. -/
theorem eager_journeyEntry (expected : String) : (journeyEntry expected).Eager :=
  (steady_aheadDigit expected).bind_eager fun _ =>
    eager_journey.bind fun _ => steady_skipBlanks.bind fun _ => steady_pure _

/-- Reads obstacle lines as long as the text goes on with the obstacle word. -/
def obstacleSection : Rule (List Cell) :=
  many (fun c => c.startsWith obstacleWord) obstacleEntry eager_obstacleEntry

/-- Reads journeys up to the end of the text. -/
def furtherJourneys : Rule (List Journey) :=
  many (fun c => !c.atEnd) (journeyEntry "robot journey or end of input") (eager_journeyEntry _)

/-- Reads the journeys of a document. Only before the first one could an obstacle line still
stand, and the error there says so. -/
def journeySection : Rule (List Journey) := do
  if (← get).atEnd then return []
  let first ← journeyEntry "OBSTACLE line, robot journey or end of input"
  let others ← furtherJourneys
  return first :: others

/-- Reads a whole document. -/
def document : Rule Document := do
  let grid ← gridLine
  skipBlanks
  let obstacles ← obstacleSection
  let journeys ← journeySection
  return ⟨grid, obstacles, journeys⟩

end Rule

/-- The document that the text is, or its first fault. -/
def Document.read (text : String) : Except ParseError Document :=
  match Rule.document (Cursor.start text.toList) with
  | .ok d _ => .ok d
  | .error e _ => .error e

end GridWalk
