import GridWalk.Arena.Drive
import GridWalk.Document.Check
import GridWalk.Document.Reader

/-!
# `GridWalk.Run`: from a text to its output lines

A run reads a text, checks the document and drives its journeys. It ends in one of three
shapes: the text is no document, the document disagrees with its grid, or every journey has an
outcome. Each shape has its output lines, and `Run.lines` is all that most callers want.
-/

set_option autoImplicit false

namespace GridWalk

/-- What a run on a text gives. -/
inductive Run
  /-- The text is no document. -/
  | unreadable (fault : ParseError)
  /-- The document disagrees with its grid. -/
  | rejected (rejection : Rejection)
  /-- All journeys were driven. -/
  | completed (arena : Arena) (outcomes : List Outcome)

namespace Run

/-- The output lines. -/
def lines : Run → List String
  | unreadable e => [e.outputLine]
  | rejected r => r.lines
  | completed _ outcomes => outcomes.map Outcome.line

/-- The journeys were driven. -/
def isCompleted : Run → Bool
  | completed _ _ => true
  | _ => false

/-- The outcomes, of which there are none when no journey was driven. -/
def outcomes : Run → List Outcome
  | completed _ outcomes => outcomes
  | _ => []

/-- The arena, if journeys were driven in one. -/
def arena? : Run → Option Arena
  | completed a _ => some a
  | _ => none

/-- The record of a text that was read. -/
def readRecord (d : Document) : Record :=
  ⟨.debug, "robot_journeys.parsing.document",
    "Parsed document: grid " ++ d.grid.extent ++ ", " ++ toString d.obstacles.length
      ++ " obstacles, " ++ toString d.journeys.length ++ " journeys"⟩

/-- The record of a text that is no document. -/
def unreadableRecord (e : ParseError) : Record :=
  ⟨.info, "robot_journeys.pipeline", "Parsing failed: " ++ e.message⟩

/-- The record of a document that was refused. -/
def rejectedRecord (r : Rejection) : Record :=
  ⟨.info, "robot_journeys.validation.validator",
    "Document rejected with " ++ toString r.notices.length ++ " validation error(s)"⟩

/-- The record of a document that passed. It tells how many of its obstacles are different. -/
def acceptedRecord (d : Document) (a : Arena) : Record :=
  ⟨.debug, "robot_journeys.validation.validator",
    "Validated document: " ++ toString a.obstacles.size ++ " distinct obstacles out of "
      ++ toString d.obstacles.length ++ " listed"⟩

variable {m : Type → Type} [Monad m]

/-- Runs a text and reports to the hooks. Events come only from documents that pass. -/
def ofText (hooks : Hooks m) (text : String) : m Run :=
  match Document.read text with
  | .error e => do
    hooks.log (unreadableRecord e)
    return unreadable e
  | .ok d => do
    hooks.log (readRecord d)
    match d.check with
    | .error r =>
      hooks.log (rejectedRecord r)
      return rejected r
    | .ok a =>
      hooks.log (acceptedRecord d a)
      return completed a (← a.simulate hooks)

end Run

/-- The run of a text when nobody watches. -/
def run (text : String) : Run :=
  Id.run (Run.ofText Hooks.silent text)

/-- The output lines of a text. -/
def execute (text : String) : List String :=
  (run text).lines

end GridWalk
