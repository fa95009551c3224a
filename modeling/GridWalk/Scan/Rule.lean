import GridWalk.Command
import GridWalk.Heading
import GridWalk.Scan.Cursor
import GridWalk.Text.Blank
import GridWalk.Text.Numeral

/-!
# `GridWalk.Scan.Rule`: the primitives of the grammar

A rule reads from a cursor. It gives a value or a parse error, and in both cases the cursor
that it leaves behind. Nothing is given back once it is read: a rule that is optional looks
ahead first. Each primitive takes the words for what it expects, which go into its error.

Three kinds of blanks matter. Fields are separated by the space alone, line ends are a line
feed with or without a carriage return before it, and sections are separated by any blanks.
-/

set_option autoImplicit false

namespace GridWalk

open GridWalk.Text (isBlank numeralValue? quotedChars slice)

/-- A reader of texts. The cursor of a failure is the one that the failing step left. -/
abbrev Rule (α : Type) : Type :=
  EStateM ParseError Cursor α

namespace Rule

/-- Reads exactly `word`. -/
def literal (word : List Char) (expected : String) : Rule Unit := fun c =>
  if c.startsWith word then .ok () (c.advance word.length) else .error (c.error expected none) c

/-- Reads one or more spaces. -/
def spaces (expected : String) : Rule Unit := fun c =>
  let run := c.rest.takeWhile (· == ' ')
  if run.isEmpty then .error (c.error expected none) c else .ok () (c.advance run.length)

/-- Reads all blanks, of which there may be none. -/
def skipBlanks : Rule Unit := fun c =>
  .ok () (c.advance (c.rest.takeWhile isBlank).length)

/-- The digits of an oversized number that its error shows. -/
def shownDigits : Nat := 20

/-- The error that the run of digits at the cursor exceeds the largest number. -/
def oversized (c : Cursor) (expected : String) (run : List Char) : ParseError :=
  ⟨expected, String.ofList (quotedChars (run.take shownDigits)), c.place.line, c.place.column,
    some "Invalid decimal value"⟩

/-- The digits that count of a run at the cursor. Of a run that goes on from the end of the text
to its beginning, they are those between the two offsets. -/
def written (c : Cursor) (run : List Char) : List Char :=
  if 0 ≤ c.pos then run else slice c.text c.pos (c.pos + run.length)

/-- Reads a number, which is the longest run of digits. A number that is too large is reported
where it starts, and the cursor stays behind it. -/
def number (expected : String) : Rule Nat := fun c =>
  let run := c.rest.takeWhile Char.isDigit
  if run.isEmpty then .error (c.error expected none) c
  else
    match numeralValue? (written c run) with
    | some n => .ok n (c.advance run.length)
    | none => .error (oversized c expected (written c run)) (c.advance run.length)

/-- Reads a line end, if there is one, and says whether there was. -/
def optionalEndOfLine : Rule Bool := fun c =>
  if c.startsWith ['\r', '\n'] then .ok true (c.advance 2)
  else if c.startsWith ['\n'] then .ok true (c.advance 1)
  else .ok false c

/-- Reads a line end. A carriage return alone is none. -/
def endOfLine (expected : String) : Rule Unit := fun c =>
  match optionalEndOfLine c with
  | .ok true d => .ok () d
  | .ok false d => .error (d.error expected none) d
  | .error e d => .error e d

/-- Reads the letter of a heading. -/
def heading (expected : String) : Rule Heading := fun c =>
  match c.peek.bind Heading.ofLetter? with
  | some h => .ok h (c.advance 1)
  | none => .error (c.error expected none) c

/-- Reads one or more command letters. -/
def commands (expected : String) : Rule (List Command) := fun c =>
  let run := Command.readAll c.rest
  if run.isEmpty then .error (c.error expected none) c else .ok run (c.advance run.length)

/-- Reads nothing and requires that a number starts here. -/
def aheadDigit (expected : String) : Rule Unit := fun c =>
  if c.atDigit then .ok () c else .error (c.error expected none) c

/-- Applies a rule. A failure outside of the text has nothing to report: it is a fault. -/
def attempt {α : Type} (r : Rule α) (c : Cursor) :
    Except Fault (EStateM.Result ParseError Cursor α) :=
  match r c with
  | .ok a d => .ok (.ok a d)
  | .error e d => d.look fun _ => .error e d

end Rule

end GridWalk
