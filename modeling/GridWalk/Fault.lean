import GridWalk.Text.Quoted

/-!
# `GridWalk.Fault`: values that do not exist

A value can be asked for by its written form: a heading by a letter, a command by a letter, a
kind of violation by its name. `Fault` lists why there is no such value, and `Fault.message`
gives the words. Faults never arise while a document is run. They come from callers that build
values by hand, and from command lines that name no file or no level.
-/

set_option autoImplicit false

namespace GridWalk

open GridWalk.Text (quoted)

/-- Why a value cannot be built or used. -/
inductive Fault
  /-- The text is the letter of no heading. -/
  | unknownHeading (text : String)
  /-- The text is the letter of no command. -/
  | unknownLetter (text : String)
  /-- A text stands where a command is needed. -/
  | notCommand (text : String)
  /-- The text names no kind of violation. -/
  | unknownKind (text : String)
  /-- A rejection without any violation. -/
  | noViolation
  /-- An outcome without a verdict, in its written form. -/
  | noVerdict (shown : String)
  /-- A document as written is no member of a set. -/
  | notComparable
  /-- A path holds the null character. -/
  | nullInPath
  /-- The option for the level of the log has no value. -/
  | noLevel
  /-- A character is asked for where no text is. -/
  | outsideText
  /-- A character is asked for at an offset that no text could have. -/
  | offsetTooLow
deriving DecidableEq

/-- The fault in words. -/
def Fault.message : Fault → String
  | unknownHeading text => "Unknown direction letter " ++ quoted text
  | unknownLetter text => "Unknown command letter " ++ quoted text
  | notCommand text => "Unknown command " ++ quoted text
  | unknownKind text => quoted text ++ " is not a valid ValidationErrorKind"
  | noViolation => "ValidationFailed needs at least one error"
  | noVerdict shown => "Unknown outcome " ++ shown
  | notComparable => "unhashable type: 'ParsedDocument'"
  | nullInPath => "embedded null byte"
  | noLevel => "Level not an integer or a valid string: []"
  | outsideText => "string index out of range"
  | offsetTooLow => "cannot fit 'int' into an index-sized integer"

end GridWalk
