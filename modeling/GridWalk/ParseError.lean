/-!
# `GridWalk.ParseError`: the first fault of a text

A text that is no document has a first fault: what was expected at some position, and what is
there instead. A detail says more where the expectation alone would mislead.
-/

set_option autoImplicit false

namespace GridWalk

/-- What was expected, what was found, and where. Lines and columns count from 1. -/
@[ext]
structure ParseError where
  expected : String
  found : String
  line : Int
  column : Int
  detail : Option String
deriving DecidableEq

namespace ParseError

/-- The error in words. An empty detail is not shown. -/
def message (e : ParseError) : String :=
  let base := "line " ++ toString e.line ++ ", column " ++ toString e.column ++ ": expected "
    ++ e.expected ++ ", found " ++ e.found
  match e.detail with
  | none => base
  | some d => if d.isEmpty then base else base ++ " (" ++ d ++ ")"

/-- The output line. Such a text has no other. -/
def outputLine (e : ParseError) : String :=
  "Parsing: " ++ e.message

end ParseError

end GridWalk
