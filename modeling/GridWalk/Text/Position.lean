import GridWalk.Text.Offset

/-!
# `GridWalk.Text.Position`: line and column of an offset

Lines and columns count from 1. Only the line feed ends a line, so a carriage return is the
last character of its line. A negative offset has the line that it counts back to. Its column is
told by the negative number itself, so it stands left of every line.
-/

set_option autoImplicit false

namespace GridWalk.Text

/-- A place in a text for a reader: line and column, both from 1. -/
structure Position where
  line : Nat
  column : Int
deriving DecidableEq

/-- The offset at which the last line of `before` starts. -/
def lineStart (before : List Char) : Nat :=
  before.length - (before.reverse.takeWhile (· != '\n')).length

/-- The position of the offset `offset` in `text`. An offset past the end counts on in the
last line. -/
def position (text : List Char) (offset : Int) : Position :=
  let before := text.take (fromStart text.length offset)
  ⟨before.count '\n' + 1, offset - lineStart before + 1⟩

end GridWalk.Text
