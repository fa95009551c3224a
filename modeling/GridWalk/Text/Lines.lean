import GridWalk.Text.Ranges

/-!
# `GridWalk.Text.Lines`: the lines of an output

A reader of an output takes many characters for the end of a line: the line feed, the carriage
return, the vertical tab, the form feed, three of the four separators, and the line ends that
other alphabets have. A carriage return with a line feed after it ends one line, not two.
-/

set_option autoImplicit false

namespace GridWalk.Text

/-- The line breaks: U+000A to U+000D, U+001C to U+001E, U+0085, U+2028 and U+2029. -/
def lineBreaks : List CodeRange :=
  [⟨0x0A, 0x0D⟩, ⟨0x1C, 0x1E⟩, ⟨0x85, 0x85⟩, ⟨0x2028, 0x2029⟩]

/-- The character breaks a line. -/
def isLineBreak (c : Char) : Bool :=
  CodeRange.covers lineBreaks c

/-- The lines of a text whose first line has begun with `line`, which is held in reverse. -/
def linesAfter (line : List Char) : List Char → List (List Char)
  | [] => if line.isEmpty then [] else [line.reverse]
  | '\r' :: '\n' :: rest => line.reverse :: linesAfter [] rest
  | c :: rest =>
    if isLineBreak c then line.reverse :: linesAfter [] rest else linesAfter (c :: line) rest

/-- The lines of a text, without the breaks between them. After the last break there is a line
only if the text goes on. -/
def lines (text : String) : List String :=
  (linesAfter [] text.toList).map String.ofList

/-- Both line-end characters break lines. -/
theorem isLineBreak_lineEnds : isLineBreak '\n' = true ∧ isLineBreak '\r' = true := by
  decide

end GridWalk.Text
