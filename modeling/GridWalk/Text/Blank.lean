import GridWalk.Text.Ranges

/-!
# `GridWalk.Text.Blank`: blank characters

The sections of a document may be separated by blanks of any kind. A blank is a control
character of the line and field separator group, a space of any width, or a line or
paragraph separator. The zero-width characters (U+200B, U+2060, U+FEFF) are no blanks.
-/

set_option autoImplicit false

namespace GridWalk.Text

/-- The blanks: U+0009 to U+000D, U+001C to U+0020, U+0085, U+00A0, U+1680, U+2000 to U+200A,
U+2028, U+2029, U+202F, U+205F and U+3000. -/
def blanks : List CodeRange :=
  [⟨0x09, 0x0D⟩, ⟨0x1C, 0x20⟩, ⟨0x85, 0x85⟩, ⟨0xA0, 0xA0⟩, ⟨0x1680, 0x1680⟩, ⟨0x2000, 0x200A⟩,
    ⟨0x2028, 0x2029⟩, ⟨0x202F, 0x202F⟩, ⟨0x205F, 0x205F⟩, ⟨0x3000, 0x3000⟩]

/-- The character is a blank. -/
def isBlank (c : Char) : Bool :=
  CodeRange.covers blanks c

/-- Both line-end characters are blanks, so blank lines separate sections. -/
theorem isBlank_lineEnds : isBlank '\n' = true ∧ isBlank '\r' = true := by
  decide

end GridWalk.Text
