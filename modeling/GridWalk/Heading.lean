import GridWalk.Fault

/-!
# `GridWalk.Heading`: the four headings

A heading has a letter, a number and a step. The number counts eighths of a full turn clockwise
from north, so a quarter turn adds or takes away 2 modulo 8 (`value_turnRight`,
`value_turnLeft`).
-/

set_option autoImplicit false

namespace GridWalk

/-- The way a robot faces. -/
inductive Heading
  | north
  | east
  | south
  | west
deriving DecidableEq

namespace Heading

/-- Eighths of a full turn, clockwise from north. -/
def value : Heading → Nat
  | north => 0
  | east => 2
  | south => 4
  | west => 6

/-- The letter that stands for the heading in a document. -/
def letter : Heading → Char
  | north => 'N'
  | east => 'E'
  | south => 'S'
  | west => 'W'

/-- The heading with the letter. -/
def ofLetter? : Char → Option Heading
  | 'N' => some north
  | 'E' => some east
  | 'S' => some south
  | 'W' => some west
  | _ => none

/-- A quarter turn to the left. -/
def turnLeft : Heading → Heading
  | north => west
  | east => north
  | south => east
  | west => south

/-- A quarter turn to the right. -/
def turnRight : Heading → Heading
  | north => east
  | east => south
  | south => west
  | west => north

/-- One move in the heading changes `x` by this much. -/
def dx : Heading → Int
  | north => 0
  | east => 1
  | south => 0
  | west => -1

/-- One move in the heading changes `y` by this much. -/
def dy : Heading → Int
  | north => 1
  | east => 0
  | south => -1
  | west => 0

/-- The heading whose letter is the whole text. -/
def read (text : String) : Except Fault Heading :=
  match text.toList with
  | [c] =>
    match ofLetter? c with
    | some h => .ok h
    | none => .error (.unknownHeading text)
  | _ => .error (.unknownHeading text)

/-- Only its own letter gives a heading. -/
theorem ofLetter?_eq_some_iff {c : Char} {h : Heading} :
    ofLetter? c = some h ↔ c = h.letter := by
  constructor
  · intro hc
    unfold ofLetter? at hc
    split at hc <;> cases hc <;> rfl
  · rintro rfl
    cases h <;> rfl

/-- A right turn adds a quarter. -/
theorem value_turnRight (h : Heading) : h.turnRight.value = (h.value + 2) % 8 := by
  cases h <;> rfl

/-- A left turn takes a quarter away. -/
theorem value_turnLeft (h : Heading) : h.turnLeft.value = (h.value + 6) % 8 := by
  cases h <;> rfl

end Heading

end GridWalk
