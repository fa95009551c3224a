import GridWalk.Observer

/-!
# `GridWalk.Observer.Picture`: the surroundings of a robot in characters

A picture shows the cells of the grid around a robot, north at the top:

```text
  +---+---+---+
02|   | O |   |
  +---+---+---+
01|   | ^ |   |
  +---+---+---+
    00  01  02
```

The window reaches `range` cells in each direction and is cut off at the border of the grid.
Rows and columns carry their numbers, with at least two digits.
-/

set_option autoImplicit false

namespace GridWalk

/-- The arrow of a heading. -/
def Heading.arrow : Heading → Char
  | north => '^'
  | east => '>'
  | south => 'v'
  | west => '<'

/-- A rectangle of cells by its outermost columns and rows. -/
structure Window where
  left : Int
  right : Int
  bottom : Int
  top : Int

namespace Window

/-- The cells of the grid at most `range` away from `c` along both axes. -/
def around (g : Grid) (range : Int) (c : Cell) : Window :=
  ⟨max 0 (c.x - range), min (g.width - 1) (c.x + range),
    max 0 (c.y - range), min (g.height - 1) (c.y + range)⟩

/-- The integers from `first` to `last`, none when `last` is smaller. -/
def span (first last : Int) : List Int :=
  (List.range (last + 1 - first).toNat).map fun n : Nat => first + (n : Int)

/-- The columns, western ones first. -/
def columns (w : Window) : List Int :=
  span w.left w.right

/-- The rows, northern ones first. -/
def rows (w : Window) : List Int :=
  (span w.bottom w.top).reverse

/-- A span holds the integers between its ends. -/
theorem mem_span {first last i : Int} : i ∈ span first last ↔ first ≤ i ∧ i ≤ last := by
  simp only [span, List.mem_map, List.mem_range]
  constructor
  · rintro ⟨n, hn, rfl⟩
    omega
  · rintro ⟨hfirst, hlast⟩
    exact ⟨(i - first).toNat, by omega, by omega⟩

end Window

namespace Picture

/-- The default reach of the window. -/
def defaultRange : Int := 2

/-- The mark of an obstacle. -/
def obstacleMark : Char := 'O'

/-- A row or column number. One digit gets a zero in front. -/
def numbered (n : Int) : String :=
  if 0 ≤ n ∧ n < 10 then "0" ++ toString n else toString n

/-- What is drawn in a cell. The robot hides an obstacle. -/
def mark (a : Arena) (p : Pose) (c : Cell) : Char :=
  if p.cell = c then p.heading.arrow
  else if a.isBlocked c then obstacleMark
  else ' '

/-- The line above and below a row of `n` cells. -/
def border (n : Nat) : String :=
  "  " ++ String.join (List.replicate n "+---") ++ "+"

/-- The line of a row of cells. -/
def row (a : Arena) (p : Pose) (columns : List Int) (y : Int) : String :=
  numbered y ++ "|"
    ++ "|".intercalate (columns.map fun x => String.ofList [' ', mark a p ⟨x, y⟩, ' ']) ++ "|"

/-- The line of column numbers. -/
def axis (columns : List Int) : String :=
  "    " ++ String.join (columns.map fun x => numbered x ++ "  ")

/-- The lines of the picture of a robot at `p`. -/
def lines (a : Arena) (range : Int) (p : Pose) : List String :=
  let w := Window.around a.grid range p.cell
  let edge := border w.columns.length
  (w.rows.flatMap fun y => [edge, row a p w.columns y]) ++ [edge, axis w.columns]

/-- The picture as one text. -/
def render (a : Arena) (range : Int) (p : Pose) : String :=
  "\n".intercalate (lines a range p)

end Picture

end GridWalk
