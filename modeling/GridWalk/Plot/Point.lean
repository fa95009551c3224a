import GridWalk.Pose

/-!
# `GridWalk.Plot.Point`: points of a drawing

A cell fills a unit square, so its centre has halves as coordinates. All coordinates of a drawing
are whole hundredths, which keeps them exact.
-/

set_option autoImplicit false

namespace GridWalk

/-- A coordinate in hundredths of a cell. -/
structure Hundredths where
  count : Int
deriving DecidableEq

/-- The coordinate with two decimals. -/
def Hundredths.text (h : Hundredths) : String :=
  let part := h.count.natAbs % 100
  (if h.count < 0 then "-" else "") ++ toString (h.count.natAbs / 100) ++ "."
    ++ (if part < 10 then "0" else "") ++ toString part

/-- A point of a drawing, or an offset between two. -/
structure Point where
  x : Hundredths
  y : Hundredths
deriving DecidableEq

namespace Point

/-- The centre of a cell. -/
def centre (c : Cell) : Point :=
  ⟨⟨100 * c.x + 50⟩, ⟨100 * c.y + 50⟩⟩

/-- Where the label of a cell stands, above its centre. -/
def above (c : Cell) : Point :=
  ⟨⟨100 * c.x + 50⟩, ⟨100 * c.y + 80⟩⟩

/-- The offset of an arrow with the heading. -/
def arrow (h : Heading) : Point :=
  ⟨⟨35 * h.dx⟩, ⟨35 * h.dy⟩⟩

end Point

end GridWalk
