import GridWalk.Document

/-!
# `GridWalk.Proofs.Membership`: cells in grids and in sets

The tests `Grid.contains` and `CellSet.contains` as memberships. A cell is in a grid when both
of its coordinates are between 0 and the side, and in a set when the set lists it.

* `Grid.isValid_of_mem`: a grid with a side below 1 has no cells.
* `Document.mem_obstacles_arena`: the arena of a document has the obstacles that it lists.
-/

set_option autoImplicit false

namespace GridWalk

namespace Grid

variable {g : Grid} {c : Cell}

/-- A cell is in a grid when both of its coordinates are between 0 and the side. -/
instance : Membership Cell Grid where
  mem g c := (0 ≤ c.x ∧ c.x < g.width) ∧ 0 ≤ c.y ∧ c.y < g.height

/-- The coordinates of the cells of a grid. -/
theorem mem_iff : c ∈ g ↔ (0 ≤ c.x ∧ c.x < g.width) ∧ 0 ≤ c.y ∧ c.y < g.height :=
  Iff.rfl

instance (c : Cell) (g : Grid) : Decidable (c ∈ g) :=
  decidable_of_iff _ mem_iff.symm

/-- The test of a grid is membership. -/
theorem contains_iff_mem : g.contains c = true ↔ c ∈ g :=
  contains_iff

/-- A cell that is not in the grid fails its test. -/
theorem contains_eq_false_iff : g.contains c = false ↔ c ∉ g := by
  rw [← contains_iff_mem, Bool.not_eq_true]

/-- A grid with a cell in it has both sides. -/
theorem isValid_of_mem (h : c ∈ g) : g.isValid = true := by
  rw [mem_iff] at h
  exact isValid_iff.mpr ⟨by omega, by omega⟩

end Grid

namespace CellSet

/-- A cell is in a set when the set lists it. -/
instance : Membership Cell CellSet where
  mem s c := c ∈ s.toList

/-- The test of a set is membership. -/
theorem contains_iff_mem {s : CellSet} {c : Cell} : s.contains c = true ↔ c ∈ s :=
  List.contains_iff_mem

instance (c : Cell) (s : CellSet) : Decidable (c ∈ s) :=
  decidable_of_iff _ contains_iff_mem

end CellSet

/-- The obstacles of an arena block its cells. -/
theorem Arena.isBlocked_iff {a : Arena} {c : Cell} : a.isBlocked c = true ↔ c ∈ a.obstacles :=
  CellSet.contains_iff_mem

/-- The obstacles of the arena are those that the document lists. -/
theorem Document.mem_obstacles_arena {d : Document} {c : Cell} :
    c ∈ d.arena.obstacles ↔ c ∈ d.obstacles :=
  CellSet.mem_toList_ofList

end GridWalk
