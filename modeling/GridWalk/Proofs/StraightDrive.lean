import GridWalk.Proofs.IdealPath
import Mathlib.Data.Nat.Find

/-!
# `GridWalk.Proofs.StraightDrive`: straight drives

A robot that is told to move and nothing else drives along a ray. Where the drive ends can be said
without driving: count the cells ahead that are on the grid and free, up to the first that is not.
The count is at most the way to the edge of the grid, and it is that way if no obstacle stands in
it.

* `Pose.aheadBy`: the poses of the ray.
* `Grid.aheadBy_mem_iff`: the ray leaves the grid once and for all.
* `Arena.failsAt_replicate_iff`: the first failing move is the one behind the free cells.
* `straight_drive_ends_on_ray`: the end of a straight drive.
-/

set_option autoImplicit false

namespace GridWalk

/-- The pose `n` cells ahead. -/
def Pose.aheadBy (p : Pose) (n : Nat) : Pose :=
  ⟨⟨p.cell.x + n * p.heading.dx, p.cell.y + n * p.heading.dy⟩, p.heading⟩

/-- The number of cells between the cell and the edge that the robot faces. -/
def Grid.room (g : Grid) (p : Pose) : Int :=
  match p.heading with
  | .north => g.height - 1 - p.cell.y
  | .east => g.width - 1 - p.cell.x
  | .south => p.cell.y
  | .west => p.cell.x

/-- The cell lies in the outermost rows or columns of the grid. -/
def Grid.IsBorder (g : Grid) (c : Cell) : Prop :=
  c.x = 0 ∨ c.x = g.width - 1 ∨ c.y = 0 ∨ c.y = g.height - 1

instance (g : Grid) (c : Cell) : Decidable (g.IsBorder c) :=
  inferInstanceAs (Decidable (_ ∨ _))

/-- Exactly `m` consecutive cells directly ahead of the robot are on the grid and free. -/
structure Arena.ClearFor (a : Arena) (p : Pose) (m : Nat) : Prop where
  free : ∀ i, 1 ≤ i → i ≤ m → (p.aheadBy i).cell ∈ a.grid ∧ (p.aheadBy i).cell ∉ a.obstacles
  ends : ¬((p.aheadBy (m + 1)).cell ∈ a.grid ∧ (p.aheadBy (m + 1)).cell ∉ a.obstacles)

namespace Pose

/-- Zero cells ahead is where the robot is. -/
@[simp]
theorem aheadBy_zero (p : Pose) : p.aheadBy 0 = p := by
  simp [aheadBy]

/-- One cell further along the ray. -/
theorem ahead_aheadBy (p : Pose) (n : Nat) : (p.aheadBy n).ahead = p.aheadBy (n + 1) := by
  simp only [aheadBy, ahead, Int.natCast_add, Int.natCast_one, Int.add_mul, Int.one_mul,
    Int.add_assoc]

/-- Moves and nothing else lead along the ray. -/
theorem obeyAll_replicate (p : Pose) (n : Nat) :
    p.obeyAll (List.replicate n .forward) = p.aheadBy n := by
  induction n with
  | zero => simp
  | succ n ih =>
    -- The last move goes on where the others lead.
    have hlast : (List.replicate (n + 1) Command.forward)[n]? = some .forward := by simp
    have hstep := obeyAll_take_succ (p := p) hlast
    rw [List.take_replicate, List.take_replicate, Nat.min_self, Nat.min_eq_left (Nat.le_succ n),
      ih] at hstep
    rw [hstep]
    exact p.ahead_aheadBy n

end Pose

/-! ### The ray and the grid -/

namespace Grid

variable {g : Grid} {p : Pose}

/-- The ray is on the grid up to the edge and not behind it. -/
theorem aheadBy_mem_iff (hp : p.cell ∈ g) (n : Nat) :
    (p.aheadBy n).cell ∈ g ↔ (n : Int) ≤ g.room p := by
  obtain ⟨⟨x, y⟩, heading⟩ := p
  rw [mem_iff] at hp ⊢
  cases heading <;> simp [Pose.aheadBy, Heading.dx, Heading.dy, room] at hp ⊢ <;> omega

/-- The edge is nearer than the longer side. -/
theorem room_bounds (hp : p.cell ∈ g) : 0 ≤ g.room p ∧ g.room p < max g.width g.height := by
  rw [mem_iff] at hp
  unfold room
  split <;> omega

/-- The last cell of the ray on the grid lies on the border. -/
theorem isBorder_aheadBy {n : Nat} (hn : (n : Int) = g.room p) :
    g.IsBorder (p.aheadBy n).cell := by
  obtain ⟨⟨x, y⟩, heading⟩ := p
  cases heading <;> simp [Pose.aheadBy, Heading.dx, Heading.dy, room, IsBorder] at hn ⊢ <;> omega

end Grid

/-! ### The first cell that is not clear -/

namespace Arena

variable {a : Arena} {p : Pose} {m n k : Nat}

/-- The first pose that is not clear is one that the arena refuses, and no pose before it is. -/
theorem clearFor_iff : a.ClearFor p m ↔
    a.Refuses (p.aheadBy (m + 1)).cell ∧ ∀ i < m, ¬a.Refuses (p.aheadBy (i + 1)).cell := by
  simp only [not_refuses_iff]
  constructor
  · intro h
    refine ⟨?_, fun i hi => h.free (i + 1) (by omega) (by omega)⟩
    exact Classical.byContradiction fun hclear => h.ends (not_refuses_iff.mp hclear)
  · intro h
    obtain ⟨hrefuses, hfree⟩ := h
    refine ⟨fun i hone hi => ?_, fun hclear => not_refuses_iff.mpr hclear hrefuses⟩
    obtain ⟨i, rfl⟩ := Nat.exists_eq_add_of_le' hone
    exact hfree i (by omega)

/-- There is one count of clear cells at most. -/
theorem ClearFor.unique (hm : a.ClearFor p m) (hn : a.ClearFor p n) : m = n := by
  rcases Nat.lt_trichotomy m n with hlt | heq | hlt
  · exact absurd (hn.free (m + 1) (by omega) hlt) hm.ends
  · exact heq
  · exact absurd (hm.free (n + 1) (by omega) hlt) hn.ends

/-- The clear cells end at the edge at the latest. -/
theorem ClearFor.le_room (h : a.ClearFor p m) (hp : p.cell ∈ a.grid) :
    (m : Int) ≤ a.grid.room p := by
  cases m with
  | zero => exact (Grid.room_bounds hp).1
  | succ m => exact (Grid.aheadBy_mem_iff hp (m + 1)).mp (h.free (m + 1) (by omega) le_rfl).1

/-- The clear cells ahead can be counted. -/
theorem exists_clearFor (hp : p.cell ∈ a.grid) : ∃ m, a.ClearFor p m := by
  classical
  -- Behind the edge the arena refuses everything, so there is a first cell that it refuses.
  have hrefused : ∃ i, a.Refuses (p.aheadBy (i + 1)).cell := by
    refine ⟨(a.grid.room p).toNat, .inl fun hmem => ?_⟩
    have hle := (Grid.aheadBy_mem_iff hp _).mp hmem
    omega
  exact ⟨Nat.find hrefused,
    clearFor_iff.mpr ⟨Nat.find_spec hrefused, fun i hi => Nat.find_min hrefused hi⟩⟩

/-- Without an obstacle ahead, all cells up to the edge are clear. -/
theorem ClearFor.eq_room (h : a.ClearFor p m) (hp : p.cell ∈ a.grid)
    (hclear : ∀ i, 1 ≤ i → (p.aheadBy i).cell ∈ a.grid → (p.aheadBy i).cell ∉ a.obstacles) :
    (m : Int) = a.grid.room p := by
  have hle := h.le_room hp
  by_contra hne
  have hmem : (p.aheadBy (m + 1)).cell ∈ a.grid :=
    (Grid.aheadBy_mem_iff hp (m + 1)).mpr (by omega)
  exact h.ends ⟨hmem, hclear (m + 1) (by omega) hmem⟩

/-- With all border cells blocked, the cell behind the clear ones is on the grid. -/
theorem ClearFor.mem_of_border (h : a.ClearFor p m) (hp : p.cell ∈ a.grid)
    (hfree : p.cell ∉ a.obstacles) (hborder : ∀ c ∈ a.grid, a.grid.IsBorder c → c ∈ a.obstacles) :
    (p.aheadBy (m + 1)).cell ∈ a.grid := by
  rw [Grid.aheadBy_mem_iff hp]
  have hle := h.le_room hp
  -- If the clear cells went up to the edge, the last of them would be a border cell.
  by_contra hlt
  have hroom : (m : Int) = a.grid.room p := by omega
  have hmem : (p.aheadBy m).cell ∈ a.grid := (Grid.aheadBy_mem_iff hp m).mpr hle
  have hblocked := hborder _ hmem (Grid.isBorder_aheadBy hroom)
  cases m with
  | zero =>
    rw [Pose.aheadBy_zero] at hblocked
    exact hfree hblocked
  | succ m => exact (h.free (m + 1) (by omega) le_rfl).2 hblocked

/-! ### The drive -/

/-- A straight drive fails where it enters a cell that the arena refuses. -/
theorem failsAt_replicate_iff {i : Nat} :
    a.FailsAt p (List.replicate k .forward) i ↔
      i < k ∧ a.Refuses (p.aheadBy (i + 1)).cell := by
  unfold FailsAt
  rw [List.getElem?_replicate, List.take_replicate, Pose.obeyAll_replicate]
  constructor
  · intro h
    have hi : i < k := by
      by_contra hi
      rw [if_neg hi] at h
      cases h.1
    rw [Nat.min_eq_left hi] at h
    exact ⟨hi, h.2⟩
  · intro h
    rw [if_pos h.1, Nat.min_eq_left h.1]
    exact ⟨rfl, h.2⟩

/-- A drive over clear cells arrives. -/
theorem ClearFor.outcome_of_le (h : a.ClearFor p m) (hfree : p.cell ∉ a.obstacles) (hk : k ≤ m)
    (goal : Pose) :
    a.outcome ⟨p, List.replicate k .forward, goal⟩ = arrive goal (p.aheadBy k) := by
  have hnone : ∀ i, ¬a.FailsAt p (List.replicate k .forward) i := by
    intro i hi
    obtain ⟨hik, hrefuses⟩ := failsAt_replicate_iff.mp hi
    exact (clearFor_iff.mp h).2 i (by omega) hrefuses
  have houtcome := outcome_of_free (a := a) (j := ⟨p, List.replicate k .forward, goal⟩) hfree
  rw [houtcome]
  show a.outcomeFrom goal p (List.replicate k .forward) = _
  rw [outcomeFrom_of_not_failsAt hnone, Pose.obeyAll_replicate]

/-- A longer drive fails behind the clear cells. -/
theorem ClearFor.outcome_of_lt (h : a.ClearFor p m) (hfree : p.cell ∉ a.obstacles) (hk : m < k)
    (goal : Pose) :
    a.outcome ⟨p, List.replicate k .forward, goal⟩ = a.failure (p.aheadBy (m + 1)) := by
  obtain ⟨hrefuses, hclear⟩ := clearFor_iff.mp h
  have hfirst : a.FailsFirstAt p (List.replicate k .forward) m := by
    refine ⟨failsAt_replicate_iff.mpr ⟨hk, hrefuses⟩, fun i hi hfails => ?_⟩
    exact hclear i hi (failsAt_replicate_iff.mp hfails).2
  have houtcome := outcome_of_free (a := a) (j := ⟨p, List.replicate k .forward, goal⟩) hfree
  rw [houtcome]
  show a.outcomeFrom goal p (List.replicate k .forward) = _
  rw [outcomeFrom_of_failsFirstAt hfirst, List.take_replicate, Nat.min_eq_left hk,
    Pose.obeyAll_replicate]

end Arena

/-- A straight drive ends where the ray says.

Let a robot start on a free cell of the grid of an arena, for instance of a document that passed.
There is exactly one number `m` of consecutive cells directly ahead that are on the grid and free.
A drive of `k` moves with `k ≤ m` ends `k` cells ahead with the same heading. It is a success if that
is the goal, and an unexpected end otherwise. A longer drive ends at the cell `m + 1` ahead, with a
crash if that cell is on the grid and with an exit if it is not.

If no obstacle stands on the ray, `m` is the number of cells up to the edge, and every drive that
is at least as long as the longer side leaves the grid. If obstacles stand on all cells of the
border, every such drive crashes. A robot on a free cell is then strictly inside. -/
theorem straight_drive_ends_on_ray {a : Arena} {p : Pose} (hp : p.cell ∈ a.grid)
    (hfree : p.cell ∉ a.obstacles) :
    ∃ m : Nat, (∀ n, a.ClearFor p n ↔ n = m) ∧
      (∀ (goal : Pose) (k : Nat),
        (k ≤ m → a.outcome ⟨p, List.replicate k .forward, goal⟩ =
          if p.aheadBy k = goal then ⟨.success, p.aheadBy k⟩
          else ⟨.unexpectedEnd, p.aheadBy k⟩) ∧
        (m < k → a.outcome ⟨p, List.replicate k .forward, goal⟩ =
          if (p.aheadBy (m + 1)).cell ∈ a.grid then ⟨.crashed, p.aheadBy (m + 1)⟩
          else ⟨.outOfBounds, p.aheadBy (m + 1)⟩)) ∧
      ((∀ i, 1 ≤ i → (p.aheadBy i).cell ∈ a.grid → (p.aheadBy i).cell ∉ a.obstacles) →
        (m : Int) = (match p.heading with
          | .north => a.grid.height - 1 - p.cell.y
          | .east => a.grid.width - 1 - p.cell.x
          | .south => p.cell.y
          | .west => p.cell.x) ∧
        ∀ (goal : Pose) (k : Nat), max a.grid.width a.grid.height ≤ k →
          (a.outcome ⟨p, List.replicate k .forward, goal⟩).verdict = .outOfBounds) ∧
      ((∀ c ∈ a.grid, a.grid.IsBorder c → c ∈ a.obstacles) →
        ∀ (goal : Pose) (k : Nat), max a.grid.width a.grid.height ≤ k →
          (a.outcome ⟨p, List.replicate k .forward, goal⟩).verdict = .crashed) := by
  obtain ⟨m, hm⟩ := Arena.exists_clearFor hp
  have hle := hm.le_room hp
  have hroom := (Grid.room_bounds hp).2
  have hlong : ∀ k : Nat, max a.grid.width a.grid.height ≤ k → m < k := by
    intro k hk
    omega
  refine ⟨m, fun n => ⟨fun hn => hn.unique hm, fun hn => hn ▸ hm⟩, fun goal k => ⟨?_, ?_⟩,
    fun hclear => ⟨hm.eq_room hp hclear, fun goal k hk => ?_⟩, fun hborder goal k hk => ?_⟩
  · intro hk
    exact hm.outcome_of_le hfree hk goal
  · intro hk
    exact hm.outcome_of_lt hfree hk goal
  · -- The ray is clear up to the edge, so the next cell is off the grid.
    have hout : (p.aheadBy (m + 1)).cell ∉ a.grid := by
      have heq := hm.eq_room hp hclear
      rw [Grid.aheadBy_mem_iff hp]
      omega
    rw [hm.outcome_of_lt hfree (hlong k hk), Arena.failure, if_neg hout]
  · rw [hm.outcome_of_lt hfree (hlong k hk), Arena.failure,
      if_pos (hm.mem_of_border hp hfree hborder)]

/-- A room of two free cells with walls around it. The robot drives one cell to the east and crashes
into the wall, however much longer it wants to drive. -/
theorem straight_drive_ends_on_ray_walled :
    (⟨1, 1⟩ : Cell) ∈ (⟨4, 3⟩ : Grid) ∧
      (⟨1, 1⟩ : Cell) ∉ CellSet.ofList [⟨0, 0⟩, ⟨1, 0⟩, ⟨2, 0⟩, ⟨3, 0⟩, ⟨0, 1⟩, ⟨3, 1⟩, ⟨0, 2⟩, ⟨1, 2⟩,
        ⟨2, 2⟩, ⟨3, 2⟩] ∧
      ∀ (goal : Pose) (k : Nat), 4 ≤ k →
        (Arena.outcome ⟨⟨4, 3⟩, CellSet.ofList [⟨0, 0⟩, ⟨1, 0⟩, ⟨2, 0⟩, ⟨3, 0⟩, ⟨0, 1⟩, ⟨3, 1⟩, ⟨0, 2⟩,
          ⟨1, 2⟩, ⟨2, 2⟩, ⟨3, 2⟩], []⟩ ⟨⟨⟨1, 1⟩, .east⟩, List.replicate k .forward, goal⟩)
          = ⟨.crashed, ⟨⟨3, 1⟩, .east⟩⟩ := by
  have hp : (⟨1, 1⟩ : Cell) ∈ (⟨4, 3⟩ : Grid) := by decide
  have hfree : (⟨1, 1⟩ : Cell) ∉ CellSet.ofList [⟨0, 0⟩, ⟨1, 0⟩, ⟨2, 0⟩, ⟨3, 0⟩, ⟨0, 1⟩, ⟨3, 1⟩,
      ⟨0, 2⟩, ⟨1, 2⟩, ⟨2, 2⟩, ⟨3, 2⟩] := by
    decide
  refine ⟨hp, hfree, fun goal k hk => ?_⟩
  obtain ⟨m, hm, hdrive, -, -⟩ := straight_drive_ends_on_ray
    (a := ⟨⟨4, 3⟩, CellSet.ofList [⟨0, 0⟩, ⟨1, 0⟩, ⟨2, 0⟩, ⟨3, 0⟩, ⟨0, 1⟩, ⟨3, 1⟩, ⟨0, 2⟩, ⟨1, 2⟩,
      ⟨2, 2⟩, ⟨3, 2⟩], []⟩) (p := ⟨⟨1, 1⟩, .east⟩) hp hfree
  -- The one clear cell is (2, 1).
  have hone : 1 = m := by
    refine (hm 1).mp ⟨fun i hlow hhigh => ?_, by decide⟩
    obtain rfl : i = 1 := by omega
    exact ⟨by decide, by decide⟩
  subst hone
  rw [(hdrive goal k).2 (by omega)]
  decide

end GridWalk
