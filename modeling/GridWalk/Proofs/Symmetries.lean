import GridWalk.Proofs.WayBack

/-!
# `GridWalk.Proofs.Symmetries`: turned and mirrored worlds

A `Symmetry` carries a grid onto another grid, and with it cells, headings and commands. It keeps
the cells of the grid apart from those off it, different poses apart from each other, and moves
apart from turns. Its one equation, `obey`, says that a carried command does to a carried pose what
the command did to the pose. No obstacle and no failure is in it, and nothing else is needed:

* `Symmetry.step_eq`: a step in the carried arena is the carried step.
* `Symmetry.outcomeFrom_eq`: so is a walk.
* `Symmetry.rotation` and `Symmetry.reflection`: a quarter turn clockwise, and east for west. Where
  the cells go, `Grid.turned` and `Grid.mirrored` say.
* `outcomes_carried_along`: both, for a simulation of any document.

A quarter turn exchanges the sides of the grid and keeps all commands. A reflection keeps the grid
and exchanges left and right (`Command.mirror`), as the way back does.
-/

set_option autoImplicit false

namespace GridWalk

namespace Heading

/-- The heading with east and west exchanged. -/
def mirror : Heading → Heading
  | north => north
  | east => west
  | south => south
  | west => east

theorem dx_turnRight (h : Heading) : h.turnRight.dx = h.dy := by
  cases h <;> rfl

theorem dy_turnRight (h : Heading) : h.turnRight.dy = -h.dx := by
  cases h <;> rfl

theorem dx_mirror (h : Heading) : h.mirror.dx = -h.dx := by
  cases h <;> rfl

theorem dy_mirror (h : Heading) : h.mirror.dy = h.dy := by
  cases h <;> rfl

theorem turnLeft_mirror (h : Heading) : h.mirror.turnLeft = h.turnRight.mirror := by
  cases h <;> rfl

theorem turnRight_mirror (h : Heading) : h.mirror.turnRight = h.turnLeft.mirror := by
  cases h <;> rfl

theorem turnRight_inj (h i : Heading) (heq : h.turnRight = i.turnRight) : h = i := by
  rw [← turnLeft_turnRight h, heq, turnLeft_turnRight]

/-- Mirrored twice, a heading is as it was. -/
theorem mirror_mirror (h : Heading) : h.mirror.mirror = h := by
  cases h <;> rfl

theorem mirror_inj (h i : Heading) (heq : h.mirror = i.mirror) : h = i := by
  rw [← mirror_mirror h, heq, mirror_mirror]

end Heading

/-- Only a move stays a move. -/
theorem Command.mirror_eq_forward_iff (k : Command) : k.mirror = .forward ↔ k = .forward := by
  cases k <;> simp [mirror]

namespace Grid

variable (g : Grid)

/-- Where a quarter turn clockwise puts the cell. The western column becomes the northern row. -/
def turned (c : Cell) : Cell :=
  ⟨c.y, g.width - 1 - c.x⟩

/-- Where the cell goes when the western and the eastern side are exchanged. -/
def mirrored (c : Cell) : Cell :=
  ⟨g.width - 1 - c.x, c.y⟩

/-- A quarter turn exchanges the sides. -/
theorem turned_mem_iff (c : Cell) : g.turned c ∈ (⟨g.height, g.width⟩ : Grid) ↔ c ∈ g := by
  simp only [mem_iff, turned]
  omega

theorem mirrored_mem_iff (c : Cell) : g.mirrored c ∈ g ↔ c ∈ g := by
  simp only [mem_iff, mirrored]
  omega

theorem turned_inj (c e : Cell) (h : g.turned c = g.turned e) : c = e := by
  obtain ⟨x, y⟩ := c
  obtain ⟨x', y'⟩ := e
  simp only [turned, Cell.mk.injEq] at h ⊢
  omega

theorem mirrored_inj (c e : Cell) (h : g.mirrored c = g.mirrored e) : c = e := by
  obtain ⟨x, y⟩ := c
  obtain ⟨x', y'⟩ := e
  simp only [mirrored, Cell.mk.injEq] at h ⊢
  omega

end Grid

/-- A way to carry the grid `g` onto another one, with all that stands and moves on it. -/
structure Symmetry (g : Grid) where
  /-- The grid that `g` is carried onto. -/
  target : Grid
  cell : Cell → Cell
  heading : Heading → Heading
  command : Command → Command
  mem_target_iff : ∀ c, cell c ∈ target ↔ c ∈ g
  cell_inj : ∀ c d, cell c = cell d → c = d
  heading_inj : ∀ h i, heading h = heading i → h = i
  command_eq_forward_iff : ∀ k, command k = .forward ↔ k = .forward
  obey : ∀ (p : Pose) (k : Command), Pose.obey ⟨cell p.cell, heading p.heading⟩ (command k)
    = ⟨cell (p.obey k).cell, heading (p.obey k).heading⟩

namespace Symmetry

section
variable {g : Grid} (s : Symmetry g)

def pose (p : Pose) : Pose :=
  ⟨s.cell p.cell, s.heading p.heading⟩

/-- The outcome of the same kind at the carried pose. -/
def outcome (o : Outcome) : Outcome :=
  ⟨o.verdict, s.pose o.pose⟩

def journey (j : Journey) : Journey :=
  ⟨s.pose j.start, j.commands.map s.command, s.pose j.goal⟩

theorem pose_inj {p q : Pose} (h : s.pose p = s.pose q) : p = q := by
  obtain ⟨c, h₁⟩ := p
  obtain ⟨e, h₂⟩ := q
  simp only [pose, Pose.mk.injEq] at h ⊢
  exact ⟨s.cell_inj c e h.1, s.heading_inj h₁ h₂ h.2⟩

end

variable {d : Document} (s : Symmetry d.grid)

/-- The document with everything in it carried along. -/
def document : Document :=
  ⟨s.target, d.obstacles.map s.cell, d.journeys.map s.journey⟩

/-! ### One step -/

theorem mem_obstacles_iff {c : Cell} :
    s.cell c ∈ s.document.arena.obstacles ↔ c ∈ d.arena.obstacles := by
  rw [Document.mem_obstacles_arena, Document.mem_obstacles_arena]
  show s.cell c ∈ d.obstacles.map s.cell ↔ c ∈ d.obstacles
  rw [List.mem_map]
  constructor
  · intro h
    obtain ⟨e, he, heq⟩ := h
    rwa [← s.cell_inj e c heq]
  · intro h
    exact ⟨c, h, rfl⟩

theorem refuses_iff {c : Cell} : s.document.arena.Refuses (s.cell c) ↔ d.arena.Refuses c := by
  show s.cell c ∉ s.target ∨ _ ↔ c ∉ d.grid ∨ _
  rw [s.mem_target_iff, mem_obstacles_iff]

theorem failure_eq (p : Pose) :
    s.document.arena.failure (s.pose p) = s.outcome (d.arena.failure p) := by
  have hgrid : (s.pose p).cell ∈ s.target ↔ p.cell ∈ d.grid := s.mem_target_iff p.cell
  show (if (s.pose p).cell ∈ s.target then _ else _) = s.outcome (if p.cell ∈ d.grid then _ else _)
  by_cases h : p.cell ∈ d.grid
  · rw [if_pos (hgrid.mpr h), if_pos h]
    rfl
  · rw [if_neg (mt hgrid.mp h), if_neg h]
    rfl

theorem arrive_eq (goal p : Pose) :
    Arena.arrive (s.pose goal) (s.pose p) = s.outcome (Arena.arrive goal p) := by
  unfold Arena.arrive
  by_cases h : p = goal
  · rw [if_pos (congrArg s.pose h), if_pos h]
    rfl
  · rw [if_neg (mt s.pose_inj h), if_neg h]
    rfl

/-- A carried command fails where the command fails, and leads where the command leads. -/
theorem step_eq (p : Pose) (k : Command) :
    s.document.arena.step (s.pose p) (s.command k) = match d.arena.step p k with
      | .error o => .error (s.outcome o)
      | .ok q => .ok (s.pose q) := by
  have hobey : (s.pose p).obey (s.command k) = s.pose (p.obey k) := s.obey p k
  -- Whether a command fails is told by where it leads and by whether it is a move.
  have hfails : (s.command k = .forward ∧
        s.document.arena.Refuses ((s.pose p).obey (s.command k)).cell) ↔
      (k = .forward ∧ d.arena.Refuses (p.obey k).cell) := by
    rw [hobey, s.command_eq_forward_iff]
    exact and_congr_right fun _ => s.refuses_iff
  rcases Arena.step_cases d.arena p k with ⟨hstep, hfree⟩ | ⟨hstep, hrefused⟩
  · rw [hstep]
    exact Arena.step_eq_ok_iff.mpr ⟨hobey.symm, mt hfails.mp hfree⟩
  · rw [hstep]
    rcases Arena.step_cases s.document.arena (s.pose p) (s.command k) with
      ⟨-, hfree⟩ | ⟨hstep', -⟩
    · exact absurd (hfails.mpr hrefused) hfree
    · rw [hstep', hobey, s.failure_eq]

/-! ### All steps -/

/-- A walk is carried along step by step. -/
theorem outcomeFrom_eq (goal p : Pose) (ks : List Command) :
    s.document.arena.outcomeFrom (s.pose goal) (s.pose p) (ks.map s.command)
      = s.outcome (d.arena.outcomeFrom goal p ks) := by
  induction ks generalizing p with
  | nil => exact s.arrive_eq goal p
  | cons k ks ih =>
    rw [List.map_cons, Arena.outcomeFrom_cons, Arena.outcomeFrom_cons, s.step_eq]
    cases d.arena.step p k with
    | error o => rfl
    | ok q => exact ih q

theorem outcome_eq (j : Journey) :
    s.document.arena.outcome (s.journey j) = s.outcome (d.arena.outcome j) := by
  have hblocked : s.document.arena.isBlocked (s.journey j).start.cell
      = d.arena.isBlocked j.start.cell := by
    rw [Bool.eq_iff_iff, Arena.isBlocked_iff, Arena.isBlocked_iff]
    exact s.mem_obstacles_iff
  rw [Arena.outcome_eq, Arena.outcome_eq, hblocked]
  split
  · rfl
  · exact s.outcomeFrom_eq j.goal j.start j.commands

/-- A simulation of the carried document gives the carried outcomes. -/
theorem outcomes_eq : s.document.arena.outcomes = d.arena.outcomes.map s.outcome := by
  rw [Arena.outcomes_eq_map, Arena.outcomes_eq_map]
  show (d.journeys.map s.journey).map s.document.arena.outcome
    = (d.journeys.map d.arena.outcome).map s.outcome
  rw [List.map_map, List.map_map]
  exact List.map_congr_left fun j _ => s.outcome_eq j

/-! ### Rotation and reflection -/

theorem obey_turned (g : Grid) (p : Pose) (k : Command) :
    Pose.obey ⟨g.turned p.cell, p.heading.turnRight⟩ k
      = ⟨g.turned (p.obey k).cell, (p.obey k).heading.turnRight⟩ := by
  obtain ⟨⟨x, y⟩, h⟩ := p
  cases k with
  | left =>
    -- Both ways around, the two turns cancel out.
    exact congrArg (Pose.mk _) (h.turnLeft_turnRight.trans h.turnRight_turnLeft.symm)
  | right => rfl
  | forward =>
    simp only [Pose.obey, Pose.ahead, Grid.turned, Heading.dx_turnRight, Heading.dy_turnRight]
    congr 2
    omega

theorem obey_mirrored (g : Grid) (p : Pose) (k : Command) :
    Pose.obey ⟨g.mirrored p.cell, p.heading.mirror⟩ k.mirror
      = ⟨g.mirrored (p.obey k).cell, (p.obey k).heading.mirror⟩ := by
  obtain ⟨⟨x, y⟩, h⟩ := p
  cases k with
  | left => exact congrArg (Pose.mk _) h.turnRight_mirror
  | right => exact congrArg (Pose.mk _) h.turnLeft_mirror
  | forward =>
    show Pose.ahead _ = _
    simp only [Pose.obey, Pose.ahead, Grid.mirrored, Heading.dx_mirror, Heading.dy_mirror]
    congr 2
    omega

/-- A quarter turn clockwise. -/
def rotation (g : Grid) : Symmetry g where
  target := ⟨g.height, g.width⟩
  cell := g.turned
  heading := Heading.turnRight
  command := id
  mem_target_iff := g.turned_mem_iff
  cell_inj := g.turned_inj
  heading_inj := Heading.turnRight_inj
  command_eq_forward_iff _ := Iff.rfl
  obey := obey_turned g

/-- The western and the eastern side exchanged. -/
def reflection (g : Grid) : Symmetry g where
  target := g
  cell := g.mirrored
  heading := Heading.mirror
  command := Command.mirror
  mem_target_iff := g.mirrored_mem_iff
  cell_inj := g.mirrored_inj
  heading_inj := Heading.mirror_inj
  command_eq_forward_iff := Command.mirror_eq_forward_iff
  obey := obey_mirrored g

end Symmetry

/-- Simulation commutes with the symmetries of the grid.

Let a document be given, whatever lies on its grid or off it. Turned clockwise, its grid has its
sides exchanged, its obstacles and the ends of its journeys are turned with it, and the commands
stay. Mirrored, the grid stays, its obstacles and the ends of its journeys are mirrored, and left
and right are exchanged in all commands. Each journey then ends as before, at the pose turned or
mirrored. So do the journeys that the document lists, one after the other. -/
theorem outcomes_carried_along (d : Document) :
    ((∀ j, (Symmetry.rotation d.grid).document.arena.outcome ((Symmetry.rotation d.grid).journey j)
          = (Symmetry.rotation d.grid).outcome (d.arena.outcome j)) ∧
        (Symmetry.rotation d.grid).document.arena.outcomes
          = d.arena.outcomes.map (Symmetry.rotation d.grid).outcome) ∧
      ((∀ j, (Symmetry.reflection d.grid).document.arena.outcome
            ((Symmetry.reflection d.grid).journey j)
          = (Symmetry.reflection d.grid).outcome (d.arena.outcome j)) ∧
        (Symmetry.reflection d.grid).document.arena.outcomes
          = d.arena.outcomes.map (Symmetry.reflection d.grid).outcome) :=
  ⟨⟨(Symmetry.rotation d.grid).outcome_eq, (Symmetry.rotation d.grid).outcomes_eq⟩,
    (Symmetry.reflection d.grid).outcome_eq, (Symmetry.reflection d.grid).outcomes_eq⟩

/-- The obstacle stands east of the robot, and south of it after a quarter turn. -/
example : (Symmetry.rotation ⟨3, 2⟩).outcome
    ((Document.arena ⟨⟨3, 2⟩, [⟨2, 1⟩], []⟩).outcome
      ⟨⟨⟨0, 1⟩, .east⟩, [.forward, .forward], ⟨⟨2, 1⟩, .east⟩⟩)
    = ⟨.crashed, ⟨⟨1, 0⟩, .south⟩⟩ := by
  decide

end GridWalk
