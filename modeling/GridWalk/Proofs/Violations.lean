import GridWalk.Document.Check
import GridWalk.Proofs.Membership

/-!
# `GridWalk.Proofs.Violations`: what a refused document is told

A document places cells and poses on its grid: its obstacles as listed, then the start and the
goal of each journey. `Document.misplaced` are those of its placements that lie outside the
grid, and the check reports exactly these, after the grid itself if that has no cells.

* `Placement.notice`: what is told of a placement outside the grid, word for word.
* `violations_eq`: the report, from the placements alone.
* `violations_eq_nil_iff`: nothing is reported exactly when the arena is sound.
* `check_reports_misplaced`: what the check gives for every document.
-/

set_option autoImplicit false

namespace GridWalk

/-- Something that a document puts on its grid. -/
inductive Placement
  | obstacle (cell : Cell)
  | journeyEnd (which : JourneyEnd) (pose : Pose)
deriving DecidableEq

namespace Placement

/-- Where it is put. -/
def cell : Placement → Cell
  | obstacle c => c
  | journeyEnd _ p => p.cell

/-- The violation when that is outside the grid. -/
def violation (g : Grid) : Placement → Violation
  | obstacle c => .obstacleOutside c g
  | journeyEnd which p => .poseOutside which p g

/-- The notice when that is outside the grid. -/
def notice (g : Grid) : Placement → Notice
  | obstacle c => ⟨.obstacleOutside,
      "Obstacle [" ++ ("Obstacle(x=" ++ toString c.x ++ ", y=" ++ toString c.y ++ ")")
        ++ "] out of bounds of defined grid [" ++ (toString g.width ++ "x" ++ toString g.height)
        ++ "]"⟩
  | journeyEnd which p => ⟨.poseOutside,
      (match which with
        | .start => "Initial"
        | .goal => "Final")
        ++ " robot state [" ++ ("RobotState(x=" ++ toString p.cell.x ++ ", y=" ++ toString p.cell.y
          ++ ", direction=" ++ p.heading.letter.toString ++ ")")
        ++ "] out of bounds of defined grid [" ++ (toString g.width ++ "x" ++ toString g.height)
        ++ "]"⟩

/-- The report of its violation is this notice. -/
theorem ofViolation_violation (g : Grid) (p : Placement) :
    Notice.ofViolation (p.violation g) = p.notice g := by
  cases p with
  | obstacle c => rfl
  | journeyEnd which p => cases which <;> rfl

end Placement

/-- An arena in which everything has its place: the grid has cells, and the obstacles and the
ends of all journeys are among them. -/
structure Arena.Sound (a : Arena) : Prop where
  width_pos : 1 ≤ a.grid.width
  height_pos : 1 ≤ a.grid.height
  obstacle_mem : ∀ c ∈ a.obstacles, c ∈ a.grid
  start_mem : ∀ j ∈ a.journeys, j.start.cell ∈ a.grid
  goal_mem : ∀ j ∈ a.journeys, j.goal.cell ∈ a.grid

/-- The start of a journey and then its goal. -/
def Journey.placements (j : Journey) : List Placement :=
  [.journeyEnd .start j.start, .journeyEnd .goal j.goal]

namespace Document

/-- All that the document puts on its grid, in document order. -/
def placements (d : Document) : List Placement :=
  d.obstacles.map .obstacle ++ d.journeys.flatMap Journey.placements

/-- What the document puts outside its grid, in document order. -/
def misplaced (d : Document) : List Placement :=
  d.placements.filter fun p => p.cell ∉ d.grid

/-- The obstacle violations come from the obstacles outside the grid. -/
theorem flatMap_obstacleViolations (g : Grid) (cells : List Cell) :
    cells.flatMap g.obstacleViolations
      = ((cells.map Placement.obstacle).filter fun p => p.cell ∉ g).map (·.violation g) := by
  induction cells with
  | nil => rfl
  | cons c cells ih =>
    rw [List.flatMap_cons, ih, List.map_cons, List.filter_cons]
    by_cases hc : c ∈ g
    · simp [Grid.obstacleViolations, Grid.contains_iff_mem.mpr hc, Placement.cell, hc]
    · simp [Grid.obstacleViolations, Grid.contains_eq_false_iff.mpr hc, Placement.cell,
        Placement.violation, hc]

/-- The violations of a journey come from those of its ends that lie outside the grid. -/
theorem journeyViolations_eq (g : Grid) (j : Journey) :
    g.journeyViolations j = (j.placements.filter fun p => p.cell ∉ g).map (·.violation g) := by
  -- An end of a journey is a placement of its own, and the start comes first.
  have hend : ∀ which p, g.poseViolations which p
      = ([Placement.journeyEnd which p].filter fun q => q.cell ∉ g).map (·.violation g) := by
    intro which p
    by_cases hp : p.cell ∈ g
    · simp [Grid.poseViolations, Grid.contains_iff_mem.mpr hp, Placement.cell, hp]
    · simp [Grid.poseViolations, Grid.contains_eq_false_iff.mpr hp, Placement.cell,
        Placement.violation, hp]
  rw [Grid.journeyViolations, hend, hend, ← List.map_append, ← List.filter_append]
  rfl

/-- A document is told about its grid and then about all that it misplaces. -/
theorem violations_eq (d : Document) :
    d.violations = d.grid.ownViolations ++ d.misplaced.map (·.violation d.grid) := by
  have hjourneys : d.journeys.flatMap d.grid.journeyViolations
      = ((d.journeys.flatMap Journey.placements).filter fun p => p.cell ∉ d.grid).map
          (·.violation d.grid) := by
    rw [List.filter_flatMap, List.map_flatMap]
    exact congrArg (d.journeys.flatMap ·) (funext (journeyViolations_eq d.grid))
  rw [violations, hjourneys, flatMap_obstacleViolations, List.append_assoc, ← List.map_append,
    ← List.filter_append]
  rfl

/-- A placement is that of a listed obstacle or of an end of a journey. -/
theorem forall_placements {d : Document} {p : Placement → Prop} :
    (∀ q ∈ d.placements, p q) ↔ (∀ c ∈ d.obstacles, p (.obstacle c)) ∧
      ∀ j ∈ d.journeys, p (.journeyEnd .start j.start) ∧ p (.journeyEnd .goal j.goal) := by
  simp only [placements, Journey.placements, List.mem_append, List.mem_map, List.mem_flatMap,
    List.mem_cons, List.not_mem_nil, or_false]
  constructor
  · intro h
    refine ⟨fun c hc => h _ (.inl ⟨c, hc, rfl⟩), fun j hj => ⟨?_, ?_⟩⟩
    · exact h _ (.inr ⟨j, hj, .inl rfl⟩)
    · exact h _ (.inr ⟨j, hj, .inr rfl⟩)
  · rintro ⟨hobstacles, hjourneys⟩ q (⟨c, hc, rfl⟩ | ⟨j, hj, rfl | rfl⟩)
    · exact hobstacles c hc
    · exact (hjourneys j hj).1
    · exact (hjourneys j hj).2

/-- The grid is told about when a side is below 1. -/
theorem ownViolations_eq_nil_iff {g : Grid} :
    g.ownViolations = [] ↔ 1 ≤ g.width ∧ 1 ≤ g.height := by
  rw [← Grid.isValid_iff, Grid.ownViolations]
  split <;> simp [*]

/-- There is nothing to tell exactly when the arena is sound. -/
theorem violations_eq_nil_iff {d : Document} : d.violations = [] ↔ d.arena.Sound := by
  have hplaced : d.misplaced = [] ↔ ∀ p ∈ d.placements, p.cell ∈ d.grid := by
    simp [misplaced, List.filter_eq_nil_iff]
  rw [violations_eq, List.append_eq_nil_iff, List.map_eq_nil_iff, ownViolations_eq_nil_iff,
    hplaced, forall_placements]
  constructor
  · intro h
    obtain ⟨⟨hwidth, hheight⟩, hobstacles, hjourneys⟩ := h
    exact ⟨hwidth, hheight, fun c hc => hobstacles c (mem_obstacles_arena.mp hc),
      fun j hj => (hjourneys j hj).1, fun j hj => (hjourneys j hj).2⟩
  · intro h
    exact ⟨⟨h.width_pos, h.height_pos⟩, fun c hc => h.obstacle_mem c (mem_obstacles_arena.mpr hc),
      fun j hj => ⟨h.start_mem j hj, h.goal_mem j hj⟩⟩

/-- A document passes exactly when its arena is sound, and then it gives that arena. -/
theorem check_eq_ok_iff_sound {d : Document} {a : Arena} :
    d.check = .ok a ↔ d.arena.Sound ∧ a = d.arena := by
  rw [check_eq_ok_iff, violations_eq_nil_iff]

/-- The check keeps the journeys. -/
theorem journeys_of_check {d : Document} {a : Arena} (h : d.check = .ok a) :
    a.journeys = d.journeys := by
  rw [(check_eq_ok_iff.mp h).2]
  rfl

/-- Every placement counts: one for an obstacle and two for a journey. -/
theorem length_placements (d : Document) :
    d.placements.length = d.obstacles.length + 2 * d.journeys.length := by
  have hjourneys : ∀ js : List Journey, (js.flatMap Journey.placements).length = 2 * js.length := by
    intro js
    induction js with
    | nil => rfl
    | cons j js ih =>
      rw [List.flatMap_cons, List.length_append, ih, List.length_cons]
      show 2 + 2 * js.length = 2 * (js.length + 1)
      omega
  rw [placements, List.length_append, List.length_map, hjourneys]

/-- On a grid without cells everything is misplaced. -/
theorem misplaced_of_invalid {d : Document} (h : d.grid.isValid = false) :
    d.misplaced = d.placements := by
  rw [misplaced, List.filter_eq_self]
  intro p _
  rw [decide_eq_true_eq]
  intro hp
  rw [Grid.isValid_of_mem hp] at h
  cases h

/-- The notices of a refused document are those of its violations. -/
theorem check_eq_error_iff {d : Document} {r : Rejection} :
    d.check = .error r ↔ d.violations ≠ [] ∧ r.notices = d.violations.map Notice.ofViolation := by
  obtain ⟨notices, hne⟩ := r
  unfold check
  split
  · next h => simp [h]
  · next v vs h =>
    simp only [h, Except.error.injEq, Rejection.mk.injEq, ne_eq, reduceCtorEq, not_false_eq_true,
      true_and]
    exact eq_comm

/-- What a refused document is told, from its grid and its placements alone. -/
theorem notices_of_check {d : Document} {r : Rejection} (h : d.check = .error r) :
    r.notices = (if 1 ≤ d.grid.width ∧ 1 ≤ d.grid.height then []
        else [⟨.invalidGrid, "Invalid grid " ++ ("Grid(width=" ++ toString d.grid.width
          ++ ", height=" ++ toString d.grid.height ++ ")")⟩])
      ++ d.misplaced.map (·.notice d.grid) := by
  have hplaced : (d.misplaced.map (·.violation d.grid)).map Notice.ofViolation
      = d.misplaced.map (·.notice d.grid) := by
    rw [List.map_map]
    exact List.map_congr_left fun p _ => p.ofViolation_violation d.grid
  rw [(check_eq_error_iff.mp h).2, violations_eq, List.map_append, hplaced]
  simp only [Grid.ownViolations, Grid.isValid_iff]
  split <;> rfl

/-- On a grid without cells a document is told about the grid and about all that it places. -/
theorem length_notices_of_check {d : Document} {r : Rejection} (h : d.check = .error r)
    (hgrid : ¬(1 ≤ d.grid.width ∧ 1 ≤ d.grid.height)) :
    r.notices.length = 1 + d.obstacles.length + 2 * d.journeys.length := by
  have hplaced : d.misplaced = d.placements := by
    refine misplaced_of_invalid ?_
    rw [← Bool.not_eq_true, Grid.isValid_iff]
    exact hgrid
  rw [notices_of_check h, if_neg hgrid, hplaced, List.length_append, List.length_singleton,
    List.length_map, length_placements, Nat.add_assoc]

/-- A document is refused exactly when its arena is not sound. -/
theorem exists_check_eq_error_iff {d : Document} :
    (∃ r, d.check = .error r) ↔ ¬d.arena.Sound := by
  rw [← violations_eq_nil_iff]
  cases hcheck : d.check with
  | ok a => simp [(check_eq_ok_iff.mp hcheck).1]
  | error r => simp [(check_eq_error_iff.mp hcheck).1]

/-- An arena that is not sound has a side below 1 or something outside its grid. -/
theorem not_sound_iff {d : Document} :
    ¬d.arena.Sound ↔ d.grid.width < 1 ∨ d.grid.height < 1 ∨ (∃ c ∈ d.obstacles, c ∉ d.grid) ∨
      ∃ j ∈ d.journeys, j.start.cell ∉ d.grid ∨ j.goal.cell ∉ d.grid := by
  constructor
  · intro hunsound
    -- If none of the four were the case, the arena would be sound.
    refine Classical.byContradiction fun hnone => hunsound ?_
    simp only [not_or, not_exists, not_and, Classical.not_not, Int.not_lt] at hnone
    obtain ⟨hwidth, hheight, hobstacles, hjourneys⟩ := hnone
    exact ⟨hwidth, hheight, fun c hc => hobstacles c (mem_obstacles_arena.mp hc),
      fun j hj => (hjourneys j hj).1, fun j hj => (hjourneys j hj).2⟩
  · rintro (hwidth | hheight | ⟨c, hc, hout⟩ | ⟨j, hj, hout | hout⟩) h
    · exact Int.not_lt.mpr h.width_pos hwidth
    · exact Int.not_lt.mpr h.height_pos hheight
    · exact hout (h.obstacle_mem c (mem_obstacles_arena.mpr hc))
    · exact hout (h.start_mem j hj)
    · exact hout (h.goal_mem j hj)

/-- What the check gives for every document.

A document is refused exactly when a side of its grid is below 1 or when an obstacle or an end of
a journey lies outside the grid. The notices of a refusal are then, in this order: one for the
grid, if it has a side below 1; one for each listed obstacle outside the grid, as often as it is
listed; one for each start and each goal outside the grid, journey by journey and the start
first. Each of them has the kind and the text of its own subject (`Placement.notice`). On a grid
with a side below 1 these are all obstacles and all ends of journeys.

The arena of a document that passes has the same grid and the same journeys, and as obstacles the
listed cells. It is sound. -/
theorem check_reports_misplaced (d : Document) :
    ((∃ r, d.check = .error r) ↔
        d.grid.width < 1 ∨ d.grid.height < 1 ∨ (∃ c ∈ d.obstacles, c ∉ d.grid) ∨
          ∃ j ∈ d.journeys, j.start.cell ∉ d.grid ∨ j.goal.cell ∉ d.grid) ∧
      (∀ r, d.check = .error r →
        r.notices = (if 1 ≤ d.grid.width ∧ 1 ≤ d.grid.height then []
            else [⟨.invalidGrid, "Invalid grid " ++ ("Grid(width=" ++ toString d.grid.width
              ++ ", height=" ++ toString d.grid.height ++ ")")⟩])
          ++ d.misplaced.map (·.notice d.grid) ∧
        (d.grid.width < 1 ∨ d.grid.height < 1 →
          r.notices.length = 1 + d.obstacles.length + 2 * d.journeys.length)) ∧
      ∀ a, d.check = .ok a →
        a.grid = d.grid ∧ a.journeys = d.journeys ∧
          (∀ c, c ∈ a.obstacles ↔ c ∈ d.obstacles) ∧ a.Sound := by
  refine ⟨exists_check_eq_error_iff.trans not_sound_iff, ?_, ?_⟩
  · intro r hr
    refine ⟨notices_of_check hr, fun hside => length_notices_of_check hr ?_⟩
    omega
  · intro a ha
    obtain ⟨hnone, rfl⟩ := check_eq_ok_iff.mp ha
    exact ⟨rfl, rfl, fun c => mem_obstacles_arena, violations_eq_nil_iff.mp hnone⟩

end Document

end GridWalk
