import GridWalk.Proofs.Accounts
import GridWalk.Proofs.RoundTrip
import GridWalk.Proofs.RunShapes
import GridWalk.Proofs.Trajectories

/-!
# `GridWalk.Proofs.Extent`: how far coordinates reach

The numbers of a document fit 31 bits, and the check puts all that a document places inside its
grid. From there one step leads to a cell of the grid or, when it fails, to a cell next to it. So
no run needs a coordinate below -1 or above the largest side that a grid can have. That side is
itself a coordinate: a robot that leaves the widest grid to the east is told to be there.

* `Grid.IsPastEdge`: one cell past the edge that the robot faces.
* `Arena.step_mem` and `Arena.step_locates`: one step from a cell of the grid.
* `Arena.outcomeFrom_locates`: all steps.
* `coordinates_bounded`: every coordinate of a run.
-/

set_option autoImplicit false

namespace GridWalk

namespace Grid

/-- The robot is outside the grid by one cell, past the edge that it faces. Its other coordinate is
inside. -/
def IsPastEdge (g : Grid) (p : Pose) : Prop :=
  match p.heading with
  | .north => p.cell.y = g.height ∧ 0 ≤ p.cell.x ∧ p.cell.x < g.width
  | .east => p.cell.x = g.width ∧ 0 ≤ p.cell.y ∧ p.cell.y < g.height
  | .south => p.cell.y = -1 ∧ 0 ≤ p.cell.x ∧ p.cell.x < g.width
  | .west => p.cell.x = -1 ∧ 0 ≤ p.cell.y ∧ p.cell.y < g.height

/-- The outcome tells a pose that such an outcome can tell: past an edge for an exit, and in the
grid for all others. -/
def Locates (g : Grid) (o : Outcome) : Prop :=
  match o.verdict with
  | .outOfBounds => g.IsPastEdge o.pose
  | _ => o.pose.cell ∈ g

variable {g : Grid} {p : Pose}

/-- A move that leaves the grid ends past the edge that the robot faces. -/
theorem isPastEdge_ahead (hp : p.cell ∈ g) (hout : p.ahead.cell ∉ g) : g.IsPastEdge p.ahead := by
  obtain ⟨⟨x, y⟩, heading⟩ := p
  rw [mem_iff] at hp hout
  cases heading <;> simp [Pose.ahead, Heading.dx, Heading.dy, IsPastEdge] at hp hout ⊢ <;> omega

/-- One cell past an edge both coordinates are at least -1 and at most the side. -/
theorem IsPastEdge.bounds (h : g.IsPastEdge p) (hvalid : 1 ≤ g.width ∧ 1 ≤ g.height) :
    (-1 ≤ p.cell.x ∧ p.cell.x ≤ g.width) ∧ -1 ≤ p.cell.y ∧ p.cell.y ≤ g.height := by
  unfold IsPastEdge at h
  split at h <;> omega

/-- Wherever an outcome is, both coordinates are at least -1 and at most the side. -/
theorem Locates.bounds {o : Outcome} (h : g.Locates o) (hvalid : 1 ≤ g.width ∧ 1 ≤ g.height) :
    (-1 ≤ o.pose.cell.x ∧ o.pose.cell.x ≤ g.width) ∧
      -1 ≤ o.pose.cell.y ∧ o.pose.cell.y ≤ g.height := by
  unfold Locates at h
  split at h
  · exact h.bounds hvalid
  · rw [mem_iff] at h
    omega

end Grid

namespace Arena

variable {a : Arena} {p q : Pose} {k : Command} {o : Outcome}

/-- A step that works stays in the grid. -/
theorem step_mem (h : a.step p k = .ok q) (hp : p.cell ∈ a.grid) : q.cell ∈ a.grid := by
  obtain ⟨rfl, hfree⟩ := step_eq_ok_iff.mp h
  cases k with
  -- A turn stays in its cell.
  | left => exact hp
  | right => exact hp
  | forward =>
    have hrefuses : ¬a.Refuses (p.obey .forward).cell := fun h => hfree ⟨rfl, h⟩
    exact (not_refuses_iff.mp hrefuses).1

/-- A step that fails tells a pose of the grid, or one past the edge that the robot faces. -/
theorem step_locates (h : a.step p k = .error o) (hp : p.cell ∈ a.grid) : a.grid.Locates o := by
  rcases step_cases a p k with ⟨hok, -⟩ | ⟨herror, rfl, -⟩
  · rw [hok] at h
    cases h
  · rw [herror] at h
    cases h
    show a.grid.Locates (a.failure p.ahead)
    unfold failure
    split
    · next hin => exact hin
    · next hout => exact Grid.isPastEdge_ahead hp hout

/-- A robot that arrives in the grid tells a pose of the grid. -/
theorem locates_arrive {g : Grid} (goal : Pose) (hp : p.cell ∈ g) : g.Locates (arrive goal p) := by
  unfold arrive
  split <;> exact hp

/-- Commands from a cell of the grid on end in the grid or past one of its edges. -/
theorem outcomeFrom_locates (goal : Pose) (ks : List Command) (hp : p.cell ∈ a.grid) :
    a.grid.Locates (a.outcomeFrom goal p ks) := by
  -- Where the first command works, the others start in the grid again.
  induction ks generalizing p with
  | nil => exact locates_arrive goal hp
  | cons k ks ih =>
    rw [outcomeFrom_cons]
    cases hstep : a.step p k with
    | error o => exact step_locates hstep hp
    | ok q => exact ih (step_mem hstep hp)

/-- A journey that starts in the grid ends in the grid or past one of its edges. -/
theorem outcome_locates {j : Journey} (hstart : j.start.cell ∈ a.grid) :
    a.grid.Locates (a.outcome j) := by
  rw [outcome_eq]
  split
  -- A crash at the start tells the start.
  · exact hstart
  · exact outcomeFrom_locates j.goal j.commands hstart

/-- A journey that starts in the grid reaches cells of the grid only. -/
theorem reached_mem {j : Journey} (hstart : j.start.cell ∈ a.grid) :
    ∀ q ∈ a.reached j, q.cell ∈ a.grid := by
  intro q hq
  -- What is reached is on the path of the journey, and a path stays on the grid.
  have hpath : q ∈ a.path j := by
    unfold reached at hq
    split at hq
    · cases hq
    · next hfree =>
      rw [path, if_neg hfree]
      exact hq
  exact (isTrip_path hstart).inside q hpath

end Arena

/-- The poses that an observer learns from an event, apart from the one of an outcome. -/
def Event.poses : Event → List Pose
  | .started j => [j.start, j.goal]
  | .reached p => [p]
  | .finished j _ => [j.start, j.goal]

/-- The events of a journey show cells of the grid only, if the journey starts and should end
there. -/
theorem Arena.poses_mem {a : Arena} {j : Journey} (hstart : j.start.cell ∈ a.grid)
    (hgoal : j.goal.cell ∈ a.grid) : ∀ e ∈ a.events j, ∀ p ∈ e.poses, p.cell ∈ a.grid := by
  have hends : ∀ p ∈ [j.start, j.goal], p.cell ∈ a.grid := by
    intro p hp
    rcases List.mem_pair.mp hp with rfl | rfl
    · exact hstart
    · exact hgoal
  intro e he p hp
  simp only [events, List.cons_append, List.mem_cons, List.mem_append, List.mem_map,
    List.not_mem_nil, or_false] at he
  rcases he with rfl | ⟨q, hq, rfl⟩ | rfl
  · exact hends p hp
  · rw [List.mem_singleton.mp hp]
    exact reached_mem hstart q hq
  · exact hends p hp

/-- Every coordinate of a run fits 32 bits with a sign, and an exit is one cell past the edge that
the robot faces.

Let the journeys of a text be driven. Both sides of its grid fit 31 bits. Each pose that an
observer is told lies in the grid: the poses that robots reach, and the starts and goals of the
journeys. Each coordinate of an outcome is at least -1 and fits 31 bits. The pose of an exit is
outside the grid by one cell, on the side that the robot faces, and its other coordinate is
inside. -/
theorem coordinates_bounded {text : String} {a : Arena} {outcomes : List Outcome}
    (h : run text = .completed a outcomes) :
    (a.grid.width ≤ 2147483647 ∧ a.grid.height ≤ 2147483647) ∧
      (∀ e ∈ Run.told text, ∀ p ∈ e.poses,
        (0 ≤ p.cell.x ∧ p.cell.x < a.grid.width) ∧ 0 ≤ p.cell.y ∧ p.cell.y < a.grid.height) ∧
      (∀ o ∈ outcomes, (-1 ≤ o.pose.cell.x ∧ o.pose.cell.x ≤ 2147483647) ∧
        -1 ≤ o.pose.cell.y ∧ o.pose.cell.y ≤ 2147483647) ∧
      ∀ p, ⟨.outOfBounds, p⟩ ∈ outcomes → a.grid.IsPastEdge p := by
  obtain ⟨d, hread, hsound, rfl, rfl⟩ := Run.run_eq_completed_iff.mp h
  have hvalid : 1 ≤ d.grid.width ∧ 1 ≤ d.grid.height := ⟨hsound.width_pos, hsound.height_pos⟩
  -- The numbers of a document that was read fit.
  have hwritable := Grammar.writable_of_spells (read_eq_ok_iff.mp hread)
  have hwidth : d.grid.width ≤ 2147483647 := hwritable.width.2
  have hheight : d.grid.height ≤ 2147483647 := hwritable.height.2
  have hlocates : ∀ o ∈ d.arena.journeys.map d.arena.outcome, d.grid.Locates o := by
    intro o ho
    obtain ⟨j, hj, rfl⟩ := List.mem_map.mp ho
    exact Arena.outcome_locates (hsound.start_mem j hj)
  refine ⟨⟨hwidth, hheight⟩, ?_, ?_, ?_⟩
  · intro e he p hp
    rw [Run.told_eq, h] at he
    obtain ⟨j, hj, he⟩ := List.mem_flatMap.mp he
    exact Arena.poses_mem (hsound.start_mem j hj) (hsound.goal_mem j hj) e he p hp
  · intro o ho
    have hbounds := (hlocates o ho).bounds hvalid
    omega
  · intro p hp
    exact hlocates _ hp

/-- One robot leaves the widest grid to the east, and another one to the south. -/
theorem coordinates_bounded_widest :
    ∃ a outcomes, run "GRID 2147483647x1\n2147483646 0 E\nF\n0 0 N\n5 0 E\nRF\n5 0 S"
        = .completed a outcomes ∧
      outcomes = [⟨.outOfBounds, ⟨⟨2147483647, 0⟩, .east⟩⟩,
        ⟨.outOfBounds, ⟨⟨5, -1⟩, .south⟩⟩] ∧
      a.grid.IsPastEdge ⟨⟨2147483647, 0⟩, .east⟩ ∧ a.grid.IsPastEdge ⟨⟨5, -1⟩, .south⟩ := by
  have hread : Document.read "GRID 2147483647x1\n2147483646 0 E\nF\n0 0 N\n5 0 E\nRF\n5 0 S"
      = .ok ⟨⟨2147483647, 1⟩, [], [⟨⟨⟨2147483646, 0⟩, .east⟩, [.forward], ⟨⟨0, 0⟩, .north⟩⟩,
        ⟨⟨⟨5, 0⟩, .east⟩, [.right, .forward], ⟨⟨5, 0⟩, .south⟩⟩]⟩ := by
    decide +kernel
  have hrun := Run.run_eq_completed_iff.mpr
    ⟨_, hread, Document.violations_eq_nil_iff.mp (by decide), rfl, rfl⟩
  obtain ⟨-, -, -, hexits⟩ := coordinates_bounded hrun
  exact ⟨_, _, hrun, by decide, hexits _ (by decide), hexits _ (by decide)⟩

end GridWalk
