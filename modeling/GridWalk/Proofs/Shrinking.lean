import GridWalk.Proofs.IdealPath

/-!
# `GridWalk.Proofs.Shrinking`: smaller worlds

An arena shrinks when its grid is cut down and when obstacles are added. A robot in the smaller
arena does what it does in the larger one, until it is stopped at a cell that the shrinking took.
The step at which it is stopped may be any step, and may be one that fails in the larger arena as
well, but with another verdict: where an obstacle was, the grid may end now.

* `Arena.Within.failure_cases`: how a failed move of the smaller arena comes about.
* `Arena.Within.outcome_cases`: how a journey through the smaller arena ends.
* `shrinking_only_adds_failures`: the same for any two documents with the same journeys, and that
  a journey which does not come to the lost cells ends as before.
-/

set_option autoImplicit false

namespace GridWalk.Arena

variable {a b : Arena}

/-- The arena `b` is the arena `a`, or what is left of it. -/
structure Within (b a : Arena) : Prop where
  width_le : b.grid.width ≤ a.grid.width
  height_le : b.grid.height ≤ a.grid.height
  obstacles : ∀ c ∈ a.obstacles, c ∈ b.obstacles

/-- The journey has a move that leads to the cell, and no move before it fails. So the robot enters
the cell or tries to. -/
def Tries (a : Arena) (j : Journey) (c : Cell) : Prop :=
  j.start.cell ∉ a.obstacles ∧ ∃ i, j.commands[i]? = some .forward ∧
    (j.idealPose (i + 1)).cell = c ∧ ∀ k < i, ¬a.FailsAt j.start j.commands k

/-- How a journey through `b` ends at a cell that was there and free in `a`. The robot comes to
that cell in `a` as well. -/
inductive EndsAnew (a b : Arena) (j : Journey) : Outcome → Prop
  /-- The robot leaves the grid of `b`, but not that of `a`. -/
  | exit {p : Pose} (tries : a.Tries j p.cell) (on : p.cell ∈ a.grid) (off : p.cell ∉ b.grid) :
      EndsAnew a b j ⟨.outOfBounds, p⟩
  /-- The robot meets an obstacle of `b` that `a` does not have. -/
  | crash {p : Pose} (tries : p.cell = j.start.cell ∨ a.Tries j p.cell)
      (free : p.cell ∉ a.obstacles) (blocked : p.cell ∈ b.obstacles) :
      EndsAnew a b j ⟨.crashed, p⟩

namespace Within

/-! ### One move -/

theorem mem_grid (h : b.Within a) {c : Cell} (hc : c ∈ b.grid) : c ∈ a.grid := by
  have hwidth := h.width_le
  have hheight := h.height_le
  rw [Grid.mem_iff] at hc ⊢
  omega

theorem refuses (h : b.Within a) {c : Cell} (hc : a.Refuses c) : b.Refuses c := by
  rcases hc with hoff | hblocked
  · exact .inl (mt h.mem_grid hoff)
  · exact .inr (h.obstacles c hblocked)

theorem failsAt (h : b.Within a) {p : Pose} {ks : List Command} {i : Nat}
    (hfails : a.FailsAt p ks i) : b.FailsAt p ks i :=
  ⟨hfails.1, h.refuses hfails.2⟩

/-- A move that fails in the smaller arena fails alike in the larger one, or at a lost cell. -/
theorem failure_cases (h : b.Within a) {p : Pose} (hrefuses : b.Refuses p.cell) :
    (a.Refuses p.cell ∧ b.failure p = a.failure p) ∨
      (b.failure p = ⟨.outOfBounds, p⟩ ∧ p.cell ∈ a.grid ∧ p.cell ∉ b.grid) ∨
      (b.failure p = ⟨.crashed, p⟩ ∧ p.cell ∉ a.obstacles ∧ p.cell ∈ b.obstacles) := by
  unfold failure
  by_cases hon : p.cell ∈ b.grid
  · -- On the smaller grid only an obstacle is in the way, and that may be an old one.
    have hblocked : p.cell ∈ b.obstacles := hrefuses.resolve_left (not_not_intro hon)
    rw [if_pos hon, if_pos (h.mem_grid hon)]
    by_cases hold : p.cell ∈ a.obstacles
    · exact .inl ⟨.inr hold, rfl⟩
    · exact .inr (.inr ⟨rfl, hold, hblocked⟩)
  · -- Off the smaller grid it is an exit, whatever stands there in either arena.
    rw [if_neg hon]
    by_cases hold : p.cell ∈ a.grid
    · exact .inr (.inl ⟨rfl, hold, hon⟩)
    · rw [if_neg hold]
      exact .inl ⟨.inl hold, rfl⟩

/-! ### Whole journeys -/

/-- A journey from a free start ends in the smaller arena as in the larger one, or at a lost
cell. -/
theorem outcome_cases_of_free (h : b.Within a) {j : Journey} (hfree : j.start.cell ∉ b.obstacles) :
    b.outcome j = a.outcome j ∨ a.EndsAnew b j (b.outcome j) := by
  have hfree' : j.start.cell ∉ a.obstacles := mt (h.obstacles _) hfree
  rw [outcome_of_free hfree, outcome_of_free hfree']
  rcases outcomeFrom_eq b j.goal j.start j.commands with ⟨i, hfirst, houtcome⟩ | ⟨hnone, houtcome⟩
  · -- No move before the failing one fails in the larger arena, so the robot gets there too.
    have hbefore : ∀ k < i, ¬a.FailsAt j.start j.commands k := by
      intro k hk hfails
      exact hfirst.2 k hk (h.failsAt hfails)
    have htries : a.Tries j (j.idealPose (i + 1)).cell := ⟨hfree', i, hfirst.1.1, rfl, hbefore⟩
    have hpose : j.start.obeyAll (j.commands.take (i + 1)) = j.idealPose (i + 1) := rfl
    rw [houtcome, hpose]
    rcases h.failure_cases hfirst.1.2 with ⟨hrefuses, hsame⟩ | ⟨hexit, hon, hoff⟩ |
      ⟨hcrash, hclear, hblocked⟩
    · left
      have hfirst' : a.FailsFirstAt j.start j.commands i := ⟨⟨hfirst.1.1, hrefuses⟩, hbefore⟩
      rw [outcomeFrom_of_failsFirstAt hfirst']
      exact hsame
    · right
      rw [← hpose, hexit]
      exact .exit htries hon hoff
    · right
      rw [← hpose, hcrash]
      exact .crash (.inr htries) hclear hblocked
  · left
    have hnone' : ∀ i, ¬a.FailsAt j.start j.commands i := fun i hfails => hnone i (h.failsAt hfails)
    rw [houtcome, outcomeFrom_of_not_failsAt hnone']

/-- A journey ends in the smaller arena as in the larger one, or at a lost cell. -/
theorem outcome_cases (h : b.Within a) (j : Journey) :
    b.outcome j = a.outcome j ∨ a.EndsAnew b j (b.outcome j) := by
  by_cases hblocked : j.start.cell ∈ b.obstacles
  · rw [outcome_of_blocked hblocked]
    by_cases hold : j.start.cell ∈ a.obstacles
    · left
      rw [outcome_of_blocked hold]
    · exact .inr (.crash (.inl rfl) hold hblocked)
  · exact h.outcome_cases_of_free hblocked

/-- A journey ends as before if none of the cells it comes to was lost. The start has to stay free,
but a robot need not enter it, and so it need not stay on the grid. -/
theorem outcome_eq_of_kept (h : b.Within a) {j : Journey}
    (hgrid : ∀ c, a.Tries j c → c ∈ a.grid → c ∈ b.grid)
    (hobstacles : ∀ c, c = j.start.cell ∨ a.Tries j c → c ∈ b.obstacles → c ∈ a.obstacles) :
    b.outcome j = a.outcome j := by
  rcases h.outcome_cases j with hsame | hanew
  · exact hsame
  · generalize b.outcome j = o at hanew
    cases hanew with
    | exit tries on off => exact absurd (hgrid _ tries on) off
    | crash tries free blocked => exact absurd (hobstacles _ tries blocked) free

end Within

end Arena

/-- Shrinking the world only adds failures where it was shrunk.

Let two documents have the same journeys, and let the grid of the second reach no further and list
all obstacles of the first. Then each journey has an outcome in both. These are the same, unless
the second is an exit at a cell that only the first grid has, or a crash into an obstacle that only
the second document lists. They are the same in any case if all cells that the journey enters or
tries to enter through the first document are left. -/
theorem shrinking_only_adds_failures {d e : Document} (hjourneys : e.journeys = d.journeys)
    (hwidth : e.grid.width ≤ d.grid.width) (hheight : e.grid.height ≤ d.grid.height)
    (hobstacles : ∀ c ∈ d.obstacles, c ∈ e.obstacles) (i : Nat) (j : Journey)
    (hj : d.journeys[i]? = some j) :
    ∃ o o', d.arena.outcomes[i]? = some o ∧ e.arena.outcomes[i]? = some o' ∧
      (o' = o ∨
        (o'.verdict = .outOfBounds ∧ o'.pose.cell ∈ d.grid ∧ o'.pose.cell ∉ e.grid) ∨
        (o'.verdict = .crashed ∧ o'.pose.cell ∈ e.obstacles ∧ o'.pose.cell ∉ d.obstacles)) ∧
      ((∀ c, d.arena.Tries j c → c ∈ d.grid → c ∈ e.grid) →
        (∀ c, c = j.start.cell ∨ d.arena.Tries j c → c ∈ e.obstacles → c ∈ d.obstacles) →
        o' = o) := by
  have hwithin : e.arena.Within d.arena := by
    refine ⟨hwidth, hheight, fun c hc => ?_⟩
    rw [Document.mem_obstacles_arena] at hc ⊢
    exact hobstacles c hc
  have houtcomes : ∀ f : Document, f.journeys = d.journeys →
      f.arena.outcomes[i]? = some (f.arena.outcome j) := by
    intro f hf
    rw [Arena.outcomes_eq_map]
    show (f.journeys.map f.arena.outcome)[i]? = _
    rw [hf, List.getElem?_map, hj]
    rfl
  refine ⟨_, _, houtcomes d rfl, houtcomes e hjourneys, ?_, ?_⟩
  · rcases hwithin.outcome_cases j with hsame | hanew
    · exact .inl hsame
    · right
      generalize e.arena.outcome j = o at hanew
      cases hanew with
      | exit _ on off => exact .inl ⟨rfl, on, off⟩
      | crash _ free blocked =>
        rw [Document.mem_obstacles_arena] at free blocked
        exact .inr ⟨rfl, blocked, free⟩
  · intro hgrid hkept
    refine hwithin.outcome_eq_of_kept hgrid fun c hc hblocked => ?_
    rw [Document.mem_obstacles_arena] at hblocked ⊢
    exact hkept c hc hblocked

/-- The robot starts in the last column and drives west. Without that column, and with an obstacle
beside its way, it arrives all the same. -/
theorem shrinking_only_adds_failures_beside :
    ∃ o, (Document.arena ⟨⟨3, 2⟩, [],
          [⟨⟨⟨2, 0⟩, .west⟩, [.forward, .forward], ⟨⟨0, 0⟩, .west⟩⟩]⟩).outcomes[0]? = some o ∧
      (Document.arena ⟨⟨2, 2⟩, [⟨1, 1⟩],
          [⟨⟨⟨2, 0⟩, .west⟩, [.forward, .forward], ⟨⟨0, 0⟩, .west⟩⟩]⟩).outcomes[0]? = some o := by
  obtain ⟨o, o', ho, ho', -, hkept⟩ := shrinking_only_adds_failures
    (d := ⟨⟨3, 2⟩, [], [⟨⟨⟨2, 0⟩, .west⟩, [.forward, .forward], ⟨⟨0, 0⟩, .west⟩⟩]⟩)
    (e := ⟨⟨2, 2⟩, [⟨1, 1⟩], [⟨⟨⟨2, 0⟩, .west⟩, [.forward, .forward], ⟨⟨0, 0⟩, .west⟩⟩]⟩)
    rfl (by decide) (by decide) (by decide) 0 _ rfl
  -- The robot only comes to the two cells west of its start.
  have hcells : ∀ c, Arena.Tries (Document.arena ⟨⟨3, 2⟩, [],
        [⟨⟨⟨2, 0⟩, .west⟩, [.forward, .forward], ⟨⟨0, 0⟩, .west⟩⟩]⟩)
      ⟨⟨⟨2, 0⟩, .west⟩, [.forward, .forward], ⟨⟨0, 0⟩, .west⟩⟩ c → c = ⟨1, 0⟩ ∨ c = ⟨0, 0⟩ := by
    rintro c ⟨-, i, hi, rfl, -⟩
    match i with
    | 0 => exact .inl rfl
    | 1 => exact .inr rfl
    | i + 2 => simp at hi
  have hsame : o' = o := by
    refine hkept ?_ ?_
    · intro c hc _
      rcases hcells c hc with rfl | rfl <;> decide
    · intro c hc hblocked
      rcases hc with rfl | hc
      · simp at hblocked
      · rcases hcells c hc with rfl | rfl <;> simp at hblocked
  exact ⟨o, ho, hsame ▸ ho'⟩

end GridWalk
