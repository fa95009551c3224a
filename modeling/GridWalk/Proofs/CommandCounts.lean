import GridWalk.Proofs.WayBack
import Mathlib.Algebra.Order.Group.Unbundled.Int

/-!
# `GridWalk.Proofs.CommandCounts`: what the counts of commands decide

Where nothing stands in the way, the heading of a robot depends only on how many turns it makes in
each direction, and not on their order or on the moves between them. How far it gets is bounded by
the number of its moves, and has the same parity, since each move changes the distance by one. A
journey whose commands are all carried out follows its ideal path to the end, so the same holds for
it. A journey without moves cannot fail on its way.

* `Pose.value_obeyAll`: the heading after commands.
* `Pose.distance_obeyAll`: the distance after commands.
* `Arena.Completes.eq_obeyAll`: commands that are carried out lead along the ideal path.
* `completed_journeys_counted`: all this for journeys and their outcomes.
-/

set_option autoImplicit false

namespace GridWalk

/-- The number of moves along the axes between two cells. -/
def Cell.distance (c d : Cell) : Nat :=
  (d.x - c.x).natAbs + (d.y - c.y).natAbs

namespace Heading

/-- A heading is less than a full turn from north. -/
theorem value_lt (h : Heading) : h.value < 8 := by
  cases h <;> decide

theorem value_inj {h i : Heading} (heq : h.value = i.value) : h = i := by
  revert heq
  cases h <;> cases i <;> decide

end Heading

namespace Cell

/-- A way over a third number is no shorter, and its parity is that of the direct way. -/
theorem natAbs_sub_trans (i j k : Int) :
    (k - i).natAbs ≤ (j - i).natAbs + (k - j).natAbs ∧
      (k - i).natAbs % 2 = ((j - i).natAbs + (k - j).natAbs) % 2 := by
  omega

/-- Ways over a third cell are such ways along both axes. -/
theorem distance_trans (c d e : Cell) :
    c.distance e ≤ c.distance d + d.distance e ∧
      c.distance e % 2 = (c.distance d + d.distance e) % 2 := by
  have hx := natAbs_sub_trans c.x d.x e.x
  have hy := natAbs_sub_trans c.y d.y e.y
  rw [distance, distance, distance, Nat.add_add_add_comm]
  constructor
  · exact Nat.add_le_add hx.1 hy.1
  · rw [Nat.add_mod, hx.2, hy.2, ← Nat.add_mod]

theorem cast_distance (c d : Cell) : (c.distance d : Int) = |d.x - c.x| + |d.y - c.y| := by
  rw [distance, Int.natCast_add, Int.abs_eq_natAbs, Int.abs_eq_natAbs]

/-- Cells without a way between them are the same. -/
theorem eq_of_distance_eq_zero {c d : Cell} (h : c.distance d = 0) : d = c := by
  obtain ⟨x, y⟩ := c
  obtain ⟨x', y'⟩ := d
  simp only [distance, mk.injEq] at h ⊢
  omega

end Cell

namespace Pose

variable {p : Pose} {k : Command} {ks ls : List Command}

/-! ### One command -/

/-- Only a move leads to another cell, and that is one cell away. -/
theorem distance_obey (p : Pose) (k : Command) :
    p.cell.distance (p.obey k).cell = [k].count .forward := by
  cases k with
  | left => simp [obey, turnLeft, Cell.distance]
  | right => simp [obey, turnRight, Cell.distance]
  | forward =>
    show p.cell.distance p.ahead.cell = 1
    unfold Cell.distance ahead
    cases p.heading <;> simp [Heading.dx, Heading.dy]

/-! ### All commands -/

/-- First some commands, and then others. -/
theorem obeyAll_append (p : Pose) (ks ls : List Command) :
    p.obeyAll (ks ++ ls) = (p.obeyAll ks).obeyAll ls :=
  List.foldl_append

/-- The heading after commands is told by the numbers of turns. -/
theorem value_obeyAll (p : Pose) (ks : List Command) :
    ((p.obeyAll ks).heading.value : Int)
      = (p.heading.value + 2 * ks.count .right - 2 * ks.count .left) % 8 := by
  induction ks generalizing p with
  | nil =>
    have hlt := p.heading.value_lt
    simp
    omega
  | cons k ks ih =>
    rw [obeyAll_cons, ih]
    cases k with
    | left =>
      have hturn := p.heading.value_turnLeft
      simp [obey, turnLeft, hturn]
      omega
    | right =>
      have hturn := p.heading.value_turnRight
      simp [obey, turnRight, hturn]
      omega
    | forward => simp [obey, ahead]

/-- The distance after commands is at most the number of moves, and has the same parity. -/
theorem distance_obeyAll (p : Pose) (ks : List Command) :
    p.cell.distance (p.obeyAll ks).cell ≤ ks.count .forward ∧
      p.cell.distance (p.obeyAll ks).cell % 2 = ks.count .forward % 2 := by
  induction ks generalizing p with
  | nil => simp [Cell.distance]
  | cons k ks ih =>
    -- The way of the first command, and then the way of the others.
    have hfirst := p.distance_obey k
    have hothers := ih (p.obey k)
    have hsum := p.cell.distance_trans (p.obey k).cell ((p.obey k).obeyAll ks).cell
    have hcount : (k :: ks).count .forward = [k].count .forward + ks.count .forward := by
      show ([k] ++ ks).count .forward = _
      rw [List.count_append]
    rw [obeyAll_cons, hcount]
    omega

/-- Without a move the robot stays in its cell. -/
theorem cell_obeyAll (p : Pose) (h : Command.forward ∉ ks) : (p.obeyAll ks).cell = p.cell := by
  have hdistance := (p.distance_obeyAll ks).1
  rw [List.count_eq_zero.mpr h] at hdistance
  exact Cell.eq_of_distance_eq_zero (Nat.le_zero.mp hdistance)

/-- Poses agree if their cells and the values of their headings do. -/
theorem eq_iff_value {q : Pose} :
    p = q ↔ q.cell = p.cell ∧ q.heading.value = p.heading.value := by
  constructor
  · intro h
    rw [h]
    exact ⟨rfl, rfl⟩
  · intro h
    show Pose.mk p.cell p.heading = Pose.mk q.cell q.heading
    rw [h.1, Heading.value_inj h.2]

/-- Full rotations change nothing, however many there are and in whichever directions. -/
theorem obeyAll_rotations {rotations : List (List Command)}
    (h : ∀ r ∈ rotations, r = List.replicate 4 .right ∨ r = List.replicate 4 .left) :
    p.obeyAll rotations.flatten = p := by
  induction rotations with
  | nil => rfl
  | cons r rotations ih =>
    rw [List.forall_mem_cons] at h
    have hturn : p.obeyAll r = p := by
      obtain ⟨c, heading⟩ := p
      rcases h.1 with rfl | rfl
      · cases heading <;> rfl
      · cases heading <;> rfl
    rw [List.flatten_cons, obeyAll_append, hturn, ih h.2]

end Pose

/-- No move is part of a full rotation. -/
theorem Command.forward_not_mem_rotations {rotations : List (List Command)}
    (h : ∀ r ∈ rotations, r = List.replicate 4 .right ∨ r = List.replicate 4 .left) :
    .forward ∉ rotations.flatten := by
  intro hmem
  obtain ⟨r, hr, hforward⟩ := List.mem_flatten.mp hmem
  rcases h r hr with rfl | rfl
  · cases List.eq_of_mem_replicate hforward
  · cases List.eq_of_mem_replicate hforward

namespace Arena

variable {a : Arena} {p q : Pose} {ks : List Command}

/-- Commands that are all carried out lead to the end of the ideal path. -/
theorem Completes.eq_obeyAll (h : a.Completes p ks q) : q = p.obeyAll ks := by
  induction h with
  | nil => rfl
  | cons first _ ih => rw [ih, (step_eq_ok_iff.mp first).1, Pose.obeyAll_cons]

/-- A journey that arrives does so at the end of its ideal path. -/
theorem eq_obeyAll_of_outcome {j : Journey} {t : Pose}
    (h : a.outcome j = ⟨.success, t⟩ ∨ a.outcome j = ⟨.unexpectedEnd, t⟩) :
    t = j.start.obeyAll j.commands :=
  (completes_of_outcome h).2.eq_obeyAll

/-- A journey without moves that does not start on an obstacle arrives. -/
theorem outcome_of_no_forward {j : Journey} (hstart : j.start.cell ∉ a.obstacles)
    (h : Command.forward ∉ j.commands) :
    a.outcome j = arrive j.goal (j.start.obeyAll j.commands) := by
  rw [outcome_of_free hstart, outcomeFrom_of_not_failsAt]
  -- Only moves fail.
  intro i hfails
  exact h (List.mem_of_getElem? hfails.1)

/-- An arrival is a success or an unexpected end. -/
theorem arrive_cases (goal p : Pose) :
    arrive goal p = ⟨.success, p⟩ ∨ arrive goal p = ⟨.unexpectedEnd, p⟩ := by
  unfold arrive
  split
  · exact .inl rfl
  · exact .inr rfl

/-- It is a success exactly at the goal. -/
theorem arrive_verdict_eq_success_iff {goal p : Pose} :
    (arrive goal p).verdict = .success ↔ p = goal := by
  unfold arrive
  split <;> simp [*]

end Arena

/-- The counts of commands decide the heading of a completed journey, and how far it can have got.

Let a journey through any arena carry out all its commands, whether it ends at its goal or not. Its
final heading has the value of the first one, plus two for each right turn and minus two for each
left turn, modulo eight. The distance between its first and its last cell, taken along the axes, is
at most the number of its moves, and it is odd exactly when that number is.

A journey without moves that does not start on an obstacle always carries out all its commands, and
ends in the cell in which it started. So it succeeds exactly if its goal is that cell with the
heading that the turns lead to. In particular it succeeds with its start as its goal if it consists
of full rotations, of four turns each, to the left and to the right. -/
theorem completed_journeys_counted (a : Arena) (j : Journey) :
    (∀ t, a.outcome j = ⟨.success, t⟩ ∨ a.outcome j = ⟨.unexpectedEnd, t⟩ →
      (t.heading.value : Int) = (j.start.heading.value + 2 * j.commands.count .right
          - 2 * j.commands.count .left) % 8 ∧
        |t.cell.x - j.start.cell.x| + |t.cell.y - j.start.cell.y| ≤ j.commands.count .forward ∧
        (|t.cell.x - j.start.cell.x| + |t.cell.y - j.start.cell.y|) % 2
          = j.commands.count .forward % 2) ∧
      (j.start.cell ∉ a.obstacles → Command.forward ∉ j.commands →
        (∃ t, (a.outcome j = ⟨.success, t⟩ ∨ a.outcome j = ⟨.unexpectedEnd, t⟩) ∧
          t.cell = j.start.cell) ∧
        ((a.outcome j).verdict = .success ↔ j.goal.cell = j.start.cell ∧
          (j.goal.heading.value : Int) = (j.start.heading.value + 2 * j.commands.count .right
            - 2 * j.commands.count .left) % 8)) ∧
      ∀ (s : Pose) (rotations : List (List Command)), s.cell ∉ a.obstacles →
        (∀ r ∈ rotations, r = List.replicate 4 .right ∨ r = List.replicate 4 .left) →
        a.outcome ⟨s, rotations.flatten, s⟩ = ⟨.success, s⟩ := by
  have hvalue := j.start.value_obeyAll j.commands
  have hdistance := j.start.distance_obeyAll j.commands
  refine ⟨fun t ht => ?_, fun hstart hmoves => ⟨?_, ?_⟩, fun s rotations hstart hrotations => ?_⟩
  · rw [Arena.eq_obeyAll_of_outcome ht, ← Cell.cast_distance]
    exact ⟨hvalue, Int.ofNat_le.mpr hdistance.1, congrArg Nat.cast hdistance.2⟩
  · rw [Arena.outcome_of_no_forward hstart hmoves]
    exact ⟨_, Arena.arrive_cases j.goal _, Pose.cell_obeyAll j.start hmoves⟩
  · rw [Arena.outcome_of_no_forward hstart hmoves, Arena.arrive_verdict_eq_success_iff,
      Pose.eq_iff_value, Pose.cell_obeyAll j.start hmoves, ← hvalue, Int.natCast_inj]
  · have hmoves := Command.forward_not_mem_rotations hrotations
    have houtcome := Arena.outcome_of_no_forward (j := ⟨s, rotations.flatten, s⟩) hstart hmoves
    rw [houtcome]
    show Arena.arrive s (s.obeyAll rotations.flatten) = ⟨.success, s⟩
    rw [Pose.obeyAll_rotations hrotations, Arena.arrive, if_pos rfl]

/-- A robot that goes around a corner and turns back to the west, and one that only turns, as many
times as it likes, outside the grid. -/
theorem completed_journeys_counted_corner :
    Arena.outcome ⟨⟨2, 2⟩, CellSet.ofList [⟨1, 0⟩], []⟩
        ⟨⟨⟨0, 0⟩, .north⟩, [.forward, .right, .forward, .left, .left], ⟨⟨0, 0⟩, .north⟩⟩
          = ⟨.unexpectedEnd, ⟨⟨1, 1⟩, .west⟩⟩ ∧
      (Heading.west.value : Int) = (Heading.north.value + 2 * 1 - 2 * 2) % 8 ∧
      |(1 : Int) - 0| + |(1 : Int) - 0| ≤ 2 ∧
      ∀ n, Arena.outcome ⟨⟨2, 2⟩, CellSet.ofList [⟨1, 0⟩], []⟩
        ⟨⟨⟨5, -1⟩, .east⟩, (List.replicate n (List.replicate 4 .right)).flatten, ⟨⟨5, -1⟩, .east⟩⟩
          = ⟨.success, ⟨⟨5, -1⟩, .east⟩⟩ := by
  have hcorner : Arena.outcome ⟨⟨2, 2⟩, CellSet.ofList [⟨1, 0⟩], []⟩
      ⟨⟨⟨0, 0⟩, .north⟩, [.forward, .right, .forward, .left, .left], ⟨⟨0, 0⟩, .north⟩⟩
        = ⟨.unexpectedEnd, ⟨⟨1, 1⟩, .west⟩⟩ := by
    decide
  obtain ⟨hcompleted, -, hrotations⟩ := completed_journeys_counted
    ⟨⟨2, 2⟩, CellSet.ofList [⟨1, 0⟩], []⟩
    ⟨⟨⟨0, 0⟩, .north⟩, [.forward, .right, .forward, .left, .left], ⟨⟨0, 0⟩, .north⟩⟩
  obtain ⟨hvalue, hdistance, -⟩ := hcompleted ⟨⟨1, 1⟩, .west⟩ (.inr hcorner)
  refine ⟨hcorner, hvalue, hdistance, fun n => ?_⟩
  refine hrotations ⟨⟨5, -1⟩, .east⟩ _ (by decide) fun r hr => ?_
  exact .inl (List.eq_of_mem_replicate hr)

end GridWalk
