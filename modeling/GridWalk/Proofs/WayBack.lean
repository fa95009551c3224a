import GridWalk.Proofs.IdealPath
import GridWalk.Proofs.Violations

/-!
# `GridWalk.Proofs.WayBack`: robots find back

A robot that has carried out all its commands can turn around and undo them, the last one first.
It undoes a turn by the other turn and a move by a move. On the way it enters the cells that it
came from. These lie on the grid and are free, the first of them because a document passes only if
its journeys start on the grid.

* `Arena.Completes`: commands that are all carried out.
* `Arena.step_back`: one command undone.
* `Arena.Completes.back`: all commands undone.
* `wayBack_arrives`: the same for journeys and their outcomes.
-/

set_option autoImplicit false

namespace GridWalk

/-! ### Turning around -/

/-- The heading the other way. -/
def Heading.opposite (h : Heading) : Heading :=
  h.turnLeft.turnLeft

/-- The robot after half a turn. -/
def Pose.turnAround (p : Pose) : Pose :=
  ⟨p.cell, p.heading.opposite⟩

/-- The command that undoes this one for a robot that has turned around. -/
def Command.mirror : Command → Command
  | .left => .right
  | .right => .left
  | .forward => .forward

/-- The journey back from the pose `t`, where this one has ended. -/
def Journey.back (j : Journey) (t goal : Pose) : Journey :=
  ⟨t.turnAround, (j.commands.map Command.mirror).reverse, goal⟩

namespace Heading

theorem turnRight_turnLeft (h : Heading) : h.turnLeft.turnRight = h := by
  cases h <;> rfl

theorem turnLeft_turnRight (h : Heading) : h.turnRight.turnLeft = h := by
  cases h <;> rfl

theorem dx_opposite (h : Heading) : h.opposite.dx = -h.dx := by
  cases h <;> rfl

theorem dy_opposite (h : Heading) : h.opposite.dy = -h.dy := by
  cases h <;> rfl

end Heading

namespace Pose

/-- A move after half a turn undoes the move before it. -/
theorem ahead_turnAround (p : Pose) : p.ahead.turnAround.ahead = p.turnAround := by
  obtain ⟨⟨x, y⟩, h⟩ := p
  show (⟨⟨x + h.dx + h.opposite.dx, y + h.dy + h.opposite.dy⟩, h.opposite⟩ : Pose)
    = ⟨⟨x, y⟩, h.opposite⟩
  rw [h.dx_opposite, h.dy_opposite, Int.add_neg_cancel_right, Int.add_neg_cancel_right]

/-- Where nothing stands in the way, a mirrored command undoes its command. -/
theorem obey_mirror (p : Pose) (k : Command) :
    (p.obey k).turnAround.obey k.mirror = p.turnAround := by
  cases k with
  | left => exact congrArg (Pose.mk p.cell) p.heading.turnLeft.turnLeft.turnRight_turnLeft
  | right =>
    show Pose.mk p.cell p.heading.turnRight.turnLeft.turnLeft.turnLeft = _
    rw [Heading.turnLeft_turnRight]
    rfl
  | forward => exact p.ahead_turnAround

end Pose

namespace Arena

variable {a : Arena} {p q r : Pose} {k : Command} {ks : List Command}

/-! ### Commands that are all carried out -/

/-- All commands are carried out from the pose `p` on, and they lead to the last pose. -/
inductive Completes (a : Arena) : Pose → List Command → Pose → Prop
  | nil {p : Pose} : Completes a p [] p
  | cons {p q r : Pose} {k : Command} {ks : List Command} (first : a.step p k = .ok q)
      (others : Completes a q ks r) : Completes a p (k :: ks) r

/-- One more command at the end. -/
theorem Completes.snoc (h : a.Completes p ks q) (hlast : a.step q k = .ok r) :
    a.Completes p (ks ++ [k]) r := by
  induction h with
  | nil => exact .cons hlast .nil
  | cons first _ ih => exact .cons first (ih hlast)

/-- Behind commands that are all carried out the robot has arrived. -/
theorem Completes.outcomeFrom_eq (h : a.Completes p ks q) (goal : Pose) :
    a.outcomeFrom goal p ks = arrive goal q := by
  induction h with
  | nil => rfl
  | cons first _ ih =>
    rw [outcomeFrom_cons, first]
    exact ih

/-- Commands that end in an arrival have all been carried out. -/
theorem completes_of_verdict {goal : Pose} {o : Outcome} (h : a.outcomeFrom goal p ks = o)
    (hverdict : o.verdict = .success ∨ o.verdict = .unexpectedEnd) :
    a.Completes p ks o.pose := by
  induction ks generalizing p with
  | nil =>
    rw [← h, outcomeFrom_nil, arrive_pose]
    exact .nil
  | cons k ks ih =>
    rw [outcomeFrom_cons] at h
    rcases step_cases a p k with ⟨hstep, -⟩ | ⟨hstep, -⟩
    · rw [hstep] at h
      exact .cons hstep (ih h)
    · rw [hstep] at h
      obtain rfl : a.failure (p.obey k) = o := h
      exact absurd hverdict (a.not_arrived_failure (p.obey k))

/-! ### The way back -/

/-- A command is undone by its mirrored command, if the robot came from where it may be. -/
theorem step_back (h : a.step p k = .ok q) (hp : ¬a.Refuses p.cell) :
    a.step q.turnAround k.mirror = .ok p.turnAround := by
  obtain ⟨rfl, -⟩ := step_eq_ok_iff.mp h
  rw [step_eq_ok_iff, Pose.obey_mirror]
  exact ⟨rfl, fun hfails => hp hfails.2⟩

/-- Commands are undone by their mirrored commands, the last one first. -/
theorem Completes.back (h : a.Completes p ks q) (hp : ¬a.Refuses p.cell) :
    a.Completes q.turnAround (ks.map Command.mirror).reverse p.turnAround := by
  -- The first command is undone last, and each command leads to a cell where the robot may be.
  induction h with
  | nil => exact .nil
  | cons first _ ih =>
    rw [List.map_cons, List.reverse_cons]
    exact (ih (step_free first hp)).snoc (step_back first hp)

/-- Behind commands that are all carried out the robot is where it may be. -/
theorem Completes.free (h : a.Completes p ks q) (hp : ¬a.Refuses p.cell) : ¬a.Refuses q.cell := by
  induction h with
  | nil => exact hp
  | cons first _ ih => exact ih (step_free first hp)

/-- A journey that arrives starts on no obstacle and carries out all its commands. -/
theorem completes_of_outcome {j : Journey} {t : Pose}
    (h : a.outcome j = ⟨.success, t⟩ ∨ a.outcome j = ⟨.unexpectedEnd, t⟩) :
    j.start.cell ∉ a.obstacles ∧ a.Completes j.start j.commands t := by
  rw [outcome_eq] at h
  split at h
  · simp at h
  · next hfree =>
    refine ⟨mt isBlocked_iff.mpr hfree, ?_⟩
    rcases h with h | h
    · exact completes_of_verdict h (.inl rfl)
    · exact completes_of_verdict h (.inr rfl)

/-- A journey from a free cell that carries out all its commands arrives. -/
theorem Completes.outcome_eq {j : Journey} (h : a.Completes j.start j.commands q)
    (hfree : j.start.cell ∉ a.obstacles) : a.outcome j = arrive j.goal q := by
  rw [outcome_of_free hfree, h.outcomeFrom_eq]

end Arena

/-- Journeys are reversible.

Let a journey of a document that passed end in the pose `t` with all its commands carried out,
whether `t` is its goal or not. Then the journey back starts on the grid and carries out all its
commands as well, and they lead to the start of the first journey, turned around. It succeeds if
that is its own goal, and has an unexpected end otherwise. -/
theorem wayBack_arrives {d : Document} {a : Arena} {j : Journey} {t : Pose}
    (hcheck : d.check = .ok a) (hj : j ∈ d.journeys)
    (ht : a.outcome j = ⟨.success, t⟩ ∨ a.outcome j = ⟨.unexpectedEnd, t⟩) (goal : Pose) :
    (j.back t goal).start.cell ∈ d.grid ∧
      a.Completes (j.back t goal).start (j.back t goal).commands j.start.turnAround ∧
      (goal = j.start.turnAround →
        a.outcome (j.back t goal) = ⟨.success, j.start.turnAround⟩) ∧
      (goal ≠ j.start.turnAround →
        a.outcome (j.back t goal) = ⟨.unexpectedEnd, j.start.turnAround⟩) := by
  obtain ⟨hsound, rfl⟩ := Document.check_eq_ok_iff_sound.mp hcheck
  obtain ⟨hfree, hcompletes⟩ := Arena.completes_of_outcome ht
  have hstart : ¬d.arena.Refuses j.start.cell :=
    Arena.not_refuses_iff.mpr ⟨hsound.start_mem j hj, hfree⟩
  obtain ⟨hon, hclear⟩ := Arena.not_refuses_iff.mp (hcompletes.free hstart)
  have hback : d.arena.Completes (j.back t goal).start (j.back t goal).commands
      j.start.turnAround :=
    hcompletes.back hstart
  have houtcome : d.arena.outcome (j.back t goal) = Arena.arrive goal j.start.turnAround :=
    hback.outcome_eq hclear
  refine ⟨hon, hback, ?_, ?_⟩
  · intro hgoal
    rw [houtcome, Arena.arrive, if_pos hgoal.symm]
  · intro hgoal
    rw [houtcome, Arena.arrive, if_neg (Ne.symm hgoal)]

/-- Around a corner and back. -/
theorem wayBack_arrives_corner :
    ∃ a, Document.check ⟨⟨2, 2⟩, [⟨1, 0⟩],
        [⟨⟨⟨0, 0⟩, .north⟩, [.forward, .right, .forward], ⟨⟨1, 1⟩, .east⟩⟩]⟩ = .ok a ∧
      a.outcome ⟨⟨⟨0, 0⟩, .north⟩, [.forward, .right, .forward], ⟨⟨1, 1⟩, .east⟩⟩
        = ⟨.success, ⟨⟨1, 1⟩, .east⟩⟩ ∧
      a.outcome ⟨⟨⟨1, 1⟩, .west⟩, [.forward, .left, .forward], ⟨⟨0, 0⟩, .south⟩⟩
        = ⟨.success, ⟨⟨0, 0⟩, .south⟩⟩ := by
  have hcheck := Document.check_eq_ok_iff.mpr ⟨by decide, Eq.refl (Document.arena
    ⟨⟨2, 2⟩, [⟨1, 0⟩],
      [⟨⟨⟨0, 0⟩, .north⟩, [.forward, .right, .forward], ⟨⟨1, 1⟩, .east⟩⟩]⟩)⟩
  have hthere : (Document.arena ⟨⟨2, 2⟩, [⟨1, 0⟩],
      [⟨⟨⟨0, 0⟩, .north⟩, [.forward, .right, .forward], ⟨⟨1, 1⟩, .east⟩⟩]⟩).outcome
      ⟨⟨⟨0, 0⟩, .north⟩, [.forward, .right, .forward], ⟨⟨1, 1⟩, .east⟩⟩
        = ⟨.success, ⟨⟨1, 1⟩, .east⟩⟩ := by
    decide
  obtain ⟨-, -, hback, -⟩ :=
    wayBack_arrives hcheck List.mem_cons_self (.inl hthere) ⟨⟨0, 0⟩, .south⟩
  exact ⟨_, hcheck, hthere, hback rfl⟩

end GridWalk
