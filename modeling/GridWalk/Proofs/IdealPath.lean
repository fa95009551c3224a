import GridWalk.Proofs.Announcements
import GridWalk.Proofs.Membership

/-!
# `GridWalk.Proofs.IdealPath`: outcomes from the path without obstacles

The ideal path of a journey carries out all commands where nothing stands in the way. A journey
in an arena ends at the first move of its ideal path into a cell that the arena refuses, or at
the end of that path. `Arena.Ends` says so without walking: it names the first move that fails by
its place among the commands.

* `Arena.outcomeFrom_eq`: a walk ends at the first failing move or at the end of its path.
* `Arena.outcome_eq_iff_ends`: the outcome of a journey is the one that `Arena.Ends` allows.
* `outcomes_follow_ideal_paths`: the same for a simulation of any document.
-/

set_option autoImplicit false

namespace GridWalk

namespace Pose

/-- The pose after a command where nothing stands in the way. -/
def obey (p : Pose) : Command → Pose
  | .left => p.turnLeft
  | .right => p.turnRight
  | .forward => p.ahead

/-- The pose after commands where nothing stands in the way. -/
def obeyAll (p : Pose) (ks : List Command) : Pose :=
  ks.foldl obey p

/-- One command after another. -/
@[simp]
theorem obeyAll_cons (p : Pose) (k : Command) (ks : List Command) :
    p.obeyAll (k :: ks) = (p.obey k).obeyAll ks :=
  rfl

/-- No command, no change. -/
@[simp]
theorem obeyAll_nil (p : Pose) : p.obeyAll [] = p :=
  rfl

/-- The last of the first `i + 1` commands comes after the others. -/
theorem obeyAll_take_succ {p : Pose} {ks : List Command} {i : Nat} {k : Command}
    (h : ks[i]? = some k) : p.obeyAll (ks.take (i + 1)) = (p.obeyAll (ks.take i)).obey k := by
  rw [List.take_add_one, h, obeyAll, List.foldl_append]
  rfl

end Pose

/-- The pose of a journey's ideal path after its first `i` commands. -/
def Journey.idealPose (j : Journey) (i : Nat) : Pose :=
  j.start.obeyAll (j.commands.take i)

/-- The ideal path goes on with the command in its place. -/
theorem Journey.idealPose_succ {j : Journey} {i : Nat} {k : Command} (h : j.commands[i]? = some k) :
    j.idealPose (i + 1) = (j.idealPose i).obey k :=
  Pose.obeyAll_take_succ h

/-- The ideal path ends with all commands carried out. -/
theorem Journey.idealPose_length (j : Journey) :
    j.idealPose j.commands.length = j.start.obeyAll j.commands := by
  rw [idealPose, List.take_length]

namespace Arena

variable {a : Arena}

/-- No robot can enter the cell: it lies off the grid, or an obstacle stands on it. -/
def Refuses (a : Arena) (c : Cell) : Prop :=
  c ∉ a.grid ∨ c ∈ a.obstacles

/-- The other cells lie on the grid and are free. -/
theorem not_refuses_iff {c : Cell} : ¬a.Refuses c ↔ c ∈ a.grid ∧ c ∉ a.obstacles := by
  rw [Refuses, not_or, Classical.not_not]

/-- Of commands from the pose `p`, the one with `i` others before it is a move into a cell that
the arena refuses. -/
def FailsAt (a : Arena) (p : Pose) (ks : List Command) (i : Nat) : Prop :=
  ks[i]? = some .forward ∧ a.Refuses (p.obeyAll (ks.take (i + 1))).cell

/-- The move is the first that fails. -/
def FailsFirstAt (a : Arena) (p : Pose) (ks : List Command) (i : Nat) : Prop :=
  a.FailsAt p ks i ∧ ∀ k < i, ¬a.FailsAt p ks k

/-- How a move fails that leads to the pose: off the grid it is an exit, whether an obstacle is
listed there or not, and on the grid it is a crash. -/
def failure (a : Arena) (p : Pose) : Outcome :=
  if p.cell ∈ a.grid then ⟨.crashed, p⟩ else ⟨.outOfBounds, p⟩

/-- How a journey ends in an arena, told by its ideal path. -/
inductive Ends (a : Arena) (j : Journey) : Outcome → Prop
  /-- An obstacle stands at the start. -/
  | blockedStart (start : j.start.cell ∈ a.obstacles) : Ends a j ⟨.crashed, j.start⟩
  /-- The first move that fails leads off the grid. -/
  | exit {i : Nat} (start : j.start.cell ∉ a.obstacles)
      (first : a.FailsFirstAt j.start j.commands i) (off : (j.idealPose (i + 1)).cell ∉ a.grid) :
      Ends a j ⟨.outOfBounds, j.idealPose (i + 1)⟩
  /-- The first move that fails leads to a cell of the grid. -/
  | crash {i : Nat} (start : j.start.cell ∉ a.obstacles)
      (first : a.FailsFirstAt j.start j.commands i) (on : (j.idealPose (i + 1)).cell ∈ a.grid) :
      Ends a j ⟨.crashed, j.idealPose (i + 1)⟩
  /-- No move fails, and the path ends at the goal. -/
  | success (start : j.start.cell ∉ a.obstacles)
      (none : ∀ i, ¬a.FailsAt j.start j.commands i)
      (goal : j.idealPose j.commands.length = j.goal) :
      Ends a j ⟨.success, j.idealPose j.commands.length⟩
  /-- No move fails, and the path ends elsewhere or with another heading. -/
  | unexpectedEnd (start : j.start.cell ∉ a.obstacles)
      (none : ∀ i, ¬a.FailsAt j.start j.commands i)
      (goal : j.idealPose j.commands.length ≠ j.goal) :
      Ends a j ⟨.unexpectedEnd, j.idealPose j.commands.length⟩

/-- A failed move tells the pose that it would have led to. -/
@[simp]
theorem failure_pose (a : Arena) (p : Pose) : (a.failure p).pose = p := by
  unfold failure
  split <;> rfl

/-- A failed move is no arrival. -/
theorem not_arrived_failure (a : Arena) (p : Pose) :
    ¬((a.failure p).verdict = .success ∨ (a.failure p).verdict = .unexpectedEnd) := by
  unfold failure
  split <;> simp

/-- A robot that has arrived tells where it is. -/
@[simp]
theorem arrive_pose (goal p : Pose) : (arrive goal p).pose = p := by
  unfold arrive
  split <;> rfl

/-- An arrival is no failed move. -/
theorem not_failed_arrive (goal p : Pose) :
    ¬((arrive goal p).verdict = .outOfBounds ∨ (arrive goal p).verdict = .crashed) := by
  unfold arrive
  split <;> simp

/-! ### One step -/

/-- A command fails exactly when it is a move into a refused cell, and leads to the next pose of
the ideal path otherwise. -/
theorem step_cases (a : Arena) (p : Pose) (k : Command) :
    (a.step p k = .ok (p.obey k) ∧ ¬(k = .forward ∧ a.Refuses (p.obey k).cell)) ∨
      (a.step p k = .error (a.failure (p.obey k)) ∧ k = .forward ∧
        a.Refuses (p.obey k).cell) := by
  cases k with
  | left => exact .inl ⟨rfl, by simp⟩
  | right => exact .inl ⟨rfl, by simp⟩
  | forward =>
    -- The grid is looked at first, so an obstacle off the grid makes no difference.
    show (a.advance p = _ ∧ _) ∨ (a.advance p = _ ∧ _)
    simp only [advance, Pose.obey, Refuses, failure, Grid.contains_iff_mem, isBlocked_iff]
    by_cases hgrid : p.ahead.cell ∈ a.grid
    · by_cases hblocked : p.ahead.cell ∈ a.obstacles
      · exact .inr (by simp [hgrid, hblocked])
      · exact .inl (by simp [hgrid, hblocked])
    · exact .inr (by simp [hgrid])

/-- A command leads to the next pose of the ideal path, unless that is a move into a refused
cell. -/
theorem step_eq_ok_iff {p q : Pose} {k : Command} :
    a.step p k = .ok q ↔ q = p.obey k ∧ ¬(k = .forward ∧ a.Refuses (p.obey k).cell) := by
  rcases step_cases a p k with ⟨hstep, hfree⟩ | ⟨hstep, hfails⟩
  · rw [hstep, Except.ok.injEq, eq_comm, and_iff_left hfree]
  · rw [hstep]
    constructor
    · intro h
      cases h
    · intro h
      exact absurd hfails h.2

/-- No command leads from a cell that the arena does not refuse to one that it refuses. -/
theorem step_free {p q : Pose} {k : Command} (h : a.step p k = .ok q)
    (hp : ¬a.Refuses p.cell) : ¬a.Refuses q.cell := by
  obtain ⟨rfl, hfree⟩ := step_eq_ok_iff.mp h
  cases k with
  -- A turn stays in its cell.
  | left => exact hp
  | right => exact hp
  | forward => exact fun hrefuses => hfree ⟨rfl, hrefuses⟩

/-! ### All steps -/

/-- Whether the first command fails can be read off its move. -/
theorem failsAt_zero {p : Pose} {k : Command} {ks : List Command} :
    a.FailsAt p (k :: ks) 0 ↔ k = .forward ∧ a.Refuses (p.obey k).cell := by
  simp [FailsAt]

/-- A later command fails from the first pose when it fails from the second. -/
theorem failsAt_succ {p : Pose} {k : Command} {ks : List Command} {i : Nat} :
    a.FailsAt p (k :: ks) (i + 1) ↔ a.FailsAt (p.obey k) ks i := by
  simp [FailsAt]

/-- A first failure stays the first one behind a command that works. -/
theorem FailsFirstAt.cons {p : Pose} {k : Command} {ks : List Command} {i : Nat}
    (hk : ¬a.FailsAt p (k :: ks) 0) (h : a.FailsFirstAt (p.obey k) ks i) :
    a.FailsFirstAt p (k :: ks) (i + 1) := by
  refine ⟨failsAt_succ.mpr h.1, fun n hn => ?_⟩
  cases n with
  | zero => exact hk
  | succ n => exact fun hfails => h.2 n (Nat.lt_of_succ_lt_succ hn) (failsAt_succ.mp hfails)

/-- Nothing comes before the first command, so its failure is the first one. -/
theorem failsFirstAt_zero {p : Pose} {k : Command} {ks : List Command}
    (h : k = .forward ∧ a.Refuses (p.obey k).cell) : a.FailsFirstAt p (k :: ks) 0 :=
  ⟨failsAt_zero.mpr h, fun n hn => absurd hn (Nat.not_lt_zero n)⟩

/-- Commands end at the first move that fails. If none does, they end where the ideal path
ends. -/
theorem outcomeFrom_eq (a : Arena) (goal p : Pose) (ks : List Command) :
    (∃ i, a.FailsFirstAt p ks i ∧
        a.outcomeFrom goal p ks = a.failure (p.obeyAll (ks.take (i + 1)))) ∨
      ((∀ i, ¬a.FailsAt p ks i) ∧ a.outcomeFrom goal p ks = arrive goal (p.obeyAll ks)) := by
  -- The places of failures shift by one with each command that works.
  induction ks generalizing p with
  | nil =>
    refine .inr ⟨fun i hi => ?_, rfl⟩
    cases hi.1
  | cons k ks ih =>
    rw [outcomeFrom_cons]
    rcases step_cases a p k with ⟨hstep, hfree⟩ | ⟨hstep, hfails⟩
    · rw [hstep]
      have hfree : ¬a.FailsAt p (k :: ks) 0 := fun hfails => hfree (failsAt_zero.mp hfails)
      rcases ih (p.obey k) with ⟨i, hfirst, houtcome⟩ | ⟨hnone, houtcome⟩
      · exact .inl ⟨i + 1, hfirst.cons hfree, houtcome⟩
      · refine .inr ⟨fun i hi => ?_, houtcome⟩
        cases i with
        | zero => exact hfree hi
        | succ i => exact hnone i (failsAt_succ.mp hi)
    · rw [hstep]
      refine .inl ⟨0, failsFirstAt_zero hfails, ?_⟩
      show a.failure (p.obey k) = a.failure (p.obeyAll ((k :: ks).take 1))
      simp

/-- There is one first failure at most. -/
theorem FailsFirstAt.unique {p : Pose} {ks : List Command} {i n : Nat}
    (hi : a.FailsFirstAt p ks i) (hn : a.FailsFirstAt p ks n) : i = n := by
  rcases Nat.lt_trichotomy i n with hlt | heq | hlt
  · exact absurd hi.1 (hn.2 i hlt)
  · exact heq
  · exact absurd hn.1 (hi.2 n hlt)

/-- Where the first failing move is known, so is the outcome. -/
theorem outcomeFrom_of_failsFirstAt {goal p : Pose} {ks : List Command} {i : Nat}
    (h : a.FailsFirstAt p ks i) :
    a.outcomeFrom goal p ks = a.failure (p.obeyAll (ks.take (i + 1))) := by
  rcases outcomeFrom_eq a goal p ks with ⟨n, hfirst, houtcome⟩ | ⟨hnone, -⟩
  · rw [houtcome, hfirst.unique h]
  · exact absurd h.1 (hnone i)

/-- Where no move fails, the ideal path is all there is. -/
theorem outcomeFrom_of_not_failsAt {goal p : Pose} {ks : List Command}
    (h : ∀ i, ¬a.FailsAt p ks i) : a.outcomeFrom goal p ks = arrive goal (p.obeyAll ks) := by
  rcases outcomeFrom_eq a goal p ks with ⟨n, hfirst, -⟩ | ⟨-, houtcome⟩
  · exact absurd hfirst.1 (h n)
  · exact houtcome

/-- A robot that starts on an obstacle crashes there. -/
theorem outcome_of_blocked {j : Journey} (h : j.start.cell ∈ a.obstacles) :
    a.outcome j = ⟨.crashed, j.start⟩ := by
  rw [outcome_eq, if_pos (isBlocked_iff.mpr h)]

/-- Any other robot carries out its commands. -/
theorem outcome_of_free {j : Journey} (h : j.start.cell ∉ a.obstacles) :
    a.outcome j = a.outcomeFrom j.goal j.start j.commands := by
  rw [outcome_eq, if_neg (mt isBlocked_iff.mp h)]

/-- A journey ends as its ideal path tells. -/
theorem ends_outcome (a : Arena) (j : Journey) : a.Ends j (a.outcome j) := by
  by_cases hstart : j.start.cell ∈ a.obstacles
  · rw [outcome_of_blocked hstart]
    exact .blockedStart hstart
  · rw [outcome_of_free hstart]
    rcases outcomeFrom_eq a j.goal j.start j.commands with
      ⟨i, hfirst, houtcome⟩ | ⟨hnone, houtcome⟩
    · rw [houtcome, failure]
      split
      · next hon => exact .crash hstart hfirst hon
      · next hoff => exact .exit hstart hfirst hoff
    · rw [houtcome, arrive, ← j.idealPose_length]
      split
      · next hgoal => exact .success hstart hnone hgoal
      · next hgoal => exact .unexpectedEnd hstart hnone hgoal

/-- Nothing else is told about the journey. -/
theorem Ends.eq_outcome {j : Journey} {o : Outcome} (h : a.Ends j o) : a.outcome j = o := by
  cases h with
  | blockedStart start => exact outcome_of_blocked start
  | exit start first off =>
    rw [outcome_of_free start, outcomeFrom_of_failsFirstAt first]
    exact if_neg off
  | crash start first on =>
    rw [outcome_of_free start, outcomeFrom_of_failsFirstAt first]
    exact if_pos on
  | success start none goal =>
    rw [outcome_of_free start, outcomeFrom_of_not_failsAt none, ← j.idealPose_length]
    exact if_pos goal
  | unexpectedEnd start none goal =>
    rw [outcome_of_free start, outcomeFrom_of_not_failsAt none, ← j.idealPose_length]
    exact if_neg goal

/-- The outcome of a journey is the one that its ideal path tells. -/
theorem outcome_eq_iff_ends {j : Journey} {o : Outcome} : a.outcome j = o ↔ a.Ends j o := by
  constructor
  · rintro rfl
    exact a.ends_outcome j
  · exact Ends.eq_outcome

end Arena

/-- Simulation computes the first failure on the ideal path.

Let a document be given, whatever lies on its grid or off it. Any journey through its arena ends
as `Arena.Ends` tells. It ends at once when its start is one of the listed obstacles. Otherwise
it ends at the first move of its ideal path that leads off the grid, which is an exit, or onto a
listed obstacle, which is a crash. If there is no such move, it ends where its ideal path ends,
and succeeds when that is the goal. A simulation of the document gives these outcomes, one for
each journey and in document order. -/
theorem outcomes_follow_ideal_paths (d : Document) :
    (∀ c, c ∈ d.arena.obstacles ↔ c ∈ d.obstacles) ∧
      (∀ j o, d.arena.outcome j = o ↔ d.arena.Ends j o) ∧
      d.arena.outcomes = d.journeys.map d.arena.outcome :=
  ⟨fun _ => Document.mem_obstacles_arena, fun _ _ => Arena.outcome_eq_iff_ends,
    Arena.outcomes_eq_map d.arena⟩

/-- An obstacle that is listed off the grid is not what stops the robot. -/
example : (Document.arena ⟨⟨1, 1⟩, [⟨0, 1⟩], []⟩).outcome
    ⟨⟨⟨0, 0⟩, .north⟩, [.forward], ⟨⟨0, 1⟩, .north⟩⟩ = ⟨.outOfBounds, ⟨⟨0, 1⟩, .north⟩⟩ := by
  decide

end GridWalk
