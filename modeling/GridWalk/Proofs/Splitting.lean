import GridWalk.Proofs.Lockstep
import GridWalk.Proofs.WayBack

/-!
# `GridWalk.Proofs.Splitting`: journeys cut in two

A list of commands can be cut anywhere. If the first part fails, nothing behind it is looked at:
neither the second part nor the goal. If it does not fail, the second part is a journey of its own
that starts where the first part ends.

That journey asks again whether its start is blocked, and the answer is always no. The robot comes
there by turns, which stay in their cell, and by moves, which enter free cells only. This needs
neither a start on the grid nor a document that passed.

* `Arena.followed`: a journey with the poses that it announces.
* `Arena.FailsFirstAt.followed_eq`: a failure is decided by the commands up to the failing one.
* `Arena.Completes.followed_append`: two parts in a row.
* `journeys_split_anywhere`: both cases of a cut.
-/

set_option autoImplicit false

namespace GridWalk

/-- The poses that have been reached after an event. -/
def Event.follow (ps : List Pose) : Event → List Pose
  | .reached p => ps ++ [p]
  | _ => ps

/-- An observer that writes down the poses that are reached. -/
def Observer.follower : Observer (StateM (List Pose)) :=
  fun _ e => modify fun ps => e.follow ps

/-- How a journey ends, and the poses that it announces on the way. -/
def Arena.followed (a : Arena) (j : Journey) : Outcome × List Pose :=
  (a.travel (Hooks.watching Observer.follower) j).run []

namespace Arena

variable {a : Arena} {p q s t : Pose} {ks ls : List Command} {goal : Pose} {i : Nat}

/-! ### What is announced -/

/-- Of the events of a journey, those between its start and its end are written down. -/
theorem foldl_follow_events (a : Arena) (j : Journey) :
    (a.events j).foldl Event.follow [] = a.reached j := by
  show ((a.reached j).map Event.reached ++ [Event.finished j (a.outcome j)]).foldl Event.follow []
    = a.reached j
  rw [List.foldl_append, List.foldl_map]
  show (a.reached j).foldl (fun ps p => ps ++ [p]) [] = a.reached j
  rw [List.foldl_append_eq_append, ← List.flatMap_def, List.flatMap_singleton', List.nil_append]

/-- The poses that are announced are those that the robot reaches. -/
theorem followed_eq (a : Arena) (j : Journey) : a.followed j = (a.outcome j, a.reached j) := by
  have hkeeps : Observer.Keeps (fun _ => Event.follow) (Observer.silent : Observer Id)
      Observer.follower := fun _ _ _ => rfl
  have hrun := hkeeps.announce_journey_run (fun _ => pure ()) a j []
  rw [foldl_follow_events] at hrun
  rw [followed, travel_eq, StateT.run_bind]
  exact congrArg (fun x => (a.outcome j, x.2)) hrun

/-- A robot that starts on an obstacle does nothing, whatever it is told. -/
theorem followed_of_blocked {j : Journey} (h : j.start.cell ∈ a.obstacles) :
    a.followed j = (⟨.crashed, j.start⟩, []) := by
  rw [followed_eq, outcome_of_blocked h, reached_eq_nil h]

/-- Any other robot reaches its start and the course of its commands. -/
theorem followed_of_free {j : Journey} (h : j.start.cell ∉ a.obstacles) :
    a.followed j = (a.outcomeFrom j.goal j.start j.commands,
      j.start :: a.course j.start j.commands) := by
  rw [followed_eq, outcome_of_free h, reached, if_neg (mt isBlocked_iff.mp h)]

/-! ### A first part that fails -/

/-- Which command fails first does not depend on the commands behind it. -/
theorem FailsFirstAt.of_take_eq (h : a.FailsFirstAt p ks i)
    (htake : ls.take (i + 1) = ks.take (i + 1)) : a.FailsFirstAt p ls i := by
  have hsame : ∀ k ≤ i, a.FailsAt p ls k ↔ a.FailsAt p ks k := by
    intro k hk
    have hcommand : ls[k]? = ks[k]? := by
      have hget := congrArg (fun ms => ms[k]?) htake
      simpa [List.getElem?_take_of_lt (Nat.lt_succ_of_le hk)] using hget
    have hbefore : ls.take (k + 1) = ks.take (k + 1) := by
      have htake' := congrArg (List.take (k + 1)) htake
      simpa [List.take_take, hk] using htake'
    rw [FailsAt, FailsAt, hcommand, hbefore]
  refine ⟨(hsame i (Nat.le_refl i)).mpr h.1, fun k hk => ?_⟩
  rw [hsame k (Nat.le_of_lt hk)]
  exact h.2 k hk

/-- In front of the first failure, a course is the ideal path. -/
theorem FailsFirstAt.course_eq (h : a.FailsFirstAt p ks i) :
    p :: a.course p ks = (List.range (i + 1)).map fun k => p.obeyAll (ks.take k) := by
  obtain ⟨n, -, hcourse, hend⟩ := exists_course_eq a p ks
  rcases hend with hfirst | ⟨-, hnone⟩
  · rw [hcourse, hfirst.unique h]
  · exact absurd h.1 (hnone i)

/-- A journey that fails is told by its commands up to the failing one. -/
theorem FailsFirstAt.followed_eq (h : a.FailsFirstAt s ks i)
    (htake : ls.take (i + 1) = ks.take (i + 1)) (goal goal' : Pose) :
    a.followed ⟨s, ls, goal'⟩ = a.followed ⟨s, ks, goal⟩ := by
  have h' := h.of_take_eq htake
  by_cases hstart : s.cell ∈ a.obstacles
  · rw [followed_of_blocked hstart, followed_of_blocked hstart]
  · have hcourse : s :: a.course s ls = s :: a.course s ks := by
      rw [h'.course_eq, h.course_eq]
      refine List.map_congr_left fun k hk => ?_
      -- Of the commands up to the failing one, the first ones are the same too.
      have hk : k ≤ i + 1 := Nat.le_of_lt (List.mem_range.mp hk)
      have htake' := congrArg (List.take k) htake
      rw [List.take_take, List.take_take, Nat.min_eq_left hk] at htake'
      rw [htake']
    rw [followed_of_free hstart, followed_of_free hstart]
    show (a.outcomeFrom goal' s ls, s :: a.course s ls)
      = (a.outcomeFrom goal s ks, s :: a.course s ks)
    rw [outcomeFrom_of_failsFirstAt h', outcomeFrom_of_failsFirstAt h, htake, hcourse]

/-- A journey from a free cell that fails has a command that fails first. -/
theorem exists_failsFirstAt (hstart : s.cell ∉ a.obstacles)
    (h : (a.followed ⟨s, ks, goal⟩).1.verdict = .outOfBounds ∨
      (a.followed ⟨s, ks, goal⟩).1.verdict = .crashed) :
    ∃ i, a.FailsFirstAt s ks i := by
  rw [followed_of_free hstart] at h
  rcases outcomeFrom_eq a goal s ks with ⟨i, hfirst, -⟩ | ⟨-, harrives⟩
  · exact ⟨i, hfirst⟩
  · rw [harrives] at h
    exact absurd h (not_failed_arrive goal (s.obeyAll ks))

/-! ### A first part that is carried out -/

/-- No command leads from a free cell onto an obstacle, on the grid or off it. -/
theorem step_not_mem_obstacles {k : Command} (h : a.step p k = .ok q)
    (hp : p.cell ∉ a.obstacles) : q.cell ∉ a.obstacles := by
  obtain ⟨rfl, hfree⟩ := step_eq_ok_iff.mp h
  cases k with
  -- A turn stays in its cell.
  | left => exact hp
  | right => exact hp
  | forward => exact fun hmem => hfree ⟨rfl, .inr hmem⟩

/-- Commands that are all carried out lead from a free cell onto no obstacle. -/
theorem Completes.not_mem_obstacles (h : a.Completes p ks q) (hp : p.cell ∉ a.obstacles) :
    q.cell ∉ a.obstacles := by
  induction h with
  | nil => exact hp
  | cons first _ ih => exact ih (step_not_mem_obstacles first hp)

/-- Behind commands that are all carried out, the others decide how the journey ends. -/
theorem Completes.outcomeFrom_append (h : a.Completes p ks q) (goal : Pose)
    (ls : List Command) : a.outcomeFrom goal p (ks ++ ls) = a.outcomeFrom goal q ls := by
  induction h with
  | nil => rfl
  | cons first _ ih =>
    rw [List.cons_append, outcomeFrom_cons, first]
    exact ih

/-- The courses of two parts stand in a row. -/
theorem Completes.course_append (h : a.Completes p ks q) (ls : List Command) :
    a.course p (ks ++ ls) = a.course p ks ++ a.course q ls := by
  induction h with
  | nil => rfl
  | cons first _ ih =>
    rw [List.cons_append, course_of_ok first, course_of_ok first, ih, List.cons_append]

/-- A course ends where its commands lead. -/
theorem Completes.getLast?_course (h : a.Completes p ks q) :
    (p :: a.course p ks).getLast? = some q := by
  induction h with
  | nil => rfl
  | cons first _ ih => rw [course_of_ok first, List.getLast?_cons_cons, ih]

/-- Two parts in a row, the first of which is carried out. -/
theorem Completes.followed_append (h : a.Completes s ks t) (hstart : s.cell ∉ a.obstacles)
    (goal goal' : Pose) (ls : List Command) :
    a.followed ⟨s, ks ++ ls, goal'⟩ = ((a.followed ⟨t, ls, goal'⟩).1,
      (a.followed ⟨s, ks, goal⟩).2 ++ (a.followed ⟨t, ls, goal'⟩).2.tail) := by
  have hrestart : t.cell ∉ a.obstacles := h.not_mem_obstacles hstart
  rw [followed_of_free (j := ⟨s, ks ++ ls, goal'⟩) hstart, followed_of_free (j := ⟨s, ks, goal⟩)
    hstart, followed_of_free (j := ⟨t, ls, goal'⟩) hrestart]
  show (a.outcomeFrom goal' s (ks ++ ls), s :: a.course s (ks ++ ls))
    = (a.outcomeFrom goal' t ls, s :: a.course s ks ++ a.course t ls)
  rw [h.outcomeFrom_append, h.course_append, List.cons_append]

end Arena

/-- A journey can be cut at any of its commands.

Let a robot start anywhere in any arena, for instance in that of a document that nobody checked,
and let it carry out some commands.

If it fails, by a crash at its start, a crash on its way or an exit, then further commands and
another goal change nothing: the outcome is the same, and so are the poses that are reached. The
commands behind the failing one could as well have been others.

If it does not fail, it has arrived somewhere. With further commands it ends as the journey of
these commands does from there, and it reaches the poses of that journey behind its own, where the
start of the second journey is the last pose of the first. -/
theorem journeys_split_anywhere (a : Arena) (s : Pose) (ks : List Command) (goal : Pose) :
    ((a.followed ⟨s, ks, goal⟩).1.verdict = .outOfBounds ∨
        (a.followed ⟨s, ks, goal⟩).1.verdict = .crashed →
      (∀ ls goal', a.followed ⟨s, ks ++ ls, goal'⟩ = a.followed ⟨s, ks, goal⟩) ∧
        ∃ n, ((s.cell ∈ a.obstacles ∧ n = 0) ∨
            (s.cell ∉ a.obstacles ∧ ∃ i, a.FailsFirstAt s ks i ∧ n = i + 1)) ∧
          ∀ ls goal', a.followed ⟨s, ks.take n ++ ls, goal'⟩ = a.followed ⟨s, ks, goal⟩) ∧
      ∀ t, (a.followed ⟨s, ks, goal⟩).1 = ⟨.success, t⟩ ∨
          (a.followed ⟨s, ks, goal⟩).1 = ⟨.unexpectedEnd, t⟩ →
        ∀ ls goal',
          (a.followed ⟨s, ks ++ ls, goal'⟩).1 = (a.followed ⟨t, ls, goal'⟩).1 ∧
            (a.followed ⟨s, ks ++ ls, goal'⟩).2
              = (a.followed ⟨s, ks, goal⟩).2 ++ (a.followed ⟨t, ls, goal'⟩).2.tail ∧
            (a.followed ⟨s, ks, goal⟩).2.getLast? = some t ∧
            (a.followed ⟨t, ls, goal'⟩).2.head? = some t := by
  constructor
  · intro hfails
    by_cases hstart : s.cell ∈ a.obstacles
    · have hblocked : ∀ ls goal', a.followed ⟨s, ls, goal'⟩ = a.followed ⟨s, ks, goal⟩ := by
        intro ls goal'
        rw [Arena.followed_of_blocked hstart, Arena.followed_of_blocked hstart]
      exact ⟨fun ls => hblocked (ks ++ ls), 0, .inl ⟨hstart, rfl⟩,
        fun ls => hblocked (ks.take 0 ++ ls)⟩
    · obtain ⟨i, hfirst⟩ := Arena.exists_failsFirstAt hstart hfails
      have hlt : i < ks.length := (List.getElem?_eq_some_iff.mp hfirst.1.1).1
      refine ⟨fun ls goal' => ?_, i + 1, .inr ⟨hstart, i, hfirst, rfl⟩, fun ls goal' => ?_⟩
      · exact hfirst.followed_eq (List.take_append_of_le_length hlt) goal goal'
      · refine hfirst.followed_eq ?_ goal goal'
        rw [List.take_left' (List.length_take_of_le hlt)]
  · intro t harrives ls goal'
    rw [Arena.followed_eq] at harrives
    obtain ⟨hstart, hcompletes⟩ := Arena.completes_of_outcome harrives
    have hrestart : t.cell ∉ a.obstacles := hcompletes.not_mem_obstacles hstart
    rw [hcompletes.followed_append hstart goal goal' ls]
    refine ⟨rfl, rfl, ?_, ?_⟩
    · rw [Arena.followed_of_free hstart]
      exact hcompletes.getLast?_course
    · rw [Arena.followed_of_free hrestart]
      rfl

/-- A robot in a room of three cells in a row, the last of them blocked. The first part leads to the
middle cell, and the second part crashes from there. What comes behind the crash does not
matter. -/
theorem journeys_split_anywhere_crash :
    (Arena.followed ⟨⟨3, 1⟩, CellSet.ofList [⟨2, 0⟩], []⟩
        ⟨⟨⟨0, 0⟩, .north⟩, [.right, .forward], ⟨⟨0, 0⟩, .north⟩⟩).1
          = ⟨.unexpectedEnd, ⟨⟨1, 0⟩, .east⟩⟩ ∧
      Arena.followed ⟨⟨3, 1⟩, CellSet.ofList [⟨2, 0⟩], []⟩
        ⟨⟨⟨0, 0⟩, .north⟩, [.right, .forward, .forward], ⟨⟨1, 0⟩, .east⟩⟩
          = (⟨.crashed, ⟨⟨2, 0⟩, .east⟩⟩,
            [⟨⟨0, 0⟩, .north⟩, ⟨⟨0, 0⟩, .east⟩, ⟨⟨1, 0⟩, .east⟩]) ∧
      ∀ ls goal', Arena.followed ⟨⟨3, 1⟩, CellSet.ofList [⟨2, 0⟩], []⟩
        ⟨⟨⟨0, 0⟩, .north⟩, [.right, .forward, .forward] ++ ls, goal'⟩
          = (⟨.crashed, ⟨⟨2, 0⟩, .east⟩⟩,
            [⟨⟨0, 0⟩, .north⟩, ⟨⟨0, 0⟩, .east⟩, ⟨⟨1, 0⟩, .east⟩]) := by
  have hfirst : (Arena.followed ⟨⟨3, 1⟩, CellSet.ofList [⟨2, 0⟩], []⟩
      ⟨⟨⟨0, 0⟩, .north⟩, [.right, .forward], ⟨⟨0, 0⟩, .north⟩⟩).1
        = ⟨.unexpectedEnd, ⟨⟨1, 0⟩, .east⟩⟩ := by
    decide
  have hboth : Arena.followed ⟨⟨3, 1⟩, CellSet.ofList [⟨2, 0⟩], []⟩
      ⟨⟨⟨0, 0⟩, .north⟩, [.right, .forward, .forward], ⟨⟨1, 0⟩, .east⟩⟩
        = (⟨.crashed, ⟨⟨2, 0⟩, .east⟩⟩,
          [⟨⟨0, 0⟩, .north⟩, ⟨⟨0, 0⟩, .east⟩, ⟨⟨1, 0⟩, .east⟩]) := by
    -- The second part is a journey of its own, from the middle cell.
    have hcut := (journeys_split_anywhere ⟨⟨3, 1⟩, CellSet.ofList [⟨2, 0⟩], []⟩ ⟨⟨0, 0⟩, .north⟩
      [.right, .forward] ⟨⟨0, 0⟩, .north⟩).2 ⟨⟨1, 0⟩, .east⟩ (.inr hfirst) [.forward]
        ⟨⟨1, 0⟩, .east⟩
    exact Prod.ext (hcut.1.trans (by decide)) (hcut.2.1.trans (by decide))
  refine ⟨hfirst, hboth, fun ls goal' => ?_⟩
  have hstop := (journeys_split_anywhere ⟨⟨3, 1⟩, CellSet.ofList [⟨2, 0⟩], []⟩ ⟨⟨0, 0⟩, .north⟩
    [.right, .forward, .forward] ⟨⟨1, 0⟩, .east⟩).1 (.inr (by decide))
  rw [hstop.1 ls goal', hboth]

end GridWalk
