import GridWalk.Observer.Recorder
import GridWalk.Proofs.Accounts
import GridWalk.Proofs.IdealPath
import GridWalk.Proofs.Violations

/-!
# `GridWalk.Proofs.Trajectories`: the recorder keeps what the robots do

A recorder sees only events. It collects the poses of a journey until the journey is finished, and
then puts them away and starts with nothing again. So its paths are the courses of the journeys,
each with its start in front. A course follows the commands up to the first that fails, and the
path of a journey tells how the journey ended.

* `Arena.exists_course_eq`: a course is the ideal path up to the first move that fails.
* `Arena.course_cases`: how long a course is, and how the journey ends behind it.
* `Arena.IsTrip`: a path and an outcome that belong to a journey.
* `Recorder.foldl_events`: a whole journey leaves its path and its outcome behind, and nothing
  else.
* `recorder_keeps_trips`: all this for a simulation of a document that passed.
-/

set_option autoImplicit false

namespace GridWalk

namespace Arena

variable {a : Arena} {p q : Pose} {k : Command} {ks : List Command}

/-! ### Courses -/

theorem course_of_ok (h : a.step p k = .ok q) :
    a.course p (k :: ks) = q :: a.course q ks := by
  rw [course, h]

theorem course_of_error {o : Outcome} (h : a.step p k = .error o) :
    a.course p (k :: ks) = [] := by
  rw [course, h]

/-- With its start in front, a course is the ideal path up to the first move that fails. -/
theorem exists_course_eq (a : Arena) (p : Pose) (ks : List Command) :
    ∃ n ≤ ks.length, p :: a.course p ks = (List.range (n + 1)).map (fun i => p.obeyAll (ks.take i)) ∧
      (a.FailsFirstAt p ks n ∨ n = ks.length ∧ ∀ i, ¬a.FailsAt p ks i) := by
  -- As for the outcome alone, the place of the failure shifts with each command that works.
  induction ks generalizing p with
  | nil =>
    refine ⟨0, Nat.le_refl 0, rfl, .inr ⟨rfl, fun i hi => ?_⟩⟩
    cases hi.1
  | cons k ks ih =>
    rcases step_cases a p k with ⟨hstep, hfree⟩ | ⟨hstep, hfails⟩
    · have hfree : ¬a.FailsAt p (k :: ks) 0 := mt failsAt_zero.mp hfree
      obtain ⟨n, hn, hcourse, hend⟩ := ih (p.obey k)
      refine ⟨n + 1, Nat.succ_le_succ hn, ?_, ?_⟩
      · rw [course_of_ok hstep, hcourse, List.range_succ_eq_map (n := n + 1), List.map_cons,
          List.map_map]
        rfl
      · rcases hend with hfirst | ⟨rfl, hnone⟩
        · exact .inl (hfirst.cons hfree)
        · refine .inr ⟨rfl, fun i hi => ?_⟩
          cases i with
          | zero => exact hfree hi
          | succ i => exact hnone i (failsAt_succ.mp hi)
    · rw [course_of_error hstep]
      exact ⟨0, Nat.zero_le _, rfl, .inl (failsFirstAt_zero hfails)⟩

/-- Each pose of a course comes from the one before it by the command in its place. -/
theorem course_step {i : Nat} {r : Pose} (h : (p :: a.course p ks)[i]? = some q)
    (hnext : (a.course p ks)[i]? = some r) : ∃ k, ks[i]? = some k ∧ r = q.obey k := by
  obtain ⟨n, hn, hpath, -⟩ := exists_course_eq a p ks
  rw [← List.getElem?_cons_succ (a := p)] at hnext
  rw [hpath, List.getElem?_map, Option.map_eq_some_iff] at h hnext
  obtain ⟨k, hi, rfl⟩ := h
  obtain ⟨l, hi', rfl⟩ := hnext
  obtain ⟨-, rfl⟩ := List.getElem?_eq_some_iff.mp hi
  obtain ⟨hlt, rfl⟩ := List.getElem?_eq_some_iff.mp hi'
  rw [List.length_range] at hlt
  have hk : ks[i]? = some ks[i] := List.getElem?_eq_getElem (by omega)
  rw [List.getElem_range, List.getElem_range]
  exact ⟨ks[i], hk, Pose.obeyAll_take_succ hk⟩

/-- A course never enters a cell that the arena refuses. -/
theorem course_free (hp : ¬a.Refuses p.cell) : ∀ q ∈ a.course p ks, ¬a.Refuses q.cell := by
  induction ks generalizing p with
  | nil =>
    intro q hq
    cases hq
  | cons k ks ih =>
    intro q hq
    cases hstep : a.step p k with
    | error o =>
      rw [course_of_error hstep] at hq
      cases hq
    | ok r =>
      rw [course_of_ok hstep] at hq
      have hr := step_free hstep hp
      rcases List.mem_cons.mp hq with rfl | hq
      · exact hr
      · exact ih hr q hq

/-- A course has one pose for each command in front of the first that fails, and the journey fails
where that command would lead from its last pose. If none fails, the journey ends at its last
pose. -/
theorem course_cases (a : Arena) (goal p : Pose) (ks : List Command) :
    ∃ last, (p :: a.course p ks).getLast? = some last ∧
      ((∃ i, a.FailsFirstAt p ks i ∧ (a.course p ks).length = i ∧
          a.outcomeFrom goal p ks = a.failure last.ahead) ∨
        ((a.course p ks).length = ks.length ∧ a.outcomeFrom goal p ks = arrive goal last)) := by
  obtain ⟨n, -, hpath, hend⟩ := exists_course_eq a p ks
  have hlength : (a.course p ks).length = n := by
    simpa using congrArg List.length hpath
  refine ⟨p.obeyAll (ks.take n), ?_, ?_⟩
  · rw [hpath, List.range_succ, List.map_append]
    simp
  · rcases hend with hfirst | ⟨rfl, hnone⟩
    · refine .inl ⟨n, hfirst, hlength, ?_⟩
      rw [outcomeFrom_of_failsFirstAt hfirst, Pose.obeyAll_take_succ hfirst.1.1]
      rfl
    · refine .inr ⟨hlength, ?_⟩
      rw [outcomeFrom_of_not_failsAt hnone, List.take_length]

/-! ### Trips -/

/-- The poses of a journey: its start, and its course if the start is free. -/
def path (a : Arena) (j : Journey) : List Pose :=
  j.start :: if a.isBlocked j.start.cell then [] else a.course j.start j.commands

/-- The path and the outcome belong to the journey. -/
structure IsTrip (a : Arena) (j : Journey) (path : List Pose) (o : Outcome) : Prop where
  /-- The path starts where the journey starts. -/
  head : path.head? = some j.start
  /-- The robot gets from pose to pose by one command after the other. -/
  step {i : Nat} {p q : Pose} : path[i]? = some p → path[i + 1]? = some q →
    ∃ k, j.commands[i]? = some k ∧ q = p.obey k
  /-- The robot stays on the grid. -/
  inside : ∀ p ∈ path, p.cell ∈ a.grid
  /-- A robot that starts on an obstacle goes nowhere. -/
  blocked : j.start.cell ∈ a.obstacles → path = [j.start] ∧ o = ⟨.crashed, j.start⟩
  /-- Any other robot never is on an obstacle. -/
  free : j.start.cell ∉ a.obstacles → ∀ p ∈ path, p.cell ∉ a.obstacles
  /-- A robot that has carried out all commands is where the outcome says. -/
  arrived : j.start.cell ∉ a.obstacles → o.verdict = .success ∨ o.verdict = .unexpectedEnd →
    path.length = 1 + j.commands.length ∧ path.getLast? = some o.pose
  /-- A robot that failed stands in front of the pose that the outcome says, with all commands
  carried out that come before the failing one. -/
  failed : j.start.cell ∉ a.obstacles → o.verdict = .outOfBounds ∨ o.verdict = .crashed →
    ∃ last i, path.getLast? = some last ∧ o.pose = last.ahead ∧
      a.FailsFirstAt j.start j.commands i ∧ path.length = i + 1

/-- A robot that starts on an obstacle. -/
theorem isTrip_of_blocked {j : Journey} (hstart : j.start.cell ∈ a.grid)
    (hblocked : j.start.cell ∈ a.obstacles) : a.IsTrip j (a.path j) (a.outcome j) := by
  have hpath : a.path j = [j.start] := by rw [path, if_pos (isBlocked_iff.mpr hblocked)]
  rw [hpath, outcome_of_blocked hblocked]
  refine ⟨rfl, fun _ hnext => (nomatch hnext), ?_, fun _ => ⟨rfl, rfl⟩, fun h => absurd hblocked h,
    fun h => absurd hblocked h, fun h => absurd hblocked h⟩
  intro p hp
  rw [List.mem_singleton.mp hp]
  exact hstart

/-- A robot that starts on a free cell. -/
theorem isTrip_of_free {j : Journey} (hstart : j.start.cell ∈ a.grid)
    (hfree : j.start.cell ∉ a.obstacles) : a.IsTrip j (a.path j) (a.outcome j) := by
  have hpath : a.path j = j.start :: a.course j.start j.commands := by
    rw [path, if_neg (mt isBlocked_iff.mp hfree)]
  have houtcome : a.outcome j = a.outcomeFrom j.goal j.start j.commands := outcome_of_free hfree
  have hclear : ∀ p ∈ a.path j, ¬a.Refuses p.cell := by
    have hp : ¬a.Refuses j.start.cell := not_refuses_iff.mpr ⟨hstart, hfree⟩
    intro p hmem
    rw [hpath] at hmem
    rcases List.mem_cons.mp hmem with rfl | hmem
    · exact hp
    · exact course_free hp p hmem
  obtain ⟨last, hlast, hends⟩ := course_cases a j.goal j.start j.commands
  rw [← hpath] at hlast
  refine ⟨by rw [hpath]; rfl, ?_, ?_, fun h => absurd h hfree, ?_, ?_, ?_⟩
  · intro i p q hp hq
    rw [hpath] at hp hq
    exact course_step hp hq
  · exact fun p hp => (not_refuses_iff.mp (hclear p hp)).1
  · exact fun _ p hp => (not_refuses_iff.mp (hclear p hp)).2
  · intro _ hverdict
    rcases hends with ⟨i, -, -, hfails⟩ | ⟨hlength, harrives⟩
    · rw [houtcome, hfails] at hverdict
      exact absurd hverdict (a.not_arrived_failure last.ahead)
    · rw [houtcome, harrives, arrive_pose, hpath, List.length_cons, hlength, Nat.add_comm, ← hpath]
      exact ⟨rfl, hlast⟩
  · intro _ hverdict
    rcases hends with ⟨i, hfirst, hlength, hfails⟩ | ⟨-, harrives⟩
    · refine ⟨last, i, hlast, ?_, hfirst, ?_⟩
      · rw [houtcome, hfails, failure_pose]
      · rw [hpath, List.length_cons, hlength]
    · rw [houtcome, harrives] at hverdict
      exact absurd hverdict (not_failed_arrive j.goal last)

/-- What a simulation tells about a journey with a start on the grid belongs to that journey. -/
theorem isTrip_path {j : Journey} (hstart : j.start.cell ∈ a.grid) :
    a.IsTrip j (a.path j) (a.outcome j) := by
  by_cases hblocked : j.start.cell ∈ a.obstacles
  · exact isTrip_of_blocked hstart hblocked
  · exact isTrip_of_free hstart hblocked

end Arena

/-! ### The recorder -/

namespace Recorder

/-- Poses that are reached go behind those that are there. -/
theorem foldl_reached (r : Recorder) (ps : List Pose) :
    (ps.map Event.reached).foldl note r = { r with current := r.current ++ ps.toArray } := by
  induction ps generalizing r with
  | nil => simp
  | cons p ps ih =>
    rw [List.map_cons, List.foldl_cons, ih]
    simp [note]

/-- A journey leaves its path and its outcome behind, whatever was collected before it. -/
theorem foldl_events (r : Recorder) (a : Arena) (j : Journey) :
    (a.events j).foldl note r = ⟨r.paths.push (a.path j), r.outcomes.push (a.outcome j), #[]⟩ := by
  have hpath : (if (a.reached j).toArray.isEmpty then [j.start] else (a.reached j).toArray.toList)
      = a.path j := by
    unfold Arena.reached Arena.path
    split <;> rfl
  rw [Arena.events, List.cons_append, List.foldl_cons, List.foldl_append, foldl_reached, ← hpath]
  simp [note]

/-- All journeys leave their paths and their outcomes behind, in their order. -/
theorem foldl_journeys (a : Arena) (js : List Journey) (paths : Array (List Pose))
    (outcomes : Array Outcome) :
    js.foldl (fun r j => (a.events j).foldl note r) ⟨paths, outcomes, #[]⟩
      = ⟨paths ++ (js.map a.path).toArray, outcomes ++ (js.map a.outcome).toArray, #[]⟩ := by
  induction js generalizing paths outcomes with
  | nil => simp
  | cons j js ih =>
    rw [List.foldl_cons, foldl_events, ih]
    simp

/-- The events of all journeys leave in a fresh recorder their paths and their outcomes. -/
theorem foldl_flatMap_events (a : Arena) (js : List Journey) :
    (js.flatMap a.events).foldl note empty
      = ⟨(js.map a.path).toArray, (js.map a.outcome).toArray, #[]⟩ := by
  rw [List.foldl_flatMap, empty, foldl_journeys, Array.empty_append, Array.empty_append]

end Recorder

/-- A simulation with a fresh recorder, and what the recorder keeps of it. -/
def Arena.recorded (a : Arena) : List Outcome × Recorder :=
  (a.simulate (m := StateM Recorder) (Hooks.watching Recorder.observer)).run Recorder.empty

/-- The recorder keeps one path and one outcome for each journey. -/
theorem Arena.recorded_eq (a : Arena) :
    a.recorded = (a.journeys.map a.outcome,
      ⟨(a.journeys.map a.path).toArray, (a.journeys.map a.outcome).toArray, #[]⟩) := by
  have hkeeps : Observer.Keeps (fun _ => Recorder.note) (Observer.silent : Observer Id)
      Recorder.observer := fun _ _ _ => rfl
  have hrun := hkeeps.forM_announce_run (fun _ => pure ()) a a.journeys Recorder.empty
  rw [Recorder.foldl_flatMap_events] at hrun
  rw [recorded, simulate_eq, StateT.run_bind]
  exact congrArg (fun x => (a.journeys.map a.outcome, x.2)) hrun

/-- What the recorder keeps are the ways that the robots really go.

Let a document pass, and let its journeys be driven with a fresh recorder. The recorder has then
one path and one outcome for each journey, in document order, and the outcomes are those that the
simulation gives. Each path with its outcome belongs to the journey in its place: `Arena.IsTrip`
says what that means for the poses, for the grid and the obstacles, and for the end. -/
theorem recorder_keeps_trips {d : Document} {a : Arena} (h : d.check = .ok a) :
    a.recorded.1 = a.outcomes ∧
      a.recorded.2.outcomes.toList = a.recorded.1 ∧
      a.recorded.2.outcomes.size = d.journeys.length ∧
      a.recorded.2.paths.size = d.journeys.length ∧
      ∀ (i : Nat) (j : Journey), d.journeys[i]? = some j →
        ∃ path o, a.recorded.2.paths[i]? = some path ∧ a.recorded.2.outcomes[i]? = some o ∧
          a.IsTrip j path o := by
  obtain ⟨hsound, rfl⟩ := Document.check_eq_ok_iff_sound.mp h
  have hjourneys : d.arena.journeys = d.journeys := rfl
  rw [Arena.recorded_eq, Arena.outcomes_eq_map, hjourneys]
  refine ⟨rfl, rfl, by simp, by simp, fun i j hj => ?_⟩
  have hstart : j.start.cell ∈ d.arena.grid := hsound.start_mem j (List.mem_of_getElem? hj)
  exact ⟨d.arena.path j, d.arena.outcome j, by simp [hj], by simp [hj],
    Arena.isTrip_path hstart⟩

/-- A robot that moves against an obstacle, and one that starts on it. -/
theorem recorder_keeps_trips_obstacle :
    ∃ a, Document.check ⟨⟨2, 1⟩, [⟨1, 0⟩], [⟨⟨⟨0, 0⟩, .east⟩, [.forward], ⟨⟨0, 0⟩, .east⟩⟩,
        ⟨⟨⟨1, 0⟩, .north⟩, [.left], ⟨⟨1, 0⟩, .west⟩⟩]⟩ = .ok a ∧
      a.recorded.2.paths.size = 2 ∧ a.recorded.2.paths[1]? = some [⟨⟨1, 0⟩, .north⟩] := by
  have hcheck := Document.check_eq_ok_iff.mpr ⟨by decide, Eq.refl (Document.arena
    ⟨⟨2, 1⟩, [⟨1, 0⟩], [⟨⟨⟨0, 0⟩, .east⟩, [.forward], ⟨⟨0, 0⟩, .east⟩⟩,
      ⟨⟨⟨1, 0⟩, .north⟩, [.left], ⟨⟨1, 0⟩, .west⟩⟩]⟩)⟩
  obtain ⟨-, -, -, hsize, htrips⟩ := recorder_keeps_trips hcheck
  obtain ⟨path, o, hpath, -, htrip⟩ := htrips 1 _ rfl
  rw [(htrip.blocked (by decide)).1] at hpath
  exact ⟨_, hcheck, hsize, hpath⟩

end GridWalk
