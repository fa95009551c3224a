import GridWalk.Proofs.CommandLine
import GridWalk.Proofs.RunShapes
import GridWalk.Proofs.Trajectories
import Mathlib.Data.List.Basic

/-!
# `GridWalk.Proofs.Drawings`: a drawing shows the real walks

What is drawn of a journey comes from the path that the recorder has kept, pose by pose. The path is
the ideal path up to the last command that the robot carried out, so what is drawn can be said
without the recorder: `Journey.strokes` has one stroke for each of these commands that is a move.
The strokes lie end to end because a turn leaves the robot in its cell.

* `Arena.CarriesOut`: how many commands a robot carries out.
* `Plot.way_eq`: the calls for a path are those for its strokes.
* `Arena.isDrawn`: where the strokes lie, and where the cross of a failure stands.
* `drawing_shows_walks`: the drawing of a text, journey by journey.
-/

set_option autoImplicit false

namespace GridWalk

/-- The cells have a side in common. -/
def Cell.IsBeside (c d : Cell) : Prop :=
  (c.x - d.x).natAbs + (c.y - d.y).natAbs = 1

/-- The points are one cell apart, on a line along one of the axes. -/
def Point.IsUnitFrom (p q : Point) : Prop :=
  (p.x = q.x ∧ (p.y.count - q.y.count).natAbs = 100) ∨
    (p.y = q.y ∧ (p.x.count - q.x.count).natAbs = 100)

/-- The point lies within the axes for the grid. -/
def Grid.Shows (g : Grid) (p : Point) : Prop :=
  (0 ≤ p.x.count ∧ p.x.count ≤ 100 * g.width) ∧ 0 ≤ p.y.count ∧ p.y.count ≤ 100 * g.height

/-- The point of a cell that is so many hundredths east and north of its south-west corner. -/
def Cell.spot (c : Cell) (east north : Int) : Point :=
  ⟨⟨100 * c.x + east⟩, ⟨100 * c.y + north⟩⟩

/-- A line from cell to cell. -/
structure Stroke where
  origin : Cell
  target : Cell
  shade : Nat

/-- The call that draws the line, from centre to centre. -/
def Stroke.call (s : Stroke) : DrawCall :=
  .line (s.origin.spot 50 50) (s.target.spot 50 50) s.shade

/-- The strokes lead from the first cell to the last: the first stroke starts at the first cell,
each other one starts where the one before it ends, and the last one ends at the last cell. Without
strokes the two cells are the same. -/
inductive Leads (c : Cell) : List Stroke → Cell → Prop
  | nil : Leads c [] c
  | snoc {strokes : List Stroke} {s : Stroke} : Leads c strokes s.origin →
      Leads c (strokes ++ [s]) s.target

/-- Only journeys are drawn with calls of this kind. -/
def DrawCall.isOfJourney : DrawCall → Bool
  | line _ _ _ | mark _ _ _ | label _ _ | arrow _ _ _ => true
  | _ => false

/-- The strokes for the first `n` commands of a journey where nothing stands in the way, one for
each move. The shade of a stroke depends on the place of its command. -/
def Journey.strokes (j : Journey) (shade : Nat → Nat) (n : Nat) : List Stroke :=
  (List.range n).filterMap fun i =>
    if j.commands[i]? = some .forward then
      some ⟨(j.idealPose i).cell, (j.idealPose (i + 1)).cell, shade i⟩
    else none

/-- A robot carries out the first `n` commands of its journey and no more. -/
inductive Arena.CarriesOut (a : Arena) (j : Journey) : Nat → Prop
  /-- An obstacle stands at the start. -/
  | blocked (start : j.start.cell ∈ a.obstacles) : CarriesOut a j 0
  /-- The command behind them is the first that fails. -/
  | failed {n : Nat} (start : j.start.cell ∉ a.obstacles)
      (first : a.FailsFirstAt j.start j.commands n) : CarriesOut a j n
  /-- No command fails. -/
  | all (start : j.start.cell ∉ a.obstacles) (none : ∀ i, ¬a.FailsAt j.start j.commands i) :
      CarriesOut a j j.commands.length

namespace Pose

/-- A move leads to a cell beside. -/
theorem isBeside_ahead (p : Pose) : p.cell.IsBeside p.ahead.cell := by
  unfold Cell.IsBeside ahead
  cases p.heading <;> simp only [Heading.dx, Heading.dy] <;> omega

/-- A move leads to another cell. -/
theorem cell_ne_ahead (p : Pose) : p.cell ≠ p.ahead.cell := by
  intro heq
  have hbeside := p.isBeside_ahead
  rw [← heq] at hbeside
  simp [Cell.IsBeside] at hbeside

end Pose

/-! ### Strokes -/

/-- The centres of cells beside each other are one cell apart. -/
theorem Cell.IsBeside.isUnitFrom {c d : Cell} (h : c.IsBeside d) :
    (c.spot 50 50).IsUnitFrom (d.spot 50 50) := by
  unfold IsBeside at h
  simp only [Point.IsUnitFrom, Cell.spot, Hundredths.mk.injEq]
  omega

/-- The centre of a cell of the grid lies within the axes. -/
theorem Grid.shows_centre {g : Grid} {c : Cell} (h : c ∈ g) : g.Shows (c.spot 50 50) := by
  rw [mem_iff] at h
  simp only [Shows, Cell.spot]
  omega

namespace Journey

variable {j : Journey} {shade : Nat → Nat} {n : Nat}

/-- A move adds a stroke behind the others, and a turn adds none. -/
theorem strokes_succ (j : Journey) (shade : Nat → Nat) (n : Nat) :
    j.strokes shade (n + 1) = j.strokes shade n ++
      if j.commands[n]? = some .forward then
        [⟨(j.idealPose n).cell, (j.idealPose (n + 1)).cell, shade n⟩]
      else [] := by
  rw [strokes, List.range_succ, List.filterMap_append]
  split <;> simp [strokes, *]

/-- Each stroke is that of a move. -/
theorem mem_strokes {s : Stroke} (h : s ∈ j.strokes shade n) :
    ∃ i < n, j.commands[i]? = some .forward ∧
      s = ⟨(j.idealPose i).cell, (j.idealPose (i + 1)).cell, shade i⟩ := by
  obtain ⟨i, hi, hs⟩ := List.mem_filterMap.mp h
  rw [Option.ite_none_right_eq_some, Option.some.injEq] at hs
  exact ⟨i, List.mem_range.mp hi, hs.1, hs.2.symm⟩

/-- There are as many strokes as moves. -/
theorem length_strokes (j : Journey) (shade : Nat → Nat) (n : Nat) :
    (j.strokes shade n).length = (j.commands.take n).count .forward := by
  induction n with
  | zero => rfl
  | succ n ih =>
    rw [strokes_succ, List.length_append, ih, List.take_add_one, List.count_append]
    cases j.commands[n]? with
    | none => simp
    | some k => cases k <;> simp

/-- The strokes lead along the ideal path. -/
theorem leads_strokes (h : n ≤ j.commands.length) :
    Leads j.start.cell (j.strokes shade n) (j.idealPose n).cell := by
  induction n with
  | zero => exact .nil
  | succ n ih =>
    have ih := ih (Nat.le_of_succ_le h)
    have hk : j.commands[n]? = some j.commands[n] := List.getElem?_eq_getElem h
    rw [strokes_succ, hk, idealPose_succ hk]
    cases j.commands[n] with
    -- A turn stays in its cell, where the strokes have ended.
    | left => simpa [Pose.obey, Pose.turnLeft] using ih
    | right => simpa [Pose.obey, Pose.turnRight] using ih
    | forward => exact .snoc ih

/-- Later strokes have the shades of later places. -/
theorem pairwise_strokes (h : ∀ i k, i ≤ k → shade i ≤ shade k) :
    (j.strokes shade n).Pairwise fun s t => s.shade ≤ t.shade := by
  refine List.Pairwise.filterMap _ ?_ List.pairwise_lt_range
  intro i k hik s hs t ht
  rw [Option.ite_none_right_eq_some, Option.some.injEq] at hs ht
  rw [← hs.2, ← ht.2]
  exact h i k (Nat.le_of_lt hik)

end Journey

namespace Plot

/-- Later steps have no lower shade. -/
theorem shade_le_shade {i k : Nat} (count : Nat) (h : i ≤ k) : shade i count ≤ shade k count :=
  Nat.div_le_div_right (Nat.mul_le_mul_left 256 h)

/-- The shade of a step is below 256. -/
theorem shade_le {i n : Nat} (h : i < n) : shade i (n + 1) ≤ 255 := by
  refine Nat.le_of_lt_succ (Nat.div_lt_of_lt_mul ?_)
  omega

/-- The steps of a path that is listed by place, each with its place. -/
theorem zipIdx_zip_tail (f : Nat → Pose) (n : Nat) :
    (((List.range (n + 1)).map f).zip ((List.range (n + 1)).map f).tail).zipIdx =
      (List.range n).map fun i => ((f i, f (i + 1)), i) := by
  apply List.ext_getElem
  · simp
  · intro i hi hi'
    simp

/-- The way along an ideal path is drawn with its strokes. -/
theorem way_eq {j : Journey} {n : Nat} (h : n ≤ j.commands.length) :
    way ((List.range (n + 1)).map j.idealPose) =
      (j.strokes (shade · (n + 1)) n).map Stroke.call := by
  rw [way, zipIdx_zip_tail, List.length_map, List.length_range, List.filterMap_map,
    Journey.strokes, List.map_filterMap]
  -- Both sides go through the places of the path, so they are compared place by place.
  refine List.filterMap_congr fun i hi => ?_
  have hi : i < j.commands.length := Nat.lt_of_lt_of_le (List.mem_range.mp hi) h
  have hk : j.commands[i]? = some j.commands[i] := List.getElem?_eq_getElem hi
  simp only [Function.comp_apply, hk, Journey.idealPose_succ hk]
  cases j.commands[i] with
  | left => simp [Pose.obey, Pose.turnLeft]
  | right => simp [Pose.obey, Pose.turnRight]
  | forward => simp [Pose.obey, Pose.cell_ne_ahead, Stroke.call, Point.centre, Cell.spot]

/-- What is drawn of the journey with the number `i` whose robot carries out `n` commands: the
strokes, a mark and a label at the start, an arrow where the robot stands at last and, unless the
journey is a success, a cross at the cell of the outcome. The arrow is 35 hundredths long and points
where a move from its cell would lead. -/
def sketch (i : Nat) (j : Journey) (n : Nat) (o : Outcome) : List DrawCall :=
  let last := j.idealPose n
  (j.strokes (shade · (n + 1)) n).map Stroke.call
    ++ [.mark .disc (j.start.cell.spot 50 50) .gray,
      .label (j.start.cell.spot 50 80) ("#" ++ toString (i + 1)),
      .arrow (last.cell.spot 50 50)
        ⟨⟨35 * (last.ahead.cell.x - last.cell.x)⟩, ⟨35 * (last.ahead.cell.y - last.cell.y)⟩⟩
        o.verdict.colour]
    ++ if o.verdict = .success then []
      else [.mark .cross (o.pose.cell.spot 50 50) o.verdict.colour]

/-- A journey with an ideal path is drawn with its sketch. -/
theorem journey_eq {j : Journey} {n : Nat} (i : Nat) (o : Outcome) (h : n ≤ j.commands.length) :
    journey i ((List.range (n + 1)).map j.idealPose) o = sketch i j n o := by
  have hway := way_eq h
  have hlast (p : Pose) : ((List.range (n + 1)).map j.idealPose).getLastD p = j.idealPose n := by
    rw [List.getLastD_eq_getLast?, List.range_succ, List.map_append]
    simp
  have hcons : (List.range (n + 1)).map j.idealPose =
      j.start :: (List.range n).map fun i => j.idealPose (i + 1) := by
    rw [List.range_succ_eq_map, List.map_cons, List.map_map]
    rfl
  have harrow (p : Pose) : Point.arrow p.heading =
      ⟨⟨35 * (p.ahead.cell.x - p.cell.x)⟩, ⟨35 * (p.ahead.cell.y - p.cell.y)⟩⟩ := by
    have hstep (m n : Int) : m + n - m = n := by omega
    simp only [Point.arrow, Pose.ahead, hstep]
  -- A journey looks at the first pose of its path, so the path has to show it.
  rw [hcons] at hway hlast ⊢
  rw [journey, hway, hlast, sketch, harrow]
  simp [Outcome.isSuccess, Point.centre, Point.above, Cell.spot]

/-- The lines of a sketch are those of the strokes. -/
theorem mem_sketch_line {i n s : Nat} {j : Journey} {o : Outcome} {p q : Point}
    (h : .line p q s ∈ sketch i j n o) :
    ∃ t ∈ j.strokes (shade · (n + 1)) n, t.call = .line p q s := by
  unfold sketch at h
  split at h <;> simpa using h

end Plot

/-! ### Journeys -/

namespace Arena

variable {a : Arena} {j : Journey} {n : Nat}

/-- The path of a journey is its ideal path up to the last command that is carried out. -/
theorem exists_path_eq (a : Arena) (j : Journey) :
    ∃ n ≤ j.commands.length, a.CarriesOut j n ∧
      a.path j = (List.range (n + 1)).map j.idealPose := by
  by_cases hblocked : j.start.cell ∈ a.obstacles
  · -- The recorder saw no pose and kept the start alone.
    refine ⟨0, Nat.zero_le _, .blocked hblocked, ?_⟩
    rw [path, if_pos (isBlocked_iff.mpr hblocked)]
    rfl
  · obtain ⟨n, hn, hpath, hend⟩ := exists_course_eq a j.start j.commands
    refine ⟨n, hn, ?_, ?_⟩
    · rcases hend with hfirst | ⟨rfl, hnone⟩
      · exact .failed hblocked hfirst
      · exact .all hblocked hnone
    · rw [path, if_neg (mt isBlocked_iff.mp hblocked), hpath]
      rfl

/-- The journey is drawn with strokes that show the first `n` commands, and with its cross in the
right place. -/
structure IsDrawn (a : Arena) (j : Journey) (n : Nat) (o : Outcome) (strokes : List Stroke) :
    Prop where
  /-- There is one stroke for each move and none for turns. -/
  length : strokes.length = (j.commands.take n).count .forward
  /-- The strokes lead from the start to where the arrow stands. -/
  leads : Leads j.start.cell strokes (j.idealPose n).cell
  /-- Each stroke joins cells of the grid that are beside each other. -/
  beside : ∀ s ∈ strokes, s.origin ∈ a.grid ∧ s.target ∈ a.grid ∧ s.origin.IsBeside s.target
  /-- Shades are colour numbers. -/
  shade_le : ∀ s ∈ strokes, s.shade ≤ 255
  /-- Shades never decrease. -/
  ordered : strokes.Pairwise fun s t => s.shade ≤ t.shade
  /-- A robot that could not enter a cell has its cross one cell ahead of its arrow. -/
  ahead : o.verdict = .outOfBounds ∨ (o.verdict = .crashed ∧ j.start.cell ∉ a.obstacles) →
    o.pose.cell = (j.idealPose n).ahead.cell
  /-- A robot that arrived elsewhere, or crashed at its start, has its cross at its arrow. -/
  here : o.verdict = .unexpectedEnd ∨ (o.verdict = .crashed ∧ j.start.cell ∈ a.obstacles) →
    o.pose.cell = (j.idealPose n).cell

/-- The cross is where the robot tried to go, unless it stayed where it was. -/
theorem outcome_of_carriesOut (h : a.CarriesOut j n) :
    (j.start.cell ∈ a.obstacles ∧ a.outcome j = ⟨.crashed, j.idealPose n⟩) ∨
      (j.start.cell ∉ a.obstacles ∧ a.outcome j = a.failure (j.idealPose n).ahead) ∨
      (j.start.cell ∉ a.obstacles ∧ a.outcome j = arrive j.goal (j.idealPose n)) := by
  cases h with
  | blocked start => exact .inl ⟨start, outcome_of_blocked start⟩
  | failed start first =>
    refine .inr (.inl ⟨start, ?_⟩)
    rw [outcome_of_free start, outcomeFrom_of_failsFirstAt first]
    exact congrArg a.failure (Journey.idealPose_succ first.1.1)
  | all start none =>
    refine .inr (.inr ⟨start, ?_⟩)
    rw [outcome_of_free start, outcomeFrom_of_not_failsAt none, Journey.idealPose_length]

/-- A journey is drawn with the strokes for the commands that its robot carries out. -/
theorem isDrawn (hstart : j.start.cell ∈ a.grid) (hn : n ≤ j.commands.length)
    (hcarries : a.CarriesOut j n) (hpath : a.path j = (List.range (n + 1)).map j.idealPose) :
    a.IsDrawn j n (a.outcome j) (j.strokes (Plot.shade · (n + 1)) n) := by
  have hinside (i : Nat) (hi : i ≤ n) : (j.idealPose i).cell ∈ a.grid := by
    refine (isTrip_path hstart).inside _ ?_
    rw [hpath]
    exact List.mem_map_of_mem (List.mem_range.mpr (Nat.lt_succ_of_le hi))
  refine ⟨j.length_strokes _ n, Journey.leads_strokes hn, ?_, ?_, ?_, ?_, ?_⟩
  · intro s hs
    obtain ⟨i, hi, hk, rfl⟩ := Journey.mem_strokes hs
    refine ⟨hinside i (Nat.le_of_lt hi), hinside (i + 1) hi, ?_⟩
    show (j.idealPose i).cell.IsBeside (j.idealPose (i + 1)).cell
    rw [Journey.idealPose_succ hk]
    exact (j.idealPose i).isBeside_ahead
  · intro s hs
    obtain ⟨i, hi, -, rfl⟩ := Journey.mem_strokes hs
    exact Plot.shade_le hi
  · exact Journey.pairwise_strokes fun i k hik => Plot.shade_le_shade (n + 1) hik
  -- The verdict tells which of the three ends it was.
  · intro hverdict
    rcases outcome_of_carriesOut hcarries with ⟨hblocked, h⟩ | ⟨-, h⟩ | ⟨-, h⟩
    · simp [h, hblocked] at hverdict
    · rw [h, failure_pose]
    · rw [h] at hverdict
      exact absurd (hverdict.imp_right And.left) (not_failed_arrive j.goal (j.idealPose n))
  · intro hverdict
    rcases outcome_of_carriesOut hcarries with ⟨-, h⟩ | ⟨hfree, h⟩ | ⟨-, h⟩
    · rw [h]
    · rcases hverdict with hend | ⟨-, hblocked⟩
      · rw [h] at hend
        exact absurd (.inr hend) (a.not_arrived_failure (j.idealPose n).ahead)
      · exact absurd hblocked hfree
    · rw [h, arrive_pose]

/-- What is drawn of a journey is a sketch of the commands that its robot carries out. -/
theorem exists_sketch (hstart : j.start.cell ∈ a.grid) (i : Nat) :
    ∃ n, a.CarriesOut j n ∧
      Plot.journey i (a.path j) (a.outcome j) = Plot.sketch i j n (a.outcome j) ∧
      a.IsDrawn j n (a.outcome j) (j.strokes (Plot.shade · (n + 1)) n) := by
  obtain ⟨n, hn, hcarries, hpath⟩ := a.exists_path_eq j
  refine ⟨n, hcarries, ?_, isDrawn hstart hn hcarries hpath⟩
  rw [hpath, Plot.journey_eq i (a.outcome j) hn]

/-- The lines of a journey run along the axes, from cell to cell. -/
theorem IsDrawn.line {o : Outcome} {i s : Nat} {p q : Point}
    (h : a.IsDrawn j n o (j.strokes (Plot.shade · (n + 1)) n))
    (hline : .line p q s ∈ Plot.sketch i j n o) :
    p.IsUnitFrom q ∧ a.grid.Shows p ∧ a.grid.Shows q := by
  obtain ⟨t, ht, hcall⟩ := Plot.mem_sketch_line hline
  obtain ⟨horigin, htarget, hbeside⟩ := h.beside t ht
  rw [Stroke.call, DrawCall.line.injEq] at hcall
  obtain ⟨rfl, rfl, -⟩ := hcall
  exact ⟨hbeside.isUnitFrom, Grid.shows_centre horigin, Grid.shows_centre htarget⟩

end Arena

/-! ### Whole drawings -/

namespace Plot

/-- The parts of a drawing, one for each journey. -/
def parts (trips : List (List Pose × Outcome)) : List (List DrawCall) :=
  trips.zipIdx.map fun entry => journey entry.2 entry.1.1 entry.1.2

/-- What is drawn of a journey is drawn as journeys are. -/
theorem isOfJourney_of_mem_journey {i : Nat} {path : List Pose} {o : Outcome} {call : DrawCall}
    (h : call ∈ journey i path o) : call.isOfJourney = true := by
  unfold journey at h
  split at h
  · cases h
  · simp only [List.mem_append, way, List.mem_filterMap] at h
    rcases h with (⟨entry, -, hcall⟩ | hmarks) | hcross
    · split at hcall
      · cases hcall
      · cases hcall
        rfl
    · revert call
      simp [DrawCall.isOfJourney]
    · revert call
      split <;> simp [DrawCall.isOfJourney]

/-- The axes and their ticks are not drawn as journeys are. -/
theorem isOfJourney_frame (g : Grid) : ∀ call ∈ frame g, call.isOfJourney = false := by
  unfold frame
  split <;> simp [DrawCall.isOfJourney]

/-- The obstacles are not drawn as journeys are. -/
theorem isOfJourney_obstacles {s : CellSet} (arrangement : s.Arrangement) :
    ∀ call ∈ obstacles arrangement, call.isOfJourney = false := by
  simp [obstacles, DrawCall.isOfJourney]

/-- The parts of a drawing stand in the middle, and around them nothing is drawn as journeys are.
The axes come first. -/
theorem exists_calls_eq (a : Arena) (trips : List (List Pose × Outcome)) (title path : String)
    (arrangement : a.obstacles.Arrangement) :
    ∃ before after, calls a trips title path arrangement =
        before ++ (parts trips).flatten ++ after ∧
      (.xLimit a.grid.width ∈ before ∧ .yLimit a.grid.height ∈ before) ∧
      ∀ call ∈ before ++ after, call.isOfJourney = false := by
  refine ⟨[.clear] ++ frame a.grid ++ obstacles arrangement,
    [.title (heading title a (trips.map Prod.snd)), .save path, .close], ?_, ?_, ?_⟩
  · rw [calls, List.flatMap_def]
    rfl
  · simp [frame]
  · intro call hcall
    simp only [List.mem_append] at hcall
    rcases hcall with ((hclear | hframe) | hobstacles) | hend
    · rw [List.mem_singleton.mp hclear]
      rfl
    · exact isOfJourney_frame a.grid call hframe
    · exact isOfJourney_obstacles arrangement call hobstacles
    · revert call
      simp [DrawCall.isOfJourney]

end Plot

/-- The drawing of a text: a recorder watches the run of the text, and what it keeps is drawn.
There is nothing to draw unless journeys were driven. -/
def drawing (order : CellSet.Order) (title path text : String) : List DrawCall :=
  let hooks : Hooks (StateM Recorder) := Hooks.watching Recorder.observer
  let (r, recorder) := (Run.ofText hooks text).run Recorder.empty
  match r.arena? with
  | some a => Plot.calls a recorder.trips title path (order a.obstacles)
  | none => []

/-- The recorder of a run has the path and the outcome of each journey. -/
theorem Run.trips_account (a : Arena) (outcomes : List Outcome) :
    ((completed a outcomes).account (fun _ => Recorder.note) Recorder.empty).trips =
      a.journeys.map fun j => (a.path j, a.outcome j) := by
  rw [account, Recorder.foldl_flatMap_events, Recorder.trips]
  simp [List.zip_map']

/-- What the recorder keeps is the account of the run. -/
theorem drawing_eq_account (order : CellSet.Order) (title path text : String) :
    drawing order title path text = match (run text).arena? with
      | some a =>
        Plot.calls a ((run text).account (fun _ => Recorder.note) Recorder.empty).trips title path
          (order a.obstacles)
      | none => [] := by
  have hnote : ∀ (a : Arena) e r, (Recorder.observer (m := StateM Recorder) a e).run r =
      ((), r.note e) := fun _ _ _ => rfl
  rw [drawing, Run.ofText_watching_run hnote]

/-- A run that is completed is drawn with the paths and the outcomes of its journeys. -/
theorem drawing_eq {text : String} {a : Arena} {outcomes : List Outcome}
    (h : run text = .completed a outcomes) (order : CellSet.Order) (title path : String) :
    drawing order title path text = Plot.calls a (a.journeys.map fun j => (a.path j, a.outcome j))
      title path (order a.obstacles) := by
  rw [drawing_eq_account, h, ← Run.trips_account a outcomes]
  rfl

/-- What a session draws is the drawing of its text, if a file for that was named. -/
theorem Cli.Session.drawing_ofText (o : Options) (text : String) (order : CellSet.Order) :
    (ofText o text order).drawing = match plotPath? o with
      | some path => GridWalk.drawing order (fileName o.input) path text
      | none => [] := by
  obtain ⟨log, hwatch⟩ := watch_eq o text
  simp only [drawing_eq_account]
  unfold ofText
  rw [hwatch]
  show (draw o (fileName o.input) (run text) _ order).1 = _
  unfold draw
  cases plotPath? o with
  | none => rfl
  | some path => cases (run text).arena? <;> rfl

/-- The drawing shows the real walks.

Let the run of a text be completed, and let the drawing have any title and file and go through the
obstacles in any order. Its document gives the axes. Apart from them, the obstacles and the title,
the drawing has one part for each journey, in document order, and nothing else in it is drawn as
parts of journeys are. A part begins with the strokes for the commands that the robot carried out.
`Arena.IsDrawn` says what that means. Behind them come the gray mark at the start and the number of
the journey, the arrow where the robot stood at last, in the direction of its heading, and a cross
at the cell of the outcome unless the journey is a success. So every line of the drawing is one cell
long, runs along an axis and lies within the axes. -/
theorem drawing_shows_walks {text : String} {a : Arena} {outcomes : List Outcome}
    (h : run text = .completed a outcomes) (order : CellSet.Order) (title path : String) :
    ∃ (d : Document) (before after : List DrawCall) (parts : List (List DrawCall)),
      Document.read text = .ok d ∧ d.arena = a ∧
      drawing order title path text = before ++ parts.flatten ++ after ∧
      (.xLimit d.grid.width ∈ before ∧ .yLimit d.grid.height ∈ before) ∧
      (∀ call ∈ before ++ after, call.isOfJourney = false) ∧
      parts.length = d.journeys.length ∧
      (∀ (i : Nat) (j : Journey), d.journeys[i]? = some j →
        ∃ n o, a.CarriesOut j n ∧ outcomes[i]? = some o ∧
          parts[i]? = some (Plot.sketch i j n o) ∧
          a.IsDrawn j n o (j.strokes (Plot.shade · (n + 1)) n)) ∧
      ∀ p q shade, .line p q shade ∈ drawing order title path text →
        p.IsUnitFrom q ∧ d.grid.Shows p ∧ d.grid.Shows q := by
  obtain ⟨d, hread, hsound, rfl, rfl⟩ := Run.run_eq_completed_iff.mp h
  let trips := d.journeys.map fun j => (d.arena.path j, d.arena.outcome j)
  obtain ⟨before, after, hcalls, hlimits, hothers⟩ :=
    Plot.exists_calls_eq d.arena trips title path (order d.arena.obstacles)
  have hdrawing : drawing order title path text =
      before ++ (Plot.parts trips).flatten ++ after := by
    rw [drawing_eq h, ← hcalls]
    rfl
  have hlength : (Plot.parts trips).length = d.journeys.length := by
    simp [Plot.parts, trips]
  have hsketch (i : Nat) (j : Journey) (hj : d.journeys[i]? = some j) :
      ∃ n, d.arena.CarriesOut j n ∧
        (Plot.parts trips)[i]? = some (Plot.sketch i j n (d.arena.outcome j)) ∧
        d.arena.IsDrawn j n (d.arena.outcome j) (j.strokes (Plot.shade · (n + 1)) n) := by
    have hstart := hsound.start_mem j (List.mem_of_getElem? hj)
    obtain ⟨n, hcarries, hdraws, hdrawn⟩ := Arena.exists_sketch hstart i
    refine ⟨n, hcarries, ?_, hdrawn⟩
    simp [Plot.parts, trips, hj, hdraws]
  refine ⟨d, before, after, Plot.parts trips, hread, rfl, hdrawing, hlimits, hothers, hlength,
    ?_, ?_⟩
  · intro i j hj
    obtain ⟨n, hcarries, hpart, hdrawn⟩ := hsketch i j hj
    have houtcome : (d.arena.journeys.map d.arena.outcome)[i]? = some (d.arena.outcome j) := by
      show (d.journeys.map d.arena.outcome)[i]? = _
      rw [List.getElem?_map, hj, Option.map_some]
    exact ⟨n, d.arena.outcome j, hcarries, houtcome, hpart, hdrawn⟩
  · -- A line can only stand in a part, and there it is the line of a stroke.
    intro p q shade hline
    rw [hdrawing] at hline
    simp only [List.mem_append] at hline hothers
    rcases hline with (hbefore | hparts) | hafter
    · cases hothers _ (.inl hbefore)
    · obtain ⟨part, hpart, hline⟩ := List.mem_flatten.mp hparts
      obtain ⟨i, hi⟩ := List.getElem?_of_mem hpart
      have hlt : i < d.journeys.length := hlength ▸ (List.getElem?_eq_some_iff.mp hi).1
      obtain ⟨n, -, hsketched, hdrawn⟩ := hsketch i d.journeys[i] (List.getElem?_eq_getElem hlt)
      cases hi.symm.trans hsketched
      exact hdrawn.line hline
    · cases hothers _ (.inr hafter)

/-- A robot moves once and then against the edge, where the cross stands one cell ahead of it. -/
theorem drawing_shows_walks_exit :
    ∃ a outcomes n, run "GRID 2x1\n0 0 E\nFF\n0 0 E" = .completed a outcomes ∧
      outcomes = [⟨.outOfBounds, ⟨⟨2, 0⟩, .east⟩⟩] ∧
      a.CarriesOut ⟨⟨⟨0, 0⟩, .east⟩, [.forward, .forward], ⟨⟨0, 0⟩, .east⟩⟩ n ∧
      ⟨2, 0⟩ = (Journey.idealPose ⟨⟨⟨0, 0⟩, .east⟩, [.forward, .forward], ⟨⟨0, 0⟩, .east⟩⟩
        n).ahead.cell := by
  have hread : Document.read "GRID 2x1\n0 0 E\nFF\n0 0 E" = .ok ⟨⟨2, 1⟩, [],
      [⟨⟨⟨0, 0⟩, .east⟩, [.forward, .forward], ⟨⟨0, 0⟩, .east⟩⟩]⟩ := by
    decide +kernel
  have hrun := Run.run_eq_completed_iff.mpr
    ⟨_, hread, Document.violations_eq_nil_iff.mp (by decide), rfl, rfl⟩
  obtain ⟨d, before, after, parts, hread', -, -, -, -, -, hparts, -⟩ :=
    drawing_shows_walks hrun CellSet.arranged "" "image.png"
  cases hread.symm.trans hread'
  obtain ⟨n, o, hcarries, ho, -, hdrawn⟩ := hparts 0 _ rfl
  cases ho
  exact ⟨_, _, n, hrun, by decide, hcarries, hdrawn.ahead (.inl (by decide))⟩

end GridWalk
