import GridWalk.Observer.Logging
import GridWalk.Proofs.Drawings
import GridWalk.Proofs.Relisting

/-!
# `GridWalk.Proofs.Transcripts`: the log of a run, record by record

The reader, the check and the simulation write to the log while the run proceeds, and an observer
writes a record for each event. When all of them write in the same way, whatever that way is, a run
writes one list of records, `Run.transcript`, from the first to the last (`Run.announce_writing`).
So the log of a run is known from the text, and so is a log that takes only the records of some
level or above while they come.

* `Hooks.loggingFrom`: the hooks of such a log.
* `Arena.records`: the records of one journey.
* `Run.toList_loggedFrom`: the log is the transcript without the records below the level.
* `transcript_matches_run`: the log of a run that ends in each of the three ways.
-/

set_option autoImplicit false

namespace GridWalk

/-- The log with one more record, unless the record is below the level. -/
def Log.addFrom (least : Level) (log : Log) (r : Record) : Log :=
  if r.level.shownAt least then log.add r else log

namespace Hooks

/-- Diagnostics are written, and events are written as records of the source. -/
def writing {m : Type → Type} (source : String) (write : Record → m Unit) : Hooks m :=
  ⟨fun _ e => write (e.record source), write⟩

/-- All that is written goes to a log that takes no record below the level. -/
def loggingFrom (least : Level) (source : String) : Hooks (StateM Log) :=
  writing source fun r => modify fun log => log.addFrom least r

end Hooks

/-- A run on a text, and the log that it leaves in an empty one. The events are records of the
source. -/
def Run.logged (source : String) (text : String) : Run × Log :=
  (Run.ofText (m := StateM Log) (Hooks.logging (Event.logger source)) text).run Log.empty

/-- The same with a log that takes no record below the level. -/
def Run.loggedFrom (least : Level) (source : String) (text : String) : Run × Log :=
  (Run.ofText (Hooks.loggingFrom least source) text).run Log.empty

/-- The records of one journey: its start, a record for each pose that the robot reaches, its end
with the output line, and at last the outcome. -/
def Arena.records (source : String) (a : Arena) (j : Journey) : List Record :=
  ⟨.debug, source, "Journey start: " ++ j.describe⟩
    :: (a.reached j).map (fun p => ⟨.debug, source, "State: " ++ p.describe⟩)
    ++ [⟨.debug, source, "Journey end: " ++ (a.outcome j).line⟩,
      ⟨.debug, "robot_journeys.simulation.simulator",
        "Journey " ++ j.describe ++ " finished: " ++ (a.outcome j).describe⟩]

/-- The records of a run on a text, from the first to the last. -/
def Run.transcript (source : String) (text : String) : List Record :=
  match Document.read text with
  | .error e => [unreadableRecord e]
  | .ok d => readRecord d :: match d.check with
    | .error r => [rejectedRecord r]
    | .ok a => acceptedRecord d a :: a.journeys.flatMap (a.records source)

/-! ### What is written -/

section
variable {m : Type → Type} [Monad m] [LawfulMonad m]

/-- A journey writes its records. -/
theorem Arena.announce_writing (source : String) (write : Record → m Unit) (a : Arena)
    (j : Journey) :
    announce (Hooks.writing source write) a j = forM (a.records source j) write := by
  have hrecords : a.records source j
      = (a.events j).map (Event.record source) ++ [journeyRecord j (a.outcome j)] := by
    simp [records, events, Event.record, Event.message, journeyRecord]
  rw [hrecords]
  simp [announce, Hooks.writing]

/-- A run writes its transcript. -/
theorem Run.announce_writing (source : String) (write : Record → m Unit) (text : String) :
    announce (Hooks.writing source write) text = forM (transcript source text) write := by
  have hjourneys (a : Arena) (js : List Journey) :
      forM js (a.announce (Hooks.writing source write))
        = forM (js.flatMap (a.records source)) write := by
    induction js with
    | nil => rfl
    | cons j js ih => simp [Arena.announce_writing, ih]
  unfold announce transcript
  cases Document.read text with
  | error e => simp [Hooks.writing]
  | ok d =>
    dsimp only
    cases d.check with
    | error r => simp [Hooks.writing]
    | ok a =>
      simp only [List.forM_cons, ← hjourneys]
      rfl

end

namespace Log

/-- Records are put behind those that the log has, unless they are below the level. -/
theorem toList_foldl_addFrom (least : Level) (rs : List Record) (log : Log) :
    (rs.foldl (addFrom least) log).records.toList
      = log.records.toList ++ rs.filter (·.level.shownAt least) := by
  induction rs generalizing log with
  | nil => simp
  | cons r rs ih =>
    rw [List.foldl_cons, ih, List.filter_cons, addFrom]
    split <;> simp [add]

/-- No record is below the lowest level. -/
theorem addFrom_debug (log : Log) (r : Record) : log.addFrom .debug r = log.add r :=
  if_pos (decide_eq_true (Nat.zero_le _))

end Log

namespace Run

/-- A run with a log is the run, and its transcript one record after the other. -/
theorem loggedFrom_eq (least : Level) (source text : String) :
    loggedFrom least source text
      = (run text, (transcript source text).foldl (Log.addFrom least) Log.empty) := by
  have hwrite : (forM (transcript source text) fun r =>
      modify (m := StateM Log) (·.addFrom least r)).run Log.empty = do
        forM (m := Id) (transcript source text) fun _ => pure ()
        return ((), (transcript source text).foldl (Log.addFrom least) Log.empty) :=
    Arena.run_forM (fun _ _ => rfl) (transcript source text) Log.empty
  rw [loggedFrom, ofText_eq, Hooks.loggingFrom, announce_writing, StateT.run_bind, hwrite]
  rfl

/-- The log takes the records of the transcript that are not below the level. -/
theorem toList_loggedFrom (least : Level) (source text : String) :
    (loggedFrom least source text).2.records.toList
      = (transcript source text).filter (·.level.shownAt least) := by
  rw [loggedFrom_eq, Log.toList_foldl_addFrom]
  rfl

/-- A log that takes all records is one from the lowest level on. -/
theorem logged_eq (source text : String) : logged source text = loggedFrom .debug source text := by
  simp only [loggedFrom, Hooks.loggingFrom, Log.addFrom_debug]
  rfl

/-- Such a log has the whole transcript. -/
theorem toList_logged (source text : String) :
    (logged source text).2.records.toList = transcript source text := by
  rw [logged_eq, toList_loggedFrom, List.filter_eq_self]
  exact fun r _ => decide_eq_true (Nat.zero_le _)

end Run

/-! ### The three ways to end -/

namespace Run

variable {text : String} {d : Document}

/-- A parse error is all that is written. -/
theorem transcript_of_unreadable (source : String) {e : ParseError}
    (h : Document.read text = .error e) : transcript source text = [unreadableRecord e] := by
  rw [transcript, h]

/-- Nothing is written after a refusal. -/
theorem transcript_of_rejected (source : String) {refusal : Rejection}
    (h : Document.read text = .ok d) (hcheck : d.check = .error refusal) :
    transcript source text = [readRecord d, rejectedRecord refusal] := by
  rw [transcript, h]
  simp only [hcheck]

/-- The records of the journeys come last. -/
theorem transcript_of_sound (source : String) (h : Document.read text = .ok d)
    (hsound : d.arena.Sound) :
    transcript source text = readRecord d :: acceptedRecord d d.arena
      :: d.journeys.flatMap (d.arena.records source) := by
  have hcheck : d.check = .ok d.arena := Document.check_eq_ok_iff_sound.mpr ⟨hsound, rfl⟩
  rw [transcript, h]
  simp only [hcheck]
  rfl

end Run

/-- A robot reaches one pose more of its ideal path than it carries out commands. It reaches none
when it starts on an obstacle. -/
theorem Arena.exists_reached_of_carriesOut (a : Arena) (j : Journey) :
    ∃ n, a.CarriesOut j n ∧ (j.start.cell ∈ a.obstacles → a.reached j = []) ∧
      (j.start.cell ∉ a.obstacles → a.reached j = (List.range (n + 1)).map j.idealPose) := by
  obtain ⟨n, -, hcarries, hpath⟩ := a.exists_path_eq j
  refine ⟨n, hcarries, reached_eq_nil, fun hfree => ?_⟩
  have hblocked : a.isBlocked j.start.cell ≠ true := mt isBlocked_iff.mp hfree
  rw [← hpath, reached, path, if_neg hblocked, if_neg hblocked]

/-- The log of a run matches the run.

Let the events of a run be records of some source. Its log does not change the run. If the text is
no document, the log has one record, with the message of the one output line. If the document is
refused, the log has the record of what was read and then a record that counts the output lines. If
the run is completed, the log has the record of what was read, the record of how many listed
obstacles are different, and then `Arena.records` for each journey, in document order: its start,
each pose that the robot reaches, its end with the output line, and only then the journey with its
outcome. The poses are the first of the ideal path, one more than there are commands that the
robot carries out, and there are none when it starts on an obstacle. A log that takes only records
of a level or above has those of these records, in the same order, and the output lines are the
same. -/
theorem transcript_matches_run (source text : String) :
    (Run.logged source text).1 = run text ∧
      (∀ e, run text = .unreadable e →
        execute text = ["Parsing: " ++ e.message] ∧
          (Run.logged source text).2.records.toList =
            [⟨.info, "robot_journeys.pipeline", "Parsing failed: " ++ e.message⟩]) ∧
      (∀ refusal, run text = .rejected refusal → ∃ d, Document.read text = .ok d ∧
        (Run.logged source text).2.records.toList =
          [⟨.debug, "robot_journeys.parsing.document", "Parsed document: grid " ++ d.grid.extent
              ++ ", " ++ toString d.obstacles.length ++ " obstacles, "
              ++ toString d.journeys.length ++ " journeys"⟩,
            ⟨.info, "robot_journeys.validation.validator", "Document rejected with "
              ++ toString (execute text).length ++ " validation error(s)"⟩]) ∧
      (∀ a outcomes, run text = .completed a outcomes → ∃ d, Document.read text = .ok d ∧
        a = d.arena ∧ outcomes = d.journeys.map a.outcome ∧
        execute text = d.journeys.map (fun j => (a.outcome j).line) ∧
        (Run.logged source text).2.records.toList =
          ⟨.debug, "robot_journeys.parsing.document", "Parsed document: grid " ++ d.grid.extent
              ++ ", " ++ toString d.obstacles.length ++ " obstacles, "
              ++ toString d.journeys.length ++ " journeys"⟩
            :: ⟨.debug, "robot_journeys.validation.validator", "Validated document: "
              ++ toString d.obstacles.toFinset.card ++ " distinct obstacles out of "
              ++ toString d.obstacles.length ++ " listed"⟩
            :: d.journeys.flatMap (a.records source) ∧
        d.obstacles.toFinset.card ≤ d.obstacles.length ∧
        ∀ j ∈ d.journeys, ∃ n, a.CarriesOut j n ∧
          (j.start.cell ∈ d.obstacles → a.reached j = []) ∧
          (j.start.cell ∉ d.obstacles → a.reached j = (List.range (n + 1)).map j.idealPose)) ∧
      ∀ least, (Run.loggedFrom least source text).1 = run text ∧
        (Run.loggedFrom least source text).1.lines = execute text ∧
        (Run.loggedFrom least source text).2.records.toList =
          (Run.logged source text).2.records.toList.filter (·.level.shownAt least) := by
  rw [Run.toList_logged]
  refine ⟨?_, ?_, ?_, ?_, fun least => ⟨?_, ?_, Run.toList_loggedFrom least source text⟩⟩
  · rw [Run.logged_eq, Run.loggedFrom_eq]
  · intro e h
    have hread := Run.run_eq_unreadable_iff.mp h
    exact ⟨(Run.isUnreadable_run hread).lines, Run.transcript_of_unreadable source hread⟩
  · intro refusal h
    obtain ⟨d, hread, hcheck⟩ := Run.run_eq_rejected_iff.mp h
    have hlines : (execute text).length = refusal.notices.length := by
      rw [execute, (Run.isRejected_run hread hcheck).lines, List.length_map]
    rw [hlines]
    exact ⟨d, hread, Run.transcript_of_rejected source hread hcheck⟩
  · intro a outcomes h
    obtain ⟨d, hread, hsound, rfl, rfl⟩ := Run.run_eq_completed_iff.mp h
    refine ⟨d, hread, rfl, rfl, execute_eq hread hsound, ?_, d.obstacles.toFinset_card_le,
      fun j _ => ?_⟩
    · rw [← CellSet.size_ofList]
      exact Run.transcript_of_sound source hread hsound
    · simp only [← Document.mem_obstacles_arena]
      exact d.arena.exists_reached_of_carriesOut j
  · rw [Run.loggedFrom_eq]
  · rw [Run.loggedFrom_eq]
    rfl

/-- A robot starts on an obstacle that is listed twice: no pose is logged. A log from the next level
on stays empty. -/
theorem transcript_matches_run_obstacle :
    ∃ a outcomes,
      run "GRID 2x1 OBSTACLE 1 0 OBSTACLE 1 0\n1 0 N\nR\n1 0 E" = .completed a outcomes ∧
      (Run.logged Event.defaultSource
          "GRID 2x1 OBSTACLE 1 0 OBSTACLE 1 0\n1 0 N\nR\n1 0 E"
        ).2.records.toList.map Record.message =
        ["Parsed document: grid 2x1, 2 obstacles, 1 journeys",
          "Validated document: 1 distinct obstacles out of 2 listed",
          "Journey start: RobotJourney(initial=RobotState(x=1, y=0, direction=N), commands='R', "
            ++ "expected_final=RobotState(x=1, y=0, direction=E))",
          "Journey end: CRASHED 1 0",
          "Journey RobotJourney(initial=RobotState(x=1, y=0, direction=N), commands='R', "
            ++ "expected_final=RobotState(x=1, y=0, direction=E)) finished: "
            ++ "Crashed(RobotState(x=1, y=0, direction=N))"] ∧
      (Run.loggedFrom .info Event.defaultSource
          "GRID 2x1 OBSTACLE 1 0 OBSTACLE 1 0\n1 0 N\nR\n1 0 E"
        ).2.records.toList = [] := by
  have hread : Document.read "GRID 2x1 OBSTACLE 1 0 OBSTACLE 1 0\n1 0 N\nR\n1 0 E"
      = .ok ⟨⟨2, 1⟩, [⟨1, 0⟩, ⟨1, 0⟩], [⟨⟨⟨1, 0⟩, .north⟩, [.right], ⟨⟨1, 0⟩, .east⟩⟩]⟩ := by
    decide +kernel
  have hrun := Run.run_eq_completed_iff.mpr
    ⟨_, hread, Document.violations_eq_nil_iff.mp (by decide), rfl, rfl⟩
  obtain ⟨-, -, -, hcompleted, hlevels⟩ := transcript_matches_run Event.defaultSource
    "GRID 2x1 OBSTACLE 1 0 OBSTACLE 1 0\n1 0 N\nR\n1 0 E"
  obtain ⟨d, hread', -, -, -, hrecords, -⟩ := hcompleted _ _ hrun
  cases hread.symm.trans hread'
  refine ⟨_, _, hrun, ?_, ?_⟩
  · rw [hrecords]
    decide +kernel
  · rw [(hlevels .info).2.2, hrecords]
    decide +kernel

end GridWalk
