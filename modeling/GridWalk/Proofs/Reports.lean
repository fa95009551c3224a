import GridWalk.Proofs.RunShapes
import GridWalk.Report

/-!
# `GridWalk.Proofs.Reports`: a report loses no journey

A report pairs outcomes with output lines by their places. Nothing is lost in that, since a run with
its journeys driven has a line for each outcome, and any other run has lines but no outcomes. What a
line leaves out stands in the report beside it: the JSON of an entry is read back here by the names
of its members, and gives the outcome with its verdict, its cell and its heading.

* `Outcome.ofEntry?`: the outcome that the entry of a journey tells.
* `Report.journeys_ofRun`: the entries of a run, one for each outcome.
* `Report.outcomes?_json`: all outcomes can be read off the JSON of a report.
* `report_loses_no_journey`: what a report says about the run of a text.
-/

set_option autoImplicit false

namespace GridWalk

open GridWalk.Text (Json)

/-! ### Reading JSON -/

namespace Text.Json

/-- The member of an object with the name. -/
def member? (value : Json) (name : String) : Option Json :=
  match value with
  | object members => members.lookup name
  | _ => none

/-- The number, if the value is one. -/
def number? : Json → Option Int
  | number n => some n
  | _ => none

/-- The text, if the value is one. -/
def text? : Json → Option String
  | text s => some s
  | _ => none

/-- The items, if the value is a list. -/
def items? : Json → Option (List Json)
  | list items => some items
  | _ => none

end Text.Json

/-- The outcome that the entry of a journey tells. The verdict is the one with the word of the
status, and the heading the one with the letter of the state. The line of the entry is not read. -/
def Outcome.ofEntry? (entry : Json) : Option Outcome := do
  let status ← entry.member? "status"
  let verdict ← Verdict.ofName? (← status.text?)
  let state ← entry.member? "state"
  let x ← (← state.member? "x").number?
  let y ← (← state.member? "y").number?
  let letter ← (← state.member? "d").text?
  let heading ← (Heading.read letter).toOption
  return ⟨verdict, ⟨⟨x, y⟩, heading⟩⟩

/-- The outcomes that a report tells, in their order. -/
def Report.outcomes? (report : Json) : Option (List Outcome) := do
  let entries ← (← report.member? "journeys").items?
  entries.mapM Outcome.ofEntry?

/-! ### Entries -/

/-- The outcome of an entry can be read back. -/
theorem Outcome.ofEntry?_json (o : Outcome) (line : String) (index : Nat) :
    ofEntry? (JourneyReport.ofOutcome o line index).json = some o := by
  obtain ⟨v, ⟨⟨x, y⟩, h⟩⟩ := o
  have hheading : Heading.read h.letter.toString = .ok h := by
    cases h <;> rfl
  show (do
    let verdict ← Verdict.ofName? v.name
    let heading ← (Heading.read h.letter.toString).toOption
    return (⟨verdict, ⟨⟨x, y⟩, heading⟩⟩ : Outcome)) = _
  rw [Verdict.ofName?_name, hheading]
  rfl

/-- A line starts with the word of the verdict. -/
theorem Outcome.name_isPrefix_line (o : Outcome) : o.verdict.name.toList <+: o.line.toList := by
  obtain ⟨v, p⟩ := o
  cases v <;> simp [line, String.toList_append, List.append_assoc]

/-- The entry is the one of the journey in place `i` of the run: it has this index, the line in this
place and a status that the line starts with, and it tells the outcome in this place. -/
structure JourneyReport.Tells (entry : JourneyReport) (r : Run) (i : Nat) : Prop where
  index_eq : entry.index = i
  line_eq : r.lines[i]? = some entry.line
  status_isPrefix : entry.status.toList <+: entry.line.toList
  outcome_eq : ∃ o, r.outcomes[i]? = some o ∧ Outcome.ofEntry? entry.json = some o

namespace Report

/-- The entries of a run are those of its outcomes with their lines, in order. -/
theorem journeys_ofRun (file : String) (r : Run) :
    (ofRun file r).journeys
      = r.outcomes.zipIdx.map fun entry => JourneyReport.ofOutcome entry.1 entry.1.line entry.2 := by
  cases r with
  | unreadable _ | rejected _ => rfl
  | completed a outcomes =>
    have hpairs : outcomes.zip (outcomes.map Outcome.line) = outcomes.map fun o => (o, o.line) := by
      have hzip := List.zip_map' (f := id) (g := Outcome.line) (l := outcomes)
      rwa [List.map_id] at hzip
    show ((outcomes.zip (outcomes.map Outcome.line)).zipIdx).map _ = outcomes.zipIdx.map _
    rw [hpairs, List.zipIdx_map, List.map_map]
    rfl

/-- There is one entry for each outcome. -/
theorem length_journeys_ofRun (file : String) (r : Run) :
    (ofRun file r).journeys.length = r.outcomes.length := by
  rw [journeys_ofRun, List.length_map, List.length_zipIdx]

/-- Each entry of a report tells the journey in its place. -/
theorem tells_of_getElem? {file : String} {r : Run} {i : Nat} {entry : JourneyReport}
    (h : (ofRun file r).journeys[i]? = some entry) : entry.Tells r i := by
  rw [journeys_ofRun, List.getElem?_map, List.getElem?_zipIdx] at h
  cases houtcome : r.outcomes[i]? with
  | none => simp [houtcome] at h
  | some o =>
    simp only [houtcome, Option.map_some, Nat.zero_add, Option.some.injEq] at h
    subst h
    refine ⟨rfl, ?_, o.name_isPrefix_line, o, houtcome, o.ofEntry?_json _ _⟩
    -- Only a run with its journeys driven has outcomes, and its lines are the lines of these.
    cases r with
    | unreadable _ | rejected _ => simp [Run.outcomes] at houtcome
    | completed a outcomes =>
      show (outcomes.map Outcome.line)[i]? = some o.line
      rw [List.getElem?_map, show outcomes[i]? = some o from houtcome]
      rfl

/-- All outcomes can be read off the JSON of a report. -/
theorem outcomes?_json (file : String) (r : Run) :
    outcomes? (ofRun file r).json = some r.outcomes := by
  have hentry : (Outcome.ofEntry? ∘ JourneyReport.json) ∘ (fun entry : Outcome × Nat =>
      JourneyReport.ofOutcome entry.1 entry.1.line entry.2) = fun entry => pure entry.1 :=
    funext fun entry => entry.1.ofEntry?_json _ _
  show ((ofRun file r).journeys.map JourneyReport.json).mapM Outcome.ofEntry? = some r.outcomes
  rw [List.mapM_map, journeys_ofRun, List.mapM_map, hentry, List.mapM_pure]
  exact congrArg some (List.zipIdx_map_fst 0 r.outcomes)

end Report

/-- No run is without lines unless its journeys were driven. -/
theorem Run.lines_ne_nil {r : Run} (h : r.isCompleted = false) : r.lines ≠ [] := by
  cases r with
  | unreadable e => exact List.cons_ne_nil _ _
  | rejected rejection => simpa [lines, Rejection.lines] using rejection.notices_ne_nil
  | completed a outcomes => cases h

/-- A report loses no journey and agrees with the output lines.

The report of a text names the file, and its lines are the output lines of the text. It is marked as
completed when the run is. Then it has no errors and one entry for each journey of the document,
and the entry in each place tells the journey in that place: its index, its line, a status that the
line starts with, and an outcome that its status and its state give back, which is the outcome of
this journey in the arena of the document. Otherwise it has no entries, and its errors are the lines,
of which there are some. In any case the JSON of the report tells all outcomes of the run. -/
theorem report_loses_no_journey (file text : String) :
    (Report.ofRun file (run text)).file = file ∧
      (Report.ofRun file (run text)).ok = (run text).isCompleted ∧
      (Report.ofRun file (run text)).lines = (run text).lines ∧
      ((run text).isCompleted = true →
        (Report.ofRun file (run text)).errors = [] ∧
          ∃ d, Document.read text = .ok d ∧
            (run text).outcomes = d.journeys.map d.arena.outcome ∧
            (Report.ofRun file (run text)).journeys.length = d.journeys.length ∧
            ∀ (i : Nat) (entry : JourneyReport),
              (Report.ofRun file (run text)).journeys[i]? = some entry →
                entry.Tells (run text) i) ∧
      ((run text).isCompleted = false →
        (Report.ofRun file (run text)).journeys = [] ∧
          (Report.ofRun file (run text)).errors = (run text).lines ∧ (run text).lines ≠ []) ∧
      Report.outcomes? (Report.ofRun file (run text)).json = some (run text).outcomes := by
  refine ⟨rfl, rfl, rfl, fun hcompleted => ⟨if_pos hcompleted, ?_⟩, fun hfailed => ⟨?_, ?_, ?_⟩,
    Report.outcomes?_json file _⟩
  · cases hrun : run text with
    | unreadable _ | rejected _ => simp [hrun, Run.isCompleted] at hcompleted
    | completed a outcomes =>
      obtain ⟨d, hread, -, rfl, houtcomes⟩ := Run.run_eq_completed_iff.mp hrun
      refine ⟨d, hread, houtcomes, ?_, fun i entry => Report.tells_of_getElem?⟩
      rw [Report.length_journeys_ofRun]
      show outcomes.length = d.journeys.length
      rw [houtcomes, List.length_map]
      rfl
  · cases hrun : run text with
    | unreadable _ | rejected _ => rfl
    | completed a outcomes => simp [hrun, Run.isCompleted] at hfailed
  · show (if (run text).isCompleted then [] else (run text).lines) = (run text).lines
    rw [hfailed]
    rfl
  · exact Run.lines_ne_nil hfailed

/-- A robot leaves the grid with its second step. The line of the journey does not say where, but the
report does. -/
theorem report_loses_no_journey_exit :
    (Report.ofRun "walk.txt" (run "GRID 2x1\n0 0 E\nFF\n0 0 E")).lines = ["OUT OF BOUNDS"] ∧
      (Report.ofRun "walk.txt" (run "GRID 2x1\n0 0 E\nFF\n0 0 E")).errors = [] ∧
      Report.outcomes? (Report.ofRun "walk.txt" (run "GRID 2x1\n0 0 E\nFF\n0 0 E")).json
        = some [⟨.outOfBounds, ⟨⟨2, 0⟩, .east⟩⟩] := by
  have hlines : (run "GRID 2x1\n0 0 E\nFF\n0 0 E").lines = ["OUT OF BOUNDS"] := by decide +kernel
  have hcompleted : (run "GRID 2x1\n0 0 E\nFF\n0 0 E").isCompleted = true := by decide +kernel
  have houtcomes : (run "GRID 2x1\n0 0 E\nFF\n0 0 E").outcomes
      = [⟨.outOfBounds, ⟨⟨2, 0⟩, .east⟩⟩] := by decide +kernel
  obtain ⟨-, -, hsame, hdriven, -, hread⟩ :=
    report_loses_no_journey "walk.txt" "GRID 2x1\n0 0 E\nFF\n0 0 E"
  exact ⟨hsame.trans hlines, (hdriven hcompleted).1, hread.trans (congrArg some houtcomes)⟩

end GridWalk
