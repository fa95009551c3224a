import GridWalk.Observer.Trace
import GridWalk.Proofs.Accounts
import GridWalk.Proofs.Lockstep
import Mathlib.Algebra.Ring.Nat
import Mathlib.Data.List.Basic

/-!
# `GridWalk.Proofs.PictureTrace`: the trace of a run, entry by entry

The observer of a trace keeps an account: each event adds its entries, and nothing is taken away.
So the trace of a run is made of the entries of its events. They come in chapters, one for each
journey. A chapter has one entry that opens with a bracket, and that is the output line of its
journey: a banner opens with an equals sign, and a picture with a blank.

* `Run.traced`: a run with the trace that it leaves.
* `Trace.chapter`: the entries of one journey.
* `Run.traced_eq` and `Run.toList_account`: the entries of a run.
* `Run.filter_entries`: the output lines among them.
* `trace_mirrors_run`: the whole trace, its length, and the output lines in it.
-/

set_option autoImplicit false

namespace GridWalk

/-- A run on a text, and the trace that it leaves in an empty one. -/
def Run.traced (range : Int) (text : String) : Run × Trace :=
  (Run.ofText (m := StateM Trace) (Hooks.watching (Trace.observer range)) text).run Trace.empty

namespace Trace

/-- The entries of one journey: the banner, a picture for each pose that the robot reaches, and the
output line between two headlines. -/
def chapter (range : Int) (a : Arena) (j : Journey) : List String :=
  ("== Starting Journey from " ++ j.start.describe ++ " to " ++ j.goal.describe ++ " ==")
    :: (a.reached j).map (Picture.render a range)
    ++ ["========= Final state ===========", "[" ++ (a.outcome j).line ++ "]",
      "========= End of Journey ==========="]

/-- The entry opens with a bracket. -/
def isBracketed (entry : String) : Bool :=
  entry.toList.head? == some '['

end Trace

/-- The entries of a run, chapter by chapter. Only a run that is completed has any. -/
def Run.entries (range : Int) : Run → List String
  | completed a _ => a.journeys.flatMap (Trace.chapter range a)
  | _ => []

/-! ### From events to chapters -/

namespace Trace

variable {range : Int} {a : Arena} {j : Journey}

/-- Events add their entries one after the other. -/
theorem foldl_note (range : Int) (a : Arena) (es : List Event) (t : Trace) :
    (es.foldl (note range a) t).entries.toList
      = t.entries.toList ++ es.flatMap (entriesOf range a) := by
  induction es generalizing t with
  | nil => simp
  | cons e es ih => simp [note, ih]

/-- The events of a journey add its chapter. -/
theorem flatMap_events (range : Int) (a : Arena) (j : Journey) :
    (a.events j).flatMap (entriesOf range a) = chapter range a j := by
  have hpictures : ((a.reached j).map Event.reached).flatMap (entriesOf range a)
      = (a.reached j).map (Picture.render a range) := by
    rw [List.flatMap_map, List.map_eq_flatMap]
    rfl
  simp [Arena.events, hpictures, entriesOf, chapter]

/-- A chapter has four entries besides its pictures. -/
theorem length_chapter : (chapter range a j).length = 4 + (a.reached j).length := by
  simp only [chapter, List.cons_append, List.length_cons, List.length_append, List.length_map,
    List.length_nil]
  omega

end Trace

namespace Run

/-- A run with a trace is the run and an account of it. -/
theorem traced_eq (range : Int) (text : String) :
    traced range text = (run text, (run text).account (Trace.note range) Trace.empty) :=
  ofText_watching_run (fun _ _ _ => rfl) text Trace.empty

/-- The account has the entries of the run. -/
theorem toList_account (range : Int) (r : Run) :
    (r.account (Trace.note range) Trace.empty).entries.toList = r.entries range := by
  cases r with
  | unreadable e => rfl
  | rejected refusal => rfl
  | completed a outcomes =>
    rw [account, Trace.foldl_note, List.flatMap_assoc]
    simp only [Trace.flatMap_events]
    rfl

end Run

/-! ### How entries open -/

/-- A picture opens with a blank, also when its window is empty. -/
theorem Picture.head?_render (a : Arena) (range : Int) (p : Pose) :
    (render a range p).toList.head? = some ' ' := by
  -- With and without rows, the first line of a picture is an edge.
  have hedge : ∃ rest, lines a range p
      = border (Window.around a.grid range p.cell).columns.length :: rest := by
    simp only [lines]
    cases (Window.around a.grid range p.cell).rows with
    | nil => exact ⟨_, rfl⟩
    | cons y ys => exact ⟨_, rfl⟩
  obtain ⟨rest, hlines⟩ := hedge
  rw [render, hlines, String.toList_intercalate, List.map_cons]
  cases rest <;> simp [border, List.intercalate_cons_cons]

/-- The one entry of a chapter that opens with a bracket is the output line. -/
theorem Trace.filter_chapter (range : Int) (a : Arena) (j : Journey) :
    (chapter range a j).filter isBracketed = ["[" ++ (a.outcome j).line ++ "]"] := by
  have hpictures : ((a.reached j).map (Picture.render a range)).filter isBracketed = [] := by
    rw [List.filter_eq_nil_iff]
    intro entry hentry
    obtain ⟨p, -, rfl⟩ := List.mem_map.mp hentry
    simp [isBracketed, Picture.head?_render]
  simp [chapter, hpictures, isBracketed]

/-- The entries of a run that open with a bracket are the lines of its outcomes. -/
theorem Run.filter_entries (range : Int) (text : String) :
    ((run text).entries range).filter Trace.isBracketed
      = (run text).outcomes.map fun o => "[" ++ o.line ++ "]" := by
  cases h : run text with
  | unreadable e => rfl
  | rejected r => rfl
  | completed a outcomes =>
    obtain ⟨-, -, -, -, rfl⟩ := run_eq_completed_iff.mp h
    rw [entries, List.filter_flatMap]
    simp only [Trace.filter_chapter, ← List.map_eq_flatMap, outcomes, List.map_map,
      Function.comp_def]

/-- The trace mirrors the run, with any reach of its pictures.

To watch does not change the run. A run that is not completed leaves no entries. A run that is
completed leaves a chapter for each journey, in document order: the banner with its start and its
goal, the picture of each pose that the robot reaches, and the output line in brackets between two
headlines. There are no pictures when the robot starts on an obstacle. So there are four entries
for each journey, and one for each pose reached. The entries that open with a bracket are the
output lines, which are all that is written then. -/
theorem trace_mirrors_run (range : Int) (text : String) :
    (Run.traced range text).1 = run text ∧
      ((run text).isCompleted = false → (Run.traced range text).2.entries = #[]) ∧
      (∀ a outcomes, run text = .completed a outcomes →
        (Run.traced range text).2.entries.toList
            = a.journeys.flatMap (fun j =>
              ("== Starting Journey from " ++ j.start.describe ++ " to " ++ j.goal.describe
                  ++ " ==")
                :: (a.reached j).map (Picture.render a range)
                ++ ["========= Final state ===========", "[" ++ (a.outcome j).line ++ "]",
                  "========= End of Journey ==========="]) ∧
          (Run.traced range text).2.entries.size
            = (a.journeys.map fun j => 4 + (a.reached j).length).sum ∧
          (∀ j ∈ a.journeys, j.start.cell ∈ a.obstacles → a.reached j = []) ∧
          (Run.traced range text).2.entries.toList.filter Trace.isBracketed
            = (execute text).map fun line => "[" ++ line ++ "]") := by
  have hentries := Run.toList_account range (run text)
  rw [Run.traced_eq]
  refine ⟨rfl, ?_, ?_⟩
  · intro hrejected
    cases h : run text with
    | unreadable e => rfl
    | rejected r => rfl
    | completed a outcomes =>
      rw [h] at hrejected
      cases hrejected
  · intro a outcomes h
    have hlines : execute text = (run text).outcomes.map Outcome.line := by
      show (run text).lines = _
      rw [h]
      rfl
    refine ⟨?_, ?_, ?_, ?_⟩
    · rw [hentries, h]
      rfl
    · rw [← Array.length_toList, hentries, h, Run.entries, List.length_flatMap]
      simp only [Trace.length_chapter]
    · exact fun j _ => Arena.reached_eq_nil
    · rw [hentries, Run.filter_entries, hlines, List.map_map]
      rfl

/-- A robot that turns once, and one that starts on an obstacle: a picture for each of the two poses
of the first, none for the second. -/
theorem trace_mirrors_run_obstacle :
    ∃ a outcomes,
      run "GRID 2x1 OBSTACLE 1 0\n0 0 N\nR\n0 0 E\n1 0 N\nR\n1 0 E" = .completed a outcomes ∧
        (Run.traced 2 "GRID 2x1 OBSTACLE 1 0\n0 0 N\nR\n0 0 E\n1 0 N\nR\n1 0 E").2.entries.size
          = 10 := by
  have hread : Document.read "GRID 2x1 OBSTACLE 1 0\n0 0 N\nR\n0 0 E\n1 0 N\nR\n1 0 E"
      = .ok ⟨⟨2, 1⟩, [⟨1, 0⟩], [⟨⟨⟨0, 0⟩, .north⟩, [.right], ⟨⟨0, 0⟩, .east⟩⟩,
        ⟨⟨⟨1, 0⟩, .north⟩, [.right], ⟨⟨1, 0⟩, .east⟩⟩]⟩ := by
    decide +kernel
  have hrun := Run.run_eq_completed_iff.mpr
    ⟨_, hread, Document.violations_eq_nil_iff.mp (by decide), rfl, rfl⟩
  obtain ⟨-, -, hcompleted⟩ := trace_mirrors_run 2
    "GRID 2x1 OBSTACLE 1 0\n0 0 N\nR\n0 0 E\n1 0 N\nR\n1 0 E"
  obtain ⟨-, hsize, -⟩ := hcompleted _ _ hrun
  exact ⟨_, _, hrun, hsize.trans (by decide)⟩

end GridWalk
