import GridWalk.Observer.Logging
import GridWalk.Observer.Recorder
import GridWalk.Observer.Trace
import GridWalk.Proofs.Careful.Drive

/-!
# `GridWalk.Proofs.Careful.Watcher`: watching with every way to fail

A `Watcher` is an observer with all that it has seen so far: one that does nothing, a recorder, a
picture drawer with any range, a logger, or any number of watchers in a row. An event is noted
twice here. `Watcher.note` is the plain way. `Watcher.noteCarefully` fails where the line of an
outcome, the arrow of a heading or the length of a row of cells may be missing. In an arena that
is not too wide to be written down, the two are the same.

* `drawCarefully_eq`: a careful picture is the plain one.
* `noteCarefully_eq`: careful watching is plain watching.
-/

set_option autoImplicit false

namespace GridWalk

/-- An observer with all that it has seen so far. -/
inductive Watcher
  | silent
  | recorder (r : Recorder)
  | pictures (range : Int) (t : Trace)
  | logger (source : String)
  | all (watchers : List Watcher)

namespace Watcher

/-! ### Plain watching -/

mutual

/-- The watcher and the log after an event. -/
def note (a : Arena) (event : Event) : Watcher → Log → Watcher × Log
  | silent, log => (silent, log)
  | recorder r, log => (recorder (r.note event), log)
  | pictures range t, log => (pictures range (t.note range a event), log)
  | logger source, log => (logger source, log.add (event.record source))
  | all ws, log =>
    let (ws, log) := noteAll a event ws log
    (all ws, log)

/-- The watchers and the log after each of them has noted an event, in their order. -/
def noteAll (a : Arena) (event : Event) : List Watcher → Log → List Watcher × Log
  | [], log => ([], log)
  | w :: ws, log =>
    let (w, log) := note a event w log
    let (ws, log) := noteAll a event ws log
    (w :: ws, log)

end

/-! ### Careful watching -/

/-- The largest number of cells of a row that can be counted. -/
def longestRow : Nat := 9223372036854775807

/-- What is drawn in a cell. The arrow of the robot is looked up by its letter. -/
def markCarefully (a : Arena) (p : Pose) (c : Cell) : Except Halt Char :=
  if p.cell = c then
    match [('N', '^'), ('E', '>'), ('S', 'v'), ('W', '<')].lookup p.heading.letter with
    | some arrow => .ok arrow
    | none => .error (.noEntry p.heading.letter)
  else if a.isBlocked c then .ok Picture.obstacleMark
  else .ok ' '

/-- The line of a row of cells. -/
def rowCarefully (a : Arena) (p : Pose) (columns : List Int) (y : Int) : Except Halt String := do
  let marks ← columns.mapM fun x => markCarefully a p ⟨x, y⟩
  return Picture.numbered y ++ "|"
    ++ "|".intercalate (marks.map fun c => String.ofList [' ', c, ' ']) ++ "|"

/-- The picture of a robot. The columns have to be counted. -/
def drawCarefully (a : Arena) (range : Int) (p : Pose) : Except Halt String := do
  let w := Window.around a.grid range p.cell
  if longestRow < w.columns.length then throw (.tooLong w.columns.length)
  let edge := Picture.border w.columns.length
  let rows ← w.rows.mapM (rowCarefully a p w.columns)
  return "\n".intercalate ((rows.flatMap fun row => [edge, row]) ++ [edge, Picture.axis w.columns])

/-- The entries that an event adds to a trace. -/
def entriesCarefully (range : Int) (a : Arena) : Event → Except Halt (List String)
  | .started j => .ok (Trace.entriesOf range a (.started j))
  | .reached p => return [← drawCarefully a range p]
  | .finished _ o => do
    let line ← Careful.line o.ending
    return ["========= Final state ===========", "[" ++ line ++ "]",
      "========= End of Journey ==========="]

/-- The message of an event in the log. -/
def messageCarefully : Event → Except Halt String
  | .finished _ o => return "Journey end: " ++ (← Careful.line o.ending)
  | event => .ok event.message

mutual

/-- The watcher and the log after an event, if nothing is missing. -/
def noteCarefully (a : Arena) (event : Event) : Watcher → Log → Except Halt (Watcher × Log)
  | silent, log => .ok (silent, log)
  | recorder r, log => .ok (recorder (r.note event), log)
  | pictures range t, log => do
    let entries ← entriesCarefully range a event
    return (pictures range ⟨t.entries ++ entries⟩, log)
  | logger source, log => do
    let message ← messageCarefully event
    return (logger source, log.add ⟨.debug, source, message⟩)
  | all ws, log => do
    let (ws, log) ← noteAllCarefully a event ws log
    return (all ws, log)

/-- The watchers and the log after each of them has noted an event, if nothing is missing. -/
def noteAllCarefully (a : Arena) (event : Event) :
    List Watcher → Log → Except Halt (List Watcher × Log)
  | [], log => .ok ([], log)
  | w :: ws, log => do
    let (w, log) ← noteCarefully a event w log
    let (ws, log) ← noteAllCarefully a event ws log
    return (w :: ws, log)

end

/-! ### Careful watching is plain watching -/

/-- Steps of which none fails. -/
theorem mapM_eq_ok {α β : Type} {f : α → Except Halt β} {g : α → β} (h : ∀ x, f x = .ok (g x))
    (xs : List α) : xs.mapM f = .ok (xs.map g) := by
  rw [show f = fun x => pure (g x) from funext h]
  exact List.mapM_pure

/-- Every heading has its arrow. -/
theorem markCarefully_eq (a : Arena) (p : Pose) (c : Cell) :
    markCarefully a p c = .ok (Picture.mark a p c) := by
  obtain ⟨cell, h⟩ := p
  unfold markCarefully Picture.mark
  split
  · cases h <;> rfl
  · split <;> rfl

/-- A row is drawn alike. -/
theorem rowCarefully_eq (a : Arena) (p : Pose) (columns : List Int) (y : Int) :
    rowCarefully a p columns y = .ok (Picture.row a p columns y) := by
  rw [rowCarefully, mapM_eq_ok fun x => markCarefully_eq a p ⟨x, y⟩]
  show Except.ok _ = _
  rw [List.map_map]
  rfl

/-- The columns of a picture are columns of the grid, so there are no more of them. -/
theorem length_columns_le (g : Grid) (range : Int) (c : Cell) :
    (Window.around g range c).columns.length ≤ g.width.toNat := by
  simp only [Window.columns, Window.around, Window.span, List.length_map, List.length_range]
  omega

/-- A picture of a grid that is not too wide is drawn alike, for every range. -/
theorem drawCarefully_eq {a : Arena} (ha : a.grid.width ≤ 2147483647) (range : Int) (p : Pose) :
    drawCarefully a range p = .ok (Picture.render a range p) := by
  have hcount : ¬longestRow < (Window.around a.grid range p.cell).columns.length := by
    have hle := length_columns_le a.grid range p.cell
    unfold longestRow
    omega
  unfold drawCarefully
  dsimp only
  rw [if_neg hcount, mapM_eq_ok (rowCarefully_eq a p _)]
  show Except.ok _ = _
  rw [List.flatMap_map]
  rfl

/-- The entries of a trace are the same. -/
theorem entriesCarefully_eq {a : Arena} (ha : a.grid.width ≤ 2147483647) (range : Int)
    (event : Event) : entriesCarefully range a event = .ok (Trace.entriesOf range a event) := by
  cases event with
  | started j => rfl
  | reached p =>
    rw [entriesCarefully, drawCarefully_eq ha]
    rfl
  | finished j o => rfl

/-- The messages in the log are the same. -/
theorem messageCarefully_eq (event : Event) : messageCarefully event = .ok event.message := by
  cases event <;> rfl

mutual

/-- In an arena that is not too wide, careful watching is plain watching. -/
theorem noteCarefully_eq {a : Arena} (ha : a.grid.width ≤ 2147483647) (event : Event)
    (w : Watcher) (log : Log) : noteCarefully a event w log = .ok (note a event w log) := by
  cases w with
  | silent => rw [noteCarefully, note]
  | recorder r => rw [noteCarefully, note]
  | pictures range t =>
    rw [noteCarefully, note, entriesCarefully_eq ha]
    rfl
  | logger source =>
    rw [noteCarefully, note, messageCarefully_eq]
    rfl
  | all ws =>
    rw [noteCarefully, note, noteAllCarefully_eq ha event ws log]
    rfl

/-- All watchers note alike. -/
theorem noteAllCarefully_eq {a : Arena} (ha : a.grid.width ≤ 2147483647) (event : Event)
    (ws : List Watcher) (log : Log) :
    noteAllCarefully a event ws log = .ok (noteAll a event ws log) := by
  cases ws with
  | nil => rw [noteAllCarefully, noteAll]
  | cons w ws =>
    rw [noteAllCarefully, noteAll, noteCarefully_eq ha event w log]
    show (noteAllCarefully a event ws (note a event w log).2 >>= _) = _
    rw [noteAllCarefully_eq ha event ws _]
    rfl

end

end Watcher
end GridWalk
