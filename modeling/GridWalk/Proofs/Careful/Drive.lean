import GridWalk.Proofs.Announcements
import GridWalk.Proofs.Careful.Reader

/-!
# `GridWalk.Proofs.Careful.Drive`: running with every way to fail

A run in small steps that could fail: a turn computes with the numbers of headings, a move looks
its heading up in a table, an ending may lack its verdict, a rejection needs a notice. In every
monad that can report a `Halt`, whatever the hooks do there, such a run is the plain run together
with its output lines. So all failures are those of the hooks.

* `Careful.run`: the careful run.
* `step_eq`, `drive_eq`, `check_eq`: careful steps are plain steps.
* `run_eq`: a careful run is the plain run.
-/

set_option autoImplicit false

namespace GridWalk

/-- An outcome is an ending with a verdict. -/
def Outcome.ending (o : Outcome) : Ending :=
  ⟨some o.verdict, o.pose⟩

namespace Careful

variable {m : Type → Type} [Monad m] [MonadExceptOf Halt m]

/-! ### Small steps -/

/-- The heading with the number. -/
def headingOf (value : Int) : m Heading :=
  match [Heading.north, .east, .south, .west].find? fun h => (h.value : Int) == value with
  | some h => pure h
  | none => throw (.noHeading value)

/-- The entry of a heading in a table. -/
def entry {α : Type} (table : List (Heading × α)) (h : Heading) : m α :=
  match table.lookup h with
  | some a => pure a
  | none => throw (.noEntry h.letter)

/-- Turns by so many eighths of a full turn, clockwise. -/
def turn (p : Pose) (eighths : Int) : m Pose := do
  let h ← headingOf ((p.heading.value + eighths) % 8)
  return ⟨p.cell, h⟩

/-- The robot one cell ahead. -/
def ahead (p : Pose) : m Pose := do
  let (dx, dy) ←
    entry [(.north, 0, 1), (.east, 1, 0), (.south, 0, -1), (.west, -1, 0)] p.heading
  return ⟨⟨p.cell.x + dx, p.cell.y + dy⟩, p.heading⟩

/-- Moves one cell ahead, or ends. -/
def advance (a : Arena) (p : Pose) : m (Except Ending Pose) := do
  let q ← ahead p
  if !a.grid.contains q.cell then return .error ⟨some .outOfBounds, q⟩
  if a.isBlocked q.cell then return .error ⟨some .crashed, q⟩
  return .ok q

/-- Carries out one command, if it is one of the three. -/
def step (a : Arena) (p : Pose) (k : Command) : m (Except Ending Pose) := do
  if k = .left then return .ok (← turn p (-2))
  if k = .right then return .ok (← turn p 2)
  if k = .forward then return ← advance a p
  throw (.fault (.notCommand k.name))

/-! ### Journeys -/

/-- Carries out commands from a pose. -/
def walk (reach : Pose → m Unit) (a : Arena) (goal : Pose) : Pose → List Command → m Ending
  | p, [] => pure (if p = goal then ⟨some .success, p⟩ else ⟨some .unexpectedEnd, p⟩)
  | p, k :: ks => do
    match ← step a p k with
    | .error ending => return ending
    | .ok q =>
      reach q
      walk reach a goal q ks

/-- Drives a journey from its start on. -/
def drive (reach : Pose → m Unit) (a : Arena) (j : Journey) : m Ending := do
  if a.isBlocked j.start.cell then return ⟨some .crashed, j.start⟩
  reach j.start
  walk reach a j.goal j.start j.commands

/-- The outcome of an ending that has a verdict. -/
def outcome (e : Ending) : m Outcome :=
  match e.verdict with
  | some v => pure ⟨v, e.pose⟩
  | none => throw (.fault (.noVerdict e.describe))

/-- The output line of an ending that has a verdict. -/
def line (e : Ending) : m String :=
  demand e.line

/-- Drives one journey and reports it. -/
def travel (hooks : Hooks m) (a : Arena) (j : Journey) : m Ending := do
  hooks.observe a (.started j)
  let ending ← drive (fun p => hooks.observe a (.reached p)) a j
  let o ← outcome ending
  hooks.observe a (.finished j o)
  hooks.log (Arena.journeyRecord j o)
  return ending

/-- Drives all journeys. -/
def simulate (hooks : Hooks m) (a : Arena) : m (List Ending) :=
  a.journeys.mapM (travel hooks a)

/-! ### Runs -/

/-- Checks a document. A rejection is built from the notices, of which there has to be one. -/
def check (d : Document) : m (Except Rejection Arena) := do
  let notices := d.violations.map Notice.ofViolation
  if notices.isEmpty then return .ok d.arena
  return .error (← demand (Rejection.ofNotices notices))

/-- Runs a text and gives its output lines as well. The only failure that it handles is that of a
text that is no document. -/
def run (hooks : Hooks m) (text : String) : m (Run × List String) :=
  match document (Cursor.start text.toList) with
  | .error (.refused e) _ => do
    hooks.log (Run.unreadableRecord e)
    return (.unreadable e, [e.outputLine])
  | .error h _ => throw h
  | .ok d _ => do
    hooks.log (Run.readRecord d)
    match ← check d with
    | .error r =>
      hooks.log (Run.rejectedRecord r)
      return (.rejected r, r.notices.map Notice.line)
    | .ok a =>
      hooks.log (Run.acceptedRecord d a)
      let endings ← simulate hooks a
      let outcomes ← endings.mapM outcome
      let lines ← endings.mapM line
      return (.completed a outcomes, lines)

/-! ### Careful steps are plain steps -/

section
variable {n : Type → Type} [Monad n] [LawfulMonad n]

/-- Steps whose values are changed afterwards. -/
theorem mapM_map_eq {α β γ : Type} {f : α → n γ} {g : α → n β} {h : β → γ}
    (hf : ∀ x, f x = h <$> g x) (xs : List α) : xs.mapM f = List.map h <$> xs.mapM g := by
  induction xs with
  | nil => simp
  | cons x xs ih => simp [hf, ih]

/-- What can be asked of every outcome can be asked of all endings that come from outcomes. -/
theorem mapM_ending {α : Type} {f : Ending → n α} {g : Outcome → α}
    (hf : ∀ o : Outcome, f o.ending = pure (g o)) (os : List Outcome) :
    (os.map Outcome.ending).mapM f = pure (os.map g) := by
  induction os with
  | nil => rfl
  | cons o os ih => simp [hf, ih]

end

variable [LawfulMonad m]

/-- Two eighths to the left of a heading there is a heading. -/
theorem turn_left_eq (p : Pose) : turn p (-2) = (pure p.turnLeft : m Pose) := by
  obtain ⟨cell, h⟩ := p
  have hleft : headingOf ((h.value + -2) % 8) = (pure h.turnLeft : m Heading) := by
    cases h <;> rfl
  rw [turn, hleft, pure_bind]
  rfl

/-- Two eighths to the right of a heading there is a heading. -/
theorem turn_right_eq (p : Pose) : turn p 2 = (pure p.turnRight : m Pose) := by
  obtain ⟨cell, h⟩ := p
  have hright : headingOf ((h.value + 2) % 8) = (pure h.turnRight : m Heading) := by
    cases h <;> rfl
  rw [turn, hright, pure_bind]
  rfl

/-- Every heading has its entry in the table of moves. -/
theorem ahead_eq (p : Pose) : ahead p = (pure p.ahead : m Pose) := by
  obtain ⟨cell, h⟩ := p
  have hentry : entry [(.north, 0, 1), (.east, 1, 0), (.south, 0, -1), (.west, -1, 0)] h
      = (pure (h.dx, h.dy) : m (Int × Int)) := by
    cases h <;> rfl
  rw [ahead, hentry, pure_bind]
  rfl

/-- A careful move ends as the plain one, and its ending has the verdict. -/
theorem advance_eq (a : Arena) (p : Pose) :
    advance a p = (pure ((a.advance p).mapError Outcome.ending) : m _) := by
  rw [advance, ahead_eq, pure_bind, Arena.advance]
  cases a.grid.contains p.ahead.cell with
  | false => rfl
  | true => cases a.isBlocked p.ahead.cell <;> rfl

/-- A careful command does what the plain one does. There are no other commands than the three. -/
theorem step_eq (a : Arena) (p : Pose) (k : Command) :
    step a p k = (pure ((a.step p k).mapError Outcome.ending) : m _) := by
  cases k with
  | left =>
    rw [step, if_pos rfl, turn_left_eq, pure_bind]
    rfl
  | right =>
    rw [step, if_neg Command.noConfusion, if_pos rfl, turn_right_eq, pure_bind]
    rfl
  | forward =>
    simp only [step, reduceCtorEq, if_false, if_true]
    exact advance_eq a p

/-- Careful commands end as the plain ones. -/
theorem walk_eq (reach : Pose → m Unit) (a : Arena) (goal p : Pose) (ks : List Command) :
    walk reach a goal p ks = Outcome.ending <$> Arena.walk reach a goal p ks := by
  induction ks generalizing p with
  | nil =>
    rw [walk, Arena.walk, map_pure, Arena.arrive]
    split <;> rfl
  | cons k ks ih =>
    rw [walk, Arena.walk, step_eq, pure_bind]
    cases a.step p k with
    | error o => exact (map_pure Outcome.ending o).symm
    | ok q =>
      show (do reach q; walk reach a goal q ks) = _
      rw [ih, map_bind]

/-- A careful journey ends as the plain one. -/
theorem drive_eq (reach : Pose → m Unit) (a : Arena) (j : Journey) :
    drive reach a j = Outcome.ending <$> Arena.drive reach a j := by
  rw [drive, Arena.drive]
  split
  · rw [map_pure]
    rfl
  · simp [walk_eq]

omit [LawfulMonad m] in
/-- An ending that comes from an outcome leads back to it. -/
theorem outcome_ending (o : Outcome) : outcome o.ending = (pure o : m Outcome) :=
  rfl

omit [LawfulMonad m] in
/-- An ending that comes from an outcome has its output line. -/
theorem line_ending (o : Outcome) : line o.ending = (pure o.line : m String) :=
  rfl

/-- A careful journey is reported as the plain one, and ends alike. -/
theorem travel_eq (hooks : Hooks m) (a : Arena) (j : Journey) :
    travel hooks a j = Outcome.ending <$> Arena.travel hooks a j := by
  simp [travel, Arena.travel, drive_eq, outcome_ending]

/-- A careful simulation is the plain one. -/
theorem simulate_eq (hooks : Hooks m) (a : Arena) :
    simulate hooks a = List.map Outcome.ending <$> a.simulate hooks :=
  mapM_map_eq (travel_eq hooks a) a.journeys

/-- A careful check is the plain one. A rejection is only built when there are notices. -/
theorem check_eq (d : Document) : check d = (pure d.check : m _) := by
  unfold check Document.check
  cases d.violations with
  | nil => rfl
  | cons v vs => simp [demand, Rejection.ofNotices]

/-- A careful run is the plain run, with its output lines. -/
theorem run_eq (hooks : Hooks m) (text : String) :
    run hooks text = do
      let r ← Run.ofText hooks text
      return (r, r.lines) := by
  rw [run, agrees_document.run_eq (Cursor.inside_start text.toList), Run.ofText, Document.read]
  cases Rule.document (Cursor.start text.toList) with
  | error e c => simp [answer, Run.lines]
  | ok d c =>
    simp only [answer, check_eq, pure_bind]
    cases d.check with
    | error r => simp [Run.lines, Rejection.lines]
    | ok a =>
      simp only [simulate_eq, bind_map_left, mapM_ending outcome_ending, mapM_ending line_ending,
        pure_bind, bind_assoc, List.map_id']
      rfl

end Careful
end GridWalk
