import GridWalk.Arena.Drive
import GridWalk.Run

/-!
# `GridWalk.Proofs.Announcements`: a run and what it announces

A run reports to hooks in any monad. What it reports depends only on the text, and the hooks give
nothing back. So in every lawful monad a run is its announcements, in their order, and then the
result of the same run when nobody watches.

* `Arena.course`: the poses that a robot reaches, up to the first command that fails.
* `Arena.events`: all events of one journey.
* `Arena.simulate_eq`: a simulation announces the events of journey after journey.
* `Run.ofText_eq`: a run announces what it reads, what it checks, and the simulation.
-/

set_option autoImplicit false

namespace GridWalk

namespace Arena

/-- The outcome of commands from a pose on when nobody watches. -/
def outcomeFrom (a : Arena) (goal p : Pose) (ks : List Command) : Outcome :=
  Id.run (walk (fun _ => pure ()) a goal p ks)

/-- The outcome of a journey when nobody watches. -/
def outcome (a : Arena) (j : Journey) : Outcome :=
  Id.run (travel Hooks.silent a j)

/-- The poses that commands lead to from a pose on, up to the first command that fails. The pose
itself is not among them. -/
def course (a : Arena) : Pose → List Command → List Pose
  | _, [] => []
  | p, k :: ks =>
    match a.step p k with
    | .error _ => []
    | .ok q => q :: course a q ks

/-- The poses that a robot reaches on its journey. It reaches none when it starts on an
obstacle. -/
def reached (a : Arena) (j : Journey) : List Pose :=
  if a.isBlocked j.start.cell then [] else j.start :: a.course j.start j.commands

/-- The events of a journey. -/
def events (a : Arena) (j : Journey) : List Event :=
  .started j :: (a.reached j).map .reached ++ [.finished j (a.outcome j)]

/-- What is announced about one journey: its events, and then its record. -/
def announce {m : Type → Type} [Monad m] (hooks : Hooks m) (a : Arena) (j : Journey) : m Unit := do
  forM (a.events j) (hooks.observe a)
  hooks.log (journeyRecord j (a.outcome j))

/-! ### One journey -/

/-- Without commands the robot has arrived. -/
@[simp]
theorem outcomeFrom_nil (a : Arena) (goal p : Pose) : a.outcomeFrom goal p [] = arrive goal p :=
  rfl

/-- The first command fails, or the others are carried out from where it leads. -/
theorem outcomeFrom_cons (a : Arena) (goal p : Pose) (k : Command) (ks : List Command) :
    a.outcomeFrom goal p (k :: ks) = match a.step p k with
      | .error outcome => outcome
      | .ok q => a.outcomeFrom goal q ks := by
  rw [outcomeFrom, walk]
  cases a.step p k <;> rfl

/-- A journey ends at its start when that is blocked, and where its commands lead otherwise. -/
theorem outcome_eq (a : Arena) (j : Journey) :
    a.outcome j = if a.isBlocked j.start.cell then ⟨.crashed, j.start⟩
      else a.outcomeFrom j.goal j.start j.commands := by
  -- Hooks that do nothing leave of a journey the drive alone.
  show Id.run (drive (fun _ => pure ()) a j) = _
  unfold drive
  split <;> rfl

/-- A journey sees of its arena only the grid and the obstacles. -/
theorem outcome_congr {a b : Arena} (hgrid : a.grid = b.grid) (hobstacles : a.obstacles = b.obstacles)
    (j : Journey) : a.outcome j = b.outcome j := by
  have hstep : a.step = b.step := by
    funext p k
    cases k with
    | left => rfl
    | right => rfl
    | forward =>
      show a.advance p = b.advance p
      rw [advance, advance, isBlocked, isBlocked, hgrid, hobstacles]
  have hwalk (goal p : Pose) (ks : List Command) :
      a.outcomeFrom goal p ks = b.outcomeFrom goal p ks := by
    induction ks generalizing p with
    | nil => rfl
    | cons k ks ih => simp only [outcomeFrom_cons, hstep, ih]
  rw [outcome_eq, outcome_eq, hwalk, isBlocked, isBlocked, hobstacles]

section
variable {m : Type → Type} [Monad m] [LawfulMonad m]

/-- Commands announce their course and end as they do when nobody watches. -/
theorem walk_eq (reach : Pose → m Unit) (a : Arena) (goal p : Pose) (ks : List Command) :
    walk reach a goal p ks = do
      forM (a.course p ks) reach
      return a.outcomeFrom goal p ks := by
  -- What the first command announces stands in front of what the others announce.
  induction ks generalizing p with
  | nil => simp [walk, course]
  | cons k ks ih =>
    rw [walk, course, outcomeFrom_cons]
    cases a.step p k with
    | error outcome => simp
    | ok q => simp [ih]

/-- A journey announces the poses that it reaches and ends as it does when nobody watches. -/
theorem drive_eq (reach : Pose → m Unit) (a : Arena) (j : Journey) :
    drive reach a j = do
      forM (a.reached j) reach
      return a.outcome j := by
  rw [drive, reached, outcome_eq]
  split
  · simp
  · simp [walk_eq]

/-- A journey makes its announcements and ends as it does when nobody watches. -/
theorem travel_eq (hooks : Hooks m) (a : Arena) (j : Journey) :
    travel hooks a j = do
      announce hooks a j
      return a.outcome j := by
  simp [travel, announce, events, drive_eq]

/-! ### All journeys -/

/-- Steps that each do something and then give a value do all of it in order and give all
values. -/
theorem mapM_eq_forM {α β : Type} {f : α → m β} {effect : α → m Unit} {value : α → β}
    (h : ∀ x, f x = do effect x; return value x) (xs : List α) :
    xs.mapM f = do
      forM xs effect
      return xs.map value := by
  induction xs with
  | nil => simp
  | cons x xs ih => simp [h, ih]

/-- Steps that each do something and move a state on do all of it in order and move the state from
step to step. -/
theorem run_forM {σ α : Type} {f : α → StateT σ m Unit} {e : α → m Unit} {g : σ → α → σ}
    (h : ∀ x s, (f x).run s = do e x; return ((), g s x)) (xs : List α) (s : σ) :
    (forM xs f).run s = do
      forM xs e
      return ((), xs.foldl g s) := by
  induction xs generalizing s with
  | nil => simp
  | cons x xs ih => simp [h, ih]

/-- A simulation makes the announcements of journey after journey. Its outcomes are those of the
single journeys. -/
theorem simulate_eq (hooks : Hooks m) (a : Arena) :
    a.simulate hooks = do
      forM a.journeys (announce hooks a)
      return a.journeys.map a.outcome :=
  mapM_eq_forM (travel_eq hooks a) a.journeys

end

/-- One outcome for each journey, in document order. -/
theorem outcomes_eq_map (a : Arena) : a.outcomes = a.journeys.map a.outcome := by
  rw [outcomes, simulate_eq]
  rfl

end Arena

/-! ### Whole runs -/

namespace Run

variable {m : Type → Type} [Monad m]

/-- What a run on a text announces. -/
def announce (hooks : Hooks m) (text : String) : m Unit :=
  match Document.read text with
  | .error e => hooks.log (unreadableRecord e)
  | .ok d => do
    hooks.log (readRecord d)
    match d.check with
    | .error r => hooks.log (rejectedRecord r)
    | .ok a => do
      hooks.log (acceptedRecord d a)
      forM a.journeys (Arena.announce hooks a)

/-- A run on a text when nobody watches. -/
theorem run_eq (text : String) :
    run text = match Document.read text with
      | .error e => .unreadable e
      | .ok d =>
        match d.check with
        | .error r => .rejected r
        | .ok a => .completed a a.outcomes := by
  unfold run ofText
  cases Document.read text with
  | error e => rfl
  | ok d =>
    dsimp only
    cases d.check <;> rfl

/-- A run makes its announcements and gives what it gives when nobody watches. -/
theorem ofText_eq [LawfulMonad m] (hooks : Hooks m) (text : String) :
    ofText hooks text = do
      announce hooks text
      return run text := by
  rw [run_eq, ofText, announce]
  cases Document.read text with
  | error e => rfl
  | ok d =>
    dsimp only
    cases d.check with
    | error r => simp
    | ok a => simp [Arena.simulate_eq, Arena.outcomes_eq_map]

end Run

end GridWalk
