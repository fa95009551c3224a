import GridWalk.Proofs.Careful.Watcher
import GridWalk.Proofs.RoundTrip

/-!
# `GridWalk.Proofs.Faultless`: no run breaks off

A run takes each step as something that cannot fail, and a careful run (`Careful.run`) spells out
how each step could. On every text, and whoever watches, the careful run comes to its end with
what the plain run gives. So no letter is looked up that stands for nothing, no turn leads to a
number without a heading, no number is read from too many digits, no command is unknown, no
ending lacks its verdict, and no rejection is empty.

* `Scene`: a watcher and a log, and the two kinds of hooks that report to them.
* `announce_eq`: careful announcements are plain announcements.
* `careful_run_completes`: a careful run comes to the end of the plain one.
-/

set_option autoImplicit false

namespace GridWalk

/-- All that a run reports to. -/
structure Scene where
  watcher : Watcher
  log : Log

namespace Scene

variable {α β : Type}

/-- The scene with one more record in its log. -/
def add (s : Scene) (r : Record) : Scene :=
  ⟨s.watcher, s.log.add r⟩

/-- The hooks of a plain run. -/
def hooks : Hooks (StateM Scene) where
  observe a event := modify fun s =>
    let (watcher, log) := s.watcher.note a event s.log
    ⟨watcher, log⟩
  log r := modify fun s => s.add r

/-- The hooks of a careful run. -/
def carefulHooks : Hooks (StateT Scene (Except Halt)) where
  observe a event := fun s => do
    let (watcher, log) ← s.watcher.noteCarefully a event s.log
    return ((), ⟨watcher, log⟩)
  log r := modify fun s => s.add r

/-- A plain step as a careful step that does not fail. -/
def certain (x : StateM Scene α) : StateT Scene (Except Halt) α := fun s =>
  .ok (Id.run (x s))

/-- Plain steps in a row. -/
theorem certain_bind (x : StateM Scene α) (f : α → StateM Scene β) :
    certain (x >>= f) = certain x >>= fun a => certain (f a) :=
  rfl

/-- A plain step for each element of a list. -/
theorem certain_forM (f : α → StateM Scene Unit) (xs : List α) :
    certain (forM xs f) = forM xs fun x => certain (f x) := by
  induction xs with
  | nil => rfl
  | cons x xs ih => rw [List.forM_cons, List.forM_cons, certain_bind, ih]

/-- In an arena that is not too wide, careful hooks observe as plain ones. -/
theorem observe_eq {a : Arena} (ha : a.grid.width ≤ 2147483647) (event : Event) :
    carefulHooks.observe a event = certain (hooks.observe a event) := by
  funext s
  show (s.watcher.noteCarefully a event s.log >>= fun _ => _) = _
  rw [Watcher.noteCarefully_eq ha]
  rfl

/-- In an arena that is not too wide, journeys are announced alike. -/
theorem announce_journey_eq {a : Arena} (ha : a.grid.width ≤ 2147483647) (j : Journey) :
    a.announce carefulHooks j = certain (a.announce hooks j) := by
  have hobserve : carefulHooks.observe a = fun event => certain (hooks.observe a event) :=
    funext (observe_eq ha)
  rw [Arena.announce, Arena.announce, certain_bind, certain_forM, hobserve]
  rfl

/-- The grid of a document that was read and has passed the check is not too wide. -/
theorem width_le_of_check {text : String} {d : Document} {a : Arena}
    (hread : Document.read text = .ok d) (hcheck : d.check = .ok a) :
    a.grid.width ≤ 2147483647 := by
  obtain ⟨-, rfl⟩ := Document.check_eq_ok_iff.mp hcheck
  exact (Grammar.writable_of_spells (read_eq_ok_iff.mp hread)).width.2

/-- Every text is announced alike. -/
theorem announce_eq (text : String) :
    Run.announce carefulHooks text = certain (Run.announce hooks text) := by
  unfold Run.announce
  cases hread : Document.read text with
  | error e => rfl
  | ok d =>
    dsimp only
    cases hcheck : d.check with
    | error r => rfl
    | ok a =>
      have hjourney : Arena.announce carefulHooks a
          = fun j => certain (Arena.announce hooks a j) :=
        funext (announce_journey_eq (width_le_of_check hread hcheck))
      dsimp only
      rw [certain_bind, certain_bind, certain_forM, hjourney]
      rfl

end Scene

/-- No run breaks off. Whatever the text is and whoever watches, with whatever they have seen
before, a careful run gives the plain run and its output lines, and it leaves watchers and log as
the plain run does. -/
theorem careful_run_completes (text : String) (scene : Scene) :
    (Careful.run Scene.carefulHooks text).run scene =
      .ok ((run text, execute text), ((Run.ofText Scene.hooks text).run scene).2) := by
  rw [Careful.run_eq, Run.ofText_eq, Run.ofText_eq, Scene.announce_eq]
  rfl

end GridWalk
