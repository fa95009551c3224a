import GridWalk.Proofs.Accounts
import GridWalk.Proofs.RunShapes
import GridWalk.Proofs.Trajectories

/-!
# `GridWalk.Proofs.Lockstep`: who gets which event, and when

To see what an observer gets, it is tapped: `Observer.tapped` notes each event in a list and then
passes it on. This works for any observer in any monad, and the list tells the order of the events
among all observers that are tapped. A run with tapped observers does what the run with the
observers themselves does, and leaves a list that depends on the text alone.

* `Arena.exists_reached_eq`: the poses that a robot reaches are the first ones of its ideal path.
* `Notes.all`: observers in a row get each event one after the other.
* `Notes.noted_eq`: a whole run with a tapped observer.
* `observers_in_lockstep`: all observers get the events of journey after journey, and each of them
  gets what it would get alone.
-/

set_option autoImplicit false

namespace GridWalk

/-! ### The poses of a journey -/

namespace Arena

/-- A robot reaches its start and then one pose of its ideal path for each command in front of the
first that fails. -/
theorem exists_reached_eq {a : Arena} {j : Journey} (h : j.start.cell ∉ a.obstacles) :
    ∃ n, a.reached j = (List.range (n + 1)).map j.idealPose ∧
      (a.FailsFirstAt j.start j.commands n ∨
        n = j.commands.length ∧ ∀ i, ¬a.FailsAt j.start j.commands i) := by
  obtain ⟨n, -, hpath, hend⟩ := exists_course_eq a j.start j.commands
  refine ⟨n, ?_, hend⟩
  rw [reached, if_neg (mt isBlocked_iff.mp h), hpath]
  rfl

/-- On an obstacle it reaches nothing. -/
theorem reached_eq_nil {a : Arena} {j : Journey} (h : j.start.cell ∈ a.obstacles) :
    a.reached j = [] := by
  rw [reached, if_pos (isBlocked_iff.mpr h)]

end Arena

/-! ### Taps -/

/-- What an observer gets. The place tells which observer of a row it is. -/
structure Delivery where
  place : Nat
  arena : Arena
  event : Event

/-- What the observers at the places get of a run, and in which order. -/
def Run.deliveries (places : List Nat) : Run → List Delivery
  | completed a _ => (a.journeys.flatMap a.events).flatMap fun e => places.map fun i => ⟨i, a, e⟩
  | _ => []

/-- Notes of the events of a run, added one after the other, are its deliveries. -/
theorem Run.account_deliveries (places : List Nat) (s : List Delivery) (r : Run) :
    r.account (fun a s e => s ++ places.map fun i => ⟨i, a, e⟩) s = s ++ r.deliveries places := by
  cases r with
  | unreadable e => simp [account, deliveries]
  | rejected refusal => simp [account, deliveries]
  | completed a outcomes =>
    rw [account, deliveries, List.foldl_append_eq_append, ← List.flatMap_def]

section
variable {m : Type → Type} [Monad m]

/-- The observer at the place, with a note of what it gets. -/
def Observer.tapped (place : Nat) (observe : Observer m) : Observer (StateT (List Delivery) m) :=
  fun a e => do
    modify (· ++ [⟨place, a, e⟩])
    observe a e

/-- A run with a tapped observer and any log. It gives the notes as well. -/
def Run.noted (observe : Observer (StateT (List Delivery) m)) (log : Record → m Unit)
    (text : String) : m (Run × List Delivery) :=
  (Run.ofText ⟨observe, fun r => log r⟩ text).run []

/-- The tapped observer does what the plain one does, and each event is noted once for every
place. -/
def Notes (places : List Nat) (plain : Observer m) (observe : Observer (StateT (List Delivery) m)) :
    Prop :=
  ∀ a e s, (observe a e).run s = do
    plain a e
    return ((), s ++ places.map fun i => ⟨i, a, e⟩)

variable [LawfulMonad m]

theorem notes_tapped (place : Nat) (plain : Observer m) :
    Notes [place] plain (plain.tapped place) := by
  intro a e s
  simp [Observer.tapped]

/-- Observers in a row get each event one after the other. -/
theorem Notes.all (observers : List (Observer m)) (place : Nat → Nat) :
    Notes ((List.range observers.length).map place) (Observer.all observers)
      (Observer.all (observers.mapIdx fun i observe => observe.tapped (place i))) := by
  -- The places of the others are those behind the first.
  induction observers generalizing place with
  | nil =>
    intro a e s
    simp [Observer.all]
  | cons observe observers ih =>
    intro a e s
    have hfirst := notes_tapped (place 0) observe a e
    have hothers := ih (fun i => place (i + 1)) a e
    simp only [Observer.all, List.forM_eq_forM] at hothers
    simp [Observer.all, List.mapIdx_cons, List.range_succ_eq_map, hfirst, hothers,
      Function.comp_def]

variable {places : List Nat} {plain : Observer m} {observe : Observer (StateT (List Delivery) m)}

/-- A run with a tapped observer is the run with the plain one, and gives the deliveries of the
text. -/
theorem Notes.noted_eq (h : Notes places plain observe) (log : Record → m Unit) (text : String) :
    Run.noted observe log text = do
      let r ← Run.ofText ⟨plain, log⟩ text
      return (r, (run text).deliveries places) := by
  -- The notes are an account that the tap keeps on top of what the observer does.
  have hkeeps : Observer.Keeps (fun a s e => s ++ places.map fun i => ⟨i, a, e⟩) plain observe := h
  rw [Run.noted, hkeeps.ofText_run, Run.account_deliveries]
  rfl

end

/-- Of the deliveries to a row, those to one place are what is delivered to that place alone. -/
theorem Run.filter_deliveries (r : Run) {n i : Nat} (h : i < n) :
    (r.deliveries (List.range n)).filter (fun x => x.place = i) = r.deliveries [i] := by
  cases r with
  | unreadable e => rfl
  | rejected r => rfl
  | completed a outcomes =>
    have hevent : ∀ e, ((List.range n).map fun k => Delivery.mk k a e).filter (fun x => x.place = i)
        = [⟨i, a, e⟩] := by
      intro e
      rw [List.filter_map]
      show ((List.range n).filter fun k => k = i).map _ = _
      rw [List.filter_eq, List.count_range, if_pos h]
      rfl
    rw [deliveries, List.filter_flatMap, funext hevent]
    rfl

/-- Observers see a run in lockstep.

Let any observers stand in a row, whatever they do, and let each of them be tapped. The run then
does what it does without the taps, and each event has been noted at every place of the row, in
the order of the row, before the next event is noted anywhere. What is noted at one place is what
is noted when that observer stands alone.

Nothing is noted for a text that is no document, and nothing for a document that is refused. For a
document that passes, the events are those of journey after journey: its start, each pose that the
robot reaches, and its end with its outcome. On an obstacle the robot reaches no pose, and
otherwise it reaches the poses of its ideal path in front of the first move that fails, the start
being the first. The output lines are those of the run that nobody watches. -/
theorem observers_in_lockstep {m : Type → Type} [Monad m] [LawfulMonad m]
    (observers : List (Observer m)) (log : Record → m Unit) (text : String) :
    (Run.noted (Observer.all (observers.mapIdx Observer.tapped)) log text = do
        let r ← Run.ofText ⟨Observer.all observers, log⟩ text
        return (r, (run text).deliveries (List.range observers.length))) ∧
      (∀ (i : Nat) (observe : Observer m), Run.noted (observe.tapped i) log text = do
        let r ← Run.ofText ⟨observe, log⟩ text
        return (r, (run text).deliveries [i])) ∧
      (∀ i < observers.length,
        ((run text).deliveries (List.range observers.length)).filter (fun x => x.place = i)
          = (run text).deliveries [i]) ∧
      (∀ e, Document.read text = .error e → ∀ places, (run text).deliveries places = []) ∧
      (∀ d r, Document.read text = .ok d → d.check = .error r →
        ∀ places, (run text).deliveries places = []) ∧
      (∀ d a, Document.read text = .ok d → d.check = .ok a →
        (run text).outcomes = d.journeys.map a.outcome ∧
          (∀ places, (run text).deliveries places =
            (d.journeys.flatMap fun j => Event.started j :: (a.reached j).map Event.reached
                ++ [Event.finished j (a.outcome j)]).flatMap
              fun e => places.map fun i => ⟨i, a, e⟩) ∧
          ∀ j, (j.start.cell ∈ a.obstacles → a.reached j = []) ∧
            (j.start.cell ∉ a.obstacles →
              ∃ n, a.reached j = (List.range (n + 1)).map j.idealPose ∧
                (a.FailsFirstAt j.start j.commands n ∨
                  n = j.commands.length ∧ ∀ i, ¬a.FailsAt j.start j.commands i))) ∧
      Run.lines <$> Run.ofText ⟨Observer.all observers, log⟩ text = do
        Run.announce ⟨Observer.all observers, log⟩ text
        return execute text := by
  have hrow := Notes.all observers id
  rw [List.map_id] at hrow
  refine ⟨hrow.noted_eq log text, fun i observe => (notes_tapped i observe).noted_eq log text,
    fun i hi => (run text).filter_deliveries hi, ?_, ?_, ?_, ?_⟩
  · intro e hread places
    rw [Run.run_eq, hread]
    rfl
  · intro d r hread hcheck places
    rw [Run.run_eq, hread]
    simp only [hcheck]
    rfl
  · intro d a hread hcheck
    have hshape := Run.isCompleted_run hread hcheck
    refine ⟨hshape.outcomes, ?_, fun j => ⟨Arena.reached_eq_nil, Arena.exists_reached_eq⟩⟩
    intro places
    rw [← Document.journeys_of_check hcheck, Run.run_eq, hread]
    simp only [hcheck]
    rfl
  · rw [Run.ofText_eq, map_bind, map_pure]
    rfl

/-- A robot that turns once, between an observer that counts and one that does nothing. -/
theorem observers_in_lockstep_counting :
    LawfulMonad (StateM Nat) ∧
      Run.noted (Observer.all ([fun _ _ => modify (· + 1), Observer.silent].mapIdx Observer.tapped))
          (fun _ => pure ()) "GRID 1x1\n0 0 N\nR\n0 0 E" = (do
        let r ← Run.ofText (m := StateM Nat)
          ⟨Observer.all [fun _ _ => modify (· + 1), Observer.silent], fun _ => pure ()⟩
          "GRID 1x1\n0 0 N\nR\n0 0 E"
        return (r, (run "GRID 1x1\n0 0 N\nR\n0 0 E").deliveries [0, 1])) ∧
      ((run "GRID 1x1\n0 0 N\nR\n0 0 E").deliveries [0, 1]).map (fun x => (x.place, x.event))
        = [.started ⟨⟨⟨0, 0⟩, .north⟩, [.right], ⟨⟨0, 0⟩, .east⟩⟩, .reached ⟨⟨0, 0⟩, .north⟩,
            .reached ⟨⟨0, 0⟩, .east⟩, .finished ⟨⟨⟨0, 0⟩, .north⟩, [.right], ⟨⟨0, 0⟩, .east⟩⟩
              ⟨.success, ⟨⟨0, 0⟩, .east⟩⟩].flatMap fun e => [(0, e), (1, e)] := by
  refine ⟨inferInstance, ?_, by decide +kernel⟩
  exact (observers_in_lockstep (m := StateM Nat) [fun _ _ => modify (· + 1), Observer.silent]
    (fun _ => pure ()) "GRID 1x1\n0 0 N\nR\n0 0 E").1

end GridWalk
