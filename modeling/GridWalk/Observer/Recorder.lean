import GridWalk.Observer

/-!
# `GridWalk.Observer.Recorder`: the trajectories of a run

A recorder keeps the poses of every journey and its outcome, in document order. A journey that
starts on an obstacle reaches no pose. Its trajectory is its start alone, so no trajectory is
empty.
-/

set_option autoImplicit false

namespace GridWalk

/-- The trajectories and outcomes of the finished journeys, and the poses of the current one. -/
structure Recorder where
  paths : Array (List Pose)
  outcomes : Array Outcome
  current : Array Pose

namespace Recorder

/-- Nothing is recorded yet. -/
def empty : Recorder :=
  ⟨#[], #[], #[]⟩

/-- The recorder after an event. -/
def note (r : Recorder) : Event → Recorder
  | .started _ => { r with current := #[] }
  | .reached p => { r with current := r.current.push p }
  | .finished j outcome =>
    let path := if r.current.isEmpty then [j.start] else r.current.toList
    ⟨r.paths.push path, r.outcomes.push outcome, #[]⟩

/-- The finished journeys, each as its trajectory and its outcome. -/
def trips (r : Recorder) : List (List Pose × Outcome) :=
  r.paths.toList.zip r.outcomes.toList

/-- Records the events in the recorder that the monad carries. -/
def observer {m : Type → Type} [MonadStateOf Recorder m] : Observer m :=
  fun _ event => modifyThe Recorder fun r => r.note event

end Recorder

end GridWalk
