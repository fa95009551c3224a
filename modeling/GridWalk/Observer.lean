import GridWalk.Arena
import GridWalk.Log
import GridWalk.Outcome

/-!
# `GridWalk.Observer`: who watches a run

While robots drive, events are announced: a journey starts, a pose is reached, a journey is
finished. An observer is what is done for each event, in any monad. It sees the arena and the
event and gives nothing back, so it cannot change how a journey ends. `Hooks` bundles the
observer of a run with its log.
-/

set_option autoImplicit false

namespace GridWalk

/-- What happens while robots drive. A journey that starts on an obstacle reaches no pose. -/
inductive Event
  | started (journey : Journey)
  | reached (pose : Pose)
  | finished (journey : Journey) (outcome : Outcome)
deriving DecidableEq

/-- What is done for each event. -/
abbrev Observer (m : Type → Type) : Type :=
  Arena → Event → m Unit

namespace Observer

variable {m : Type → Type} [Monad m]

/-- Nothing is done. -/
def silent : Observer m :=
  fun _ _ => pure ()

/-- Each event goes to every observer of the list, in the order of the list, before the next
event goes to any. -/
def all (observers : List (Observer m)) : Observer m :=
  fun arena event => observers.forM fun observe => observe arena event

end Observer

/-- What a run reports to while it proceeds. -/
structure Hooks (m : Type → Type) where
  observe : Observer m
  log : Record → m Unit

namespace Hooks

variable {m : Type → Type} [Monad m]

/-- Nobody watches. -/
def silent : Hooks m :=
  ⟨Observer.silent, fun _ => pure ()⟩

/-- Only the events are watched. -/
def watching (observe : Observer m) : Hooks m :=
  ⟨observe, fun _ => pure ()⟩

/-- The events are watched, and diagnostics go to the log that the monad carries. -/
def logging [MonadStateOf Log m] (observe : Observer m) : Hooks m :=
  ⟨observe, fun r => modifyThe Log fun log => log.add r⟩

end Hooks

end GridWalk
