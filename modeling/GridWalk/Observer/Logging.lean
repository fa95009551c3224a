import GridWalk.Observer

/-!
# `GridWalk.Observer.Logging`: events as log records

Every event becomes one record of the lowest level. The name that the records carry can be
chosen.
-/

set_option autoImplicit false

namespace GridWalk.Event

/-- The name that event records carry unless another is chosen. -/
def defaultSource : String := "robot_journeys.simulation.observers"

/-- The event in words. The end of a journey is told by its output line. -/
def message : Event → String
  | .started j => "Journey start: " ++ j.describe
  | .reached p => "State: " ++ p.describe
  | .finished _ outcome => "Journey end: " ++ outcome.line

/-- The record of an event. -/
def record (source : String) (event : Event) : Record :=
  ⟨.debug, source, event.message⟩

/-- Writes a record for each event to the log that the monad carries. -/
def logger {m : Type → Type} [MonadStateOf Log m] (source : String) : Observer m :=
  fun _ event => modifyThe Log fun log => log.add (event.record source)

end GridWalk.Event
