import GridWalk.Observer.Picture

/-!
# `GridWalk.Observer.Trace`: a run in pictures

A trace is a list of entries: a banner when a journey starts, a picture for each pose that is
reached, and three entries when the journey is finished, the second of which is its output line
in brackets.
-/

set_option autoImplicit false

namespace GridWalk

/-- The entries so far, oldest first. -/
structure Trace where
  entries : Array String

namespace Trace

/-- A trace without entries. -/
def empty : Trace :=
  ⟨#[]⟩

/-- The entries that an event adds. -/
def entriesOf (range : Int) (a : Arena) : Event → List String
  | .started j =>
    ["== Starting Journey from " ++ j.start.describe ++ " to " ++ j.goal.describe ++ " =="]
  | .reached p => [Picture.render a range p]
  | .finished _ outcome =>
    ["========= Final state ===========", "[" ++ outcome.line ++ "]",
      "========= End of Journey ==========="]

/-- The trace after an event. -/
def note (range : Int) (a : Arena) (t : Trace) (event : Event) : Trace :=
  ⟨t.entries ++ entriesOf range a event⟩

/-- Adds the entries of events to the trace that the monad carries. -/
def observer {m : Type → Type} [MonadStateOf Trace m] (range : Int) : Observer m :=
  fun a event => modifyThe Trace fun t => t.note range a event

end Trace

end GridWalk
