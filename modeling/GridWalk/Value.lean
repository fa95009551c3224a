import GridWalk.Document
import GridWalk.Outcome
import GridWalk.Violation

/-!
# `GridWalk.Value`: values side by side

The values of this library have a written form and can be compared. Values of different kinds
are never equal. Documents as written are compared by their parts. An arena is equal only to
itself, so it carries a number that tells it from other arenas.
-/

set_option autoImplicit false

namespace GridWalk

/-- Any value that can be shown and compared. -/
inductive Value
  | grid (g : Grid)
  | obstacle (c : Cell)
  | pose (p : Pose)
  | journey (j : Journey)
  | ending (e : Ending)
  | notice (n : Notice)
  | number (n : Int)
  | document (d : Document)
  | arena (number : Nat) (a : Arena)

namespace Value

/-- The value as messages show it. -/
def describe : Value → String
  | grid g => g.describe
  | obstacle c => c.describe
  | pose p => p.describe
  | journey j => j.describe
  | ending e => e.describe
  | notice n => n.describe
  | number n => toString n
  | document d => d.describe
  | arena _ a => a.describe

/-- The value in running text. Only a grid has a shorter form there. -/
def text : Value → String
  | grid g => g.extent
  | v => v.describe

/-- The two values are equal. -/
def same : Value → Value → Bool
  | grid g, grid h => g == h
  | obstacle c, obstacle d => c == d
  | pose p, pose q => p == q
  | journey j, journey k => j == k
  | ending e, ending f => e == f
  | notice n, notice o => n == o
  | number n, number o => n == o
  | document d, document e => d == e
  | arena n _, arena o _ => n == o
  | _, _ => false

/-- The value can be a member of a set. -/
def isComparable : Value → Bool
  | document _ => false
  | _ => true

/-- The values without those that are equal to an earlier one. -/
def distinct (values : List Value) : List Value :=
  values.foldl (fun seen v => if seen.any (same v) then seen else seen ++ [v]) []

/-- The number of different values, if all of them can be members of a set. -/
def distinctCount (values : List Value) : Except Fault Nat :=
  if values.all isComparable then .ok (distinct values).length else .error .notComparable

/-- Every value equals itself. -/
theorem same_self (v : Value) : same v v = true := by
  cases v <;> simp [same]

end Value

end GridWalk
