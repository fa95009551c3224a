/-!
# `GridWalk.Log`: diagnostics of a run

A log record has a level, the name of the part that wrote it, and a message. A `Log` is the
list of records so far. Whoever reads a log chooses the least level that matters.
-/

set_option autoImplicit false

namespace GridWalk

/-- How much a record matters, least first. -/
inductive Level
  | debug
  | info
  | warning
  | error
deriving DecidableEq

namespace Level

/-- The name of the level. -/
def name : Level → String
  | debug => "DEBUG"
  | info => "INFO"
  | warning => "WARNING"
  | error => "ERROR"

/-- All levels, least first. -/
def all : List Level :=
  [debug, info, warning, error]

/-- The level with the name. -/
def ofName? (name : String) : Option Level :=
  all.find? fun l => l.name == name

/-- The place of the level in the order. -/
def rank : Level → Nat
  | debug => 0
  | info => 1
  | warning => 2
  | error => 3

/-- A record of level `l` is shown to a reader who asked for `least`. -/
def shownAt (l least : Level) : Bool :=
  decide (least.rank ≤ l.rank)

/-- No level is missing from the list. -/
theorem mem_all (l : Level) : l ∈ all := by
  cases l <;> decide

end Level

/-- One diagnostic. -/
structure Record where
  level : Level
  source : String
  message : String
deriving DecidableEq

/-- The diagnostics so far, oldest first. -/
structure Log where
  records : Array Record

namespace Log

/-- A log without records. -/
def empty : Log :=
  ⟨#[]⟩

/-- The log with one more record. -/
def add (log : Log) (r : Record) : Log :=
  ⟨log.records.push r⟩

/-- The records of at least the level, oldest first. -/
def atLeast (log : Log) (least : Level) : List Record :=
  log.records.toList.filter fun r => r.level.shownAt least

end Log

end GridWalk
