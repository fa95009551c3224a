import GridWalk.Fault

/-!
# `GridWalk.Command`: what a robot can be told

A command is a quarter turn or a move to the next cell. Commands are written as a string of
letters with nothing between them. `Command.readAll` takes the longest run of such letters.
-/

set_option autoImplicit false

namespace GridWalk

/-- One instruction to a robot. -/
inductive Command
  | left
  | right
  | forward
deriving DecidableEq

namespace Command

/-- The letter that stands for the command in a document. -/
def letter : Command → Char
  | left => 'L'
  | right => 'R'
  | forward => 'F'

/-- The command with the letter. -/
def ofLetter? : Char → Option Command
  | 'L' => some left
  | 'R' => some right
  | 'F' => some forward
  | _ => none

/-- The command in words. -/
def name : Command → String
  | left => "TURN_LEFT"
  | right => "TURN_RIGHT"
  | forward => "MOVE_FORWARD"

/-- The command whose letter is the whole text. -/
def read (text : String) : Except Fault Command :=
  match text.toList with
  | [c] =>
    match ofLetter? c with
    | some k => .ok k
    | none => .error (.unknownLetter text)
  | _ => .error (.unknownLetter text)

/-- The commands of the longest run of command letters at the start of a text. -/
def readAll : List Char → List Command
  | [] => []
  | c :: rest =>
    match ofLetter? c with
    | some k => k :: readAll rest
    | none => []

/-- The letters of a list of commands. -/
def spell (commands : List Command) : List Char :=
  commands.map letter

/-- Only its own letter gives a command. -/
theorem ofLetter?_eq_some_iff {c : Char} {k : Command} : ofLetter? c = some k ↔ c = k.letter := by
  constructor
  · intro hc
    unfold ofLetter? at hc
    split at hc <;> cases hc <;> rfl
  · rintro rfl
    cases k <;> rfl

/-- What is read stands at the start of the text. -/
theorem isPrefix_spell_readAll (text : List Char) : spell (readAll text) <+: text := by
  induction text with
  | nil => simp [readAll, spell]
  | cons c rest ih =>
    unfold readAll
    split
    · next k hk =>
      rw [ofLetter?_eq_some_iff] at hk
      subst hk
      exact (List.prefix_cons_inj _).mpr ih
    · exact List.nil_prefix

end Command

end GridWalk
