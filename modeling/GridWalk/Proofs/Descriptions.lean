import GridWalk.Proofs.OutcomeLines
import GridWalk.Proofs.Scan.Recognition
import GridWalk.Value

/-!
# `GridWalk.Proofs.Descriptions`: descriptions identify what they describe

Messages describe grids, obstacles, poses, journeys and outcomes in words. A description starts with
a word of its own for each class of values, in front of a bracket, and ends with a bracket. All
between is decimals and letters, each with a stop behind it. So a description ends by itself: what
follows it in a message is never taken for a part of it. That makes messages about violations,
which have descriptions in them, as telling as the descriptions.

* `Pose.describe_append_inj`, `Journey.describe_append_inj` and the like: a description can be read
  back, whatever follows it.
* `Value.describe_eq_iff`: values of any class have the same description only if they are equal.
* `Violation.message_inj`: violations have the same message only if they are the same.
* `descriptions_identify`: both together.
-/

set_option autoImplicit false

namespace GridWalk

open GridWalk.Grammar (Stops stops_cons)
open GridWalk.Rule (isCommandLetter readAll_spell_append)
open GridWalk.Text (char_append_inj takeWhile_append_of_stop toString_append_inj
  toString_append_word_inj)

/-! ### Descriptions and what follows them -/

section
variable {r s : String}

/-- The description of a grid can be read back. -/
theorem Grid.describe_append_inj {g h : Grid} :
    g.describe ++ r = h.describe ++ s ↔ g = h ∧ r = s := by
  obtain ⟨width, height⟩ := g
  obtain ⟨width', height'⟩ := h
  unfold describe
  simp only [String.append_assoc, String.append_right_inj]
  rw [toString_append_word_inj (by decide), toString_append_word_inj (by decide)]
  simp [and_assoc]

/-- The sides of a grid can be read back in front of a text that ends the second one. -/
theorem Grid.extent_append_inj {g h : Grid} (hr : Text.EndsDecimal r) (hs : Text.EndsDecimal s) :
    g.extent ++ r = h.extent ++ s ↔ g = h ∧ r = s := by
  obtain ⟨width, height⟩ := g
  obtain ⟨width', height'⟩ := h
  unfold extent
  simp only [String.append_assoc]
  rw [toString_append_word_inj (by decide), toString_append_inj hr hs]
  simp [and_assoc]

/-- The description of an obstacle can be read back. -/
theorem Cell.describe_append_inj {c d : Cell} :
    c.describe ++ r = d.describe ++ s ↔ c = d ∧ r = s := by
  obtain ⟨x, y⟩ := c
  obtain ⟨x', y'⟩ := d
  unfold describe
  simp only [String.append_assoc, String.append_right_inj]
  rw [toString_append_word_inj (by decide), toString_append_word_inj (by decide)]
  simp [and_assoc]

/-- The description of a pose can be read back. -/
theorem Pose.describe_append_inj {p q : Pose} :
    p.describe ++ r = q.describe ++ s ↔ p = q ∧ r = s := by
  obtain ⟨⟨x, y⟩, h⟩ := p
  obtain ⟨⟨x', y'⟩, h'⟩ := q
  -- Not by the equation of `describe`: deriving it takes Lean too long.
  unfold describe
  simp only [String.append_assoc, String.append_right_inj]
  rw [toString_append_word_inj (by decide), toString_append_word_inj (by decide), char_append_inj,
    Heading.letter_inj, String.append_right_inj]
  simp [and_assoc]

/-- The letters of commands can be read back in front of a text that starts with no such letter. -/
theorem Command.spell_append_inj {ks ks' : List Command} {rest rest' : List Char}
    (hrest : Stops isCommandLetter rest) (hrest' : Stops isCommandLetter rest') :
    spell ks ++ rest = spell ks' ++ rest' ↔ ks = ks' ∧ rest = rest' := by
  constructor
  · intro h
    have heq : ks = ks' := by
      rw [← readAll_spell_append ks hrest, h, readAll_spell_append ks' hrest']
    subst heq
    exact ⟨rfl, List.append_cancel_left h⟩
  · rintro ⟨rfl, rfl⟩
    rfl

/-- The commands in the description of a journey end with their quote. -/
theorem Journey.spelling_append_inj {j k : Journey} :
    j.spelling ++ ("', expected_final=" ++ r) = k.spelling ++ ("', expected_final=" ++ s) ↔
      j.commands = k.commands ∧ r = s := by
  have hstops (t : String) : Stops isCommandLetter ("', expected_final=" ++ t).toList := by
    rw [String.toList_append]
    exact stops_cons.mpr (by decide)
  have hchars (ks : List Command) (t : String) :
      (String.ofList (Command.spell ks) ++ t).toList = Command.spell ks ++ t.toList := by
    rw [String.toList_append, String.toList_ofList]
  rw [← String.toList_inj, spelling, spelling, hchars, hchars,
    Command.spell_append_inj (hstops r) (hstops s), String.toList_inj, String.append_right_inj]

/-- The description of a journey can be read back, also if it has no commands. -/
theorem Journey.describe_append_inj {j k : Journey} :
    j.describe ++ r = k.describe ++ s ↔ j = k ∧ r = s := by
  -- From the left: the start, the commands, the goal, each with the literal behind it.
  unfold describe
  simp only [String.append_assoc, String.append_right_inj]
  rw [Pose.describe_append_inj, String.append_right_inj, spelling_append_inj,
    Pose.describe_append_inj, String.append_right_inj]
  obtain ⟨start, ks, goal⟩ := j
  obtain ⟨start', ks', goal'⟩ := k
  simp [and_assoc]

/-- The description of an ending can be read back behind the word for its verdict. -/
theorem Ending.describe_append_inj {v : Option Verdict} {p q : Pose} :
    describe ⟨v, p⟩ ++ r = describe ⟨v, q⟩ ++ s ↔ p = q ∧ r = s := by
  cases v with
  | none | some v =>
    simp only [describe, Outcome.describe, String.append_assoc, String.append_right_inj]
    rw [Pose.describe_append_inj, String.append_right_inj]

end

/-! ### Classes of values -/

namespace Value

/-- The classes of the values that say what is where. Outcomes with different verdicts are of
different classes, and so is an ending without a verdict. -/
inductive Kind
  | grid
  | obstacle
  | pose
  | journey
  | ending (verdict : Option Verdict)
deriving DecidableEq

/-- The word in front of the bracket of a description. -/
def Kind.word : Kind → String
  | grid => "Grid"
  | obstacle => "Obstacle"
  | pose => "RobotState"
  | journey => "RobotJourney"
  | ending (some v) => v.tag
  | ending none => "Outcome"

/-- The class of a grid, an obstacle, a pose, a journey or an outcome. -/
def kind? : Value → Option Kind
  | grid _ => some .grid
  | obstacle _ => some .obstacle
  | pose _ => some .pose
  | journey _ => some .journey
  | ending e => some (.ending e.verdict)
  | _ => none

/-- All classes. -/
def Kind.all : List Kind :=
  [.grid, .obstacle, .pose, .journey, .ending none, .ending (some .success),
    .ending (some .outOfBounds), .ending (some .crashed), .ending (some .unexpectedEnd)]

theorem Kind.mem_all (k : Kind) : k ∈ all := by
  cases k with
  | ending verdict =>
    cases verdict with
    | none => decide
    | some v => cases v <;> decide
  | _ => decide

/-- No two classes have the same word. -/
theorem Kind.word_inj {k l : Kind} (h : k.word.toList = l.word.toList) : k = l := by
  have htable : ∀ k ∈ all, ∀ l ∈ all, k.word.toList = l.word.toList → k = l := by decide
  exact htable k k.mem_all l l.mem_all h

/-- The description of a value starts with the word of its class. -/
theorem takeWhile_describe {a : Value} {k : Kind} (h : a.kind? = some k) :
    a.describe.toList.takeWhile (· != '(') = k.word.toList := by
  cases a with
  | grid g =>
    cases h
    unfold describe Grid.describe
    simp only [String.append_assoc]
    exact takeWhile_append_of_stop (by decide) _
  | obstacle c =>
    cases h
    unfold describe Cell.describe
    simp only [String.append_assoc]
    exact takeWhile_append_of_stop (by decide) _
  | pose p =>
    cases h
    unfold describe Pose.describe
    simp only [String.append_assoc]
    exact takeWhile_append_of_stop (by decide) _
  | journey j =>
    cases h
    unfold describe Journey.describe
    simp only [String.append_assoc]
    exact takeWhile_append_of_stop (by decide) _
  | ending e =>
    obtain ⟨verdict, p⟩ := e
    cases h
    cases verdict with
    | none =>
      show ("Outcome(" ++ p.describe ++ ")").toList.takeWhile _ = "Outcome".toList
      rw [String.append_assoc]
      exact takeWhile_append_of_stop (by decide) _
    | some v =>
      show (v.tag ++ "(" ++ p.describe ++ ")").toList.takeWhile _ = v.tag.toList
      rw [String.append_assoc]
      cases v <;> exact takeWhile_append_of_stop (by decide) _
  | notice _ | number _ | document _ | arena _ _ => cases h

/-- Values of one class have the same description only if they are the same. -/
theorem eq_of_describe_eq {a b : Value} {k : Kind} (ha : a.kind? = some k) (hb : b.kind? = some k)
    (h : a.describe = b.describe) : a = b := by
  -- A description followed by nothing is what the lemmas above speak of.
  have happend : a.describe ++ "" = b.describe ++ "" := congrArg (· ++ "") h
  cases a with
  | grid g =>
    cases ha
    cases b with
    | grid g' => exact congrArg grid (Grid.describe_append_inj.mp happend).1
    | _ => cases hb
  | obstacle c =>
    cases ha
    cases b with
    | obstacle c' => exact congrArg obstacle (Cell.describe_append_inj.mp happend).1
    | _ => cases hb
  | pose p =>
    cases ha
    cases b with
    | pose p' => exact congrArg pose (Pose.describe_append_inj.mp happend).1
    | _ => cases hb
  | journey j =>
    cases ha
    cases b with
    | journey j' => exact congrArg journey (Journey.describe_append_inj.mp happend).1
    | _ => cases hb
  | ending e =>
    obtain ⟨verdict, p⟩ := e
    cases ha
    cases b with
    | ending e' =>
      obtain ⟨verdict', p'⟩ := e'
      obtain rfl : verdict' = verdict := by simpa [kind?] using hb
      rw [(Ending.describe_append_inj.mp happend).1]
    | _ => cases hb
  | notice _ | number _ | document _ | arena _ _ => cases ha

/-- Values of classes have the same description only if they are the same. -/
theorem describe_eq_iff {a b : Value} {k l : Kind} (ha : a.kind? = some k) (hb : b.kind? = some l) :
    a.describe = b.describe ↔ a = b := by
  refine ⟨fun h => ?_, fun h => congrArg describe h⟩
  have hkind : k = l := Kind.word_inj (by rw [← takeWhile_describe ha, h, takeWhile_describe hb])
  subst hkind
  exact eq_of_describe_eq ha hb h

/-- A value of a class counts as equal to itself and to nothing else. -/
theorem same_eq_true_iff {a b : Value} {k : Kind} (ha : a.kind? = some k) :
    a.same b = true ↔ a = b := by
  refine ⟨fun h => ?_, ?_⟩
  · cases a with
    | grid g =>
      cases b with
      | grid g' => exact congrArg grid (eq_of_beq h)
      | _ => cases h
    | obstacle c =>
      cases b with
      | obstacle c' => exact congrArg obstacle (eq_of_beq h)
      | _ => cases h
    | pose p =>
      cases b with
      | pose p' => exact congrArg pose (eq_of_beq h)
      | _ => cases h
    | journey j =>
      cases b with
      | journey j' => exact congrArg journey (eq_of_beq h)
      | _ => cases h
    | ending e =>
      cases b with
      | ending e' => exact congrArg ending (eq_of_beq h)
      | _ => cases h
    | notice _ | number _ | document _ | arena _ _ => cases ha
  · rintro rfl
    exact same_self a

end Value

/-! ### Messages -/

/-- The two ends of a journey have different words. -/
theorem JourneyEnd.word_inj {e f : JourneyEnd} (h : e.word.toList = f.word.toList) : e = f := by
  revert h
  cases e <;> cases f <;> decide

namespace Violation

/-- The first word of a message. -/
def opening : Violation → String
  | invalidGrid _ => "Invalid"
  | obstacleOutside _ _ => "Obstacle"
  | poseOutside which _ _ => which.word

/-- A message starts with its first word. -/
theorem takeWhile_message (v : Violation) :
    v.message.toList.takeWhile (· != ' ') = v.opening.toList := by
  cases v with
  | invalidGrid g =>
    show ("Invalid grid " ++ g.describe).toList.takeWhile _ = "Invalid".toList
    exact takeWhile_append_of_stop (by decide) _
  | obstacleOutside c g =>
    show ("Obstacle [" ++ c.describe ++ _ ++ _ ++ _).toList.takeWhile _ = "Obstacle".toList
    simp only [String.append_assoc]
    exact takeWhile_append_of_stop (by decide) _
  | poseOutside which p g =>
    show (which.word ++ " robot state [" ++ p.describe ++ _ ++ _ ++ _).toList.takeWhile _
      = which.word.toList
    simp only [String.append_assoc]
    rw [← String.append_assoc]
    cases which <;> exact takeWhile_append_of_stop (by decide) _

/-- Messages of different kinds have different first words. -/
theorem kind_eq_of_opening {v w : Violation} (h : v.opening.toList = w.opening.toList) :
    v.kind = w.kind := by
  have hends (which : JourneyEnd) :
      which.word.toList ≠ "Invalid".toList ∧ which.word.toList ≠ "Obstacle".toList := by
    cases which <;> decide
  have hwords : "Invalid".toList ≠ "Obstacle".toList := by decide
  cases v with
  | invalidGrid g =>
    cases w with
    | invalidGrid g' => rfl
    | obstacleOutside c g' => exact absurd h hwords
    | poseOutside which p g' => exact absurd h.symm (hends which).1
  | obstacleOutside c g =>
    cases w with
    | invalidGrid g' => exact absurd h.symm hwords
    | obstacleOutside c' g' => rfl
    | poseOutside which p g' => exact absurd h.symm (hends which).2
  | poseOutside which p g =>
    cases w with
    | invalidGrid g' => exact absurd h (hends which).1
    | obstacleOutside c g' => exact absurd h (hends which).2
    | poseOutside which' p' g' => rfl

/-- Violations have the same message only if they are the same. -/
theorem message_inj {v w : Violation} : v.message = w.message ↔ v = w := by
  refine ⟨fun h => ?_, fun h => congrArg message h⟩
  have hopening : v.opening.toList = w.opening.toList := by
    rw [← takeWhile_message v, h, takeWhile_message]
  -- The first words tell the kind, and of a pose also at which end of the journey it is.
  have hkind : v.kind = w.kind := kind_eq_of_opening hopening
  cases v with
  | invalidGrid g =>
    cases w with
    | invalidGrid g' =>
      have happend : g.describe ++ "" = g'.describe ++ "" :=
        congrArg (· ++ "") ((String.append_right_inj _).mp h)
      rw [(Grid.describe_append_inj.mp happend).1]
    | obstacleOutside _ _ | poseOutside _ _ _ => cases hkind
  | obstacleOutside c g =>
    cases w with
    | obstacleOutside c' g' =>
      simp only [message, String.append_assoc, String.append_right_inj] at h
      rw [Cell.describe_append_inj, String.append_right_inj,
        Grid.extent_append_inj (by decide) (by decide)] at h
      rw [h.1, h.2.1]
    | invalidGrid _ | poseOutside _ _ _ => cases hkind
  | poseOutside which p g =>
    cases w with
    | poseOutside which' p' g' =>
      obtain rfl := JourneyEnd.word_inj hopening
      simp only [message, String.append_assoc, String.append_right_inj] at h
      rw [Pose.describe_append_inj, String.append_right_inj,
        Grid.extent_append_inj (by decide) (by decide)] at h
      rw [h.1, h.2.1]
    | invalidGrid _ | obstacleOutside _ _ => cases hkind

end Violation

/-- Descriptions and messages identify what they are about.

Take two values that are grids, obstacles, poses, journeys with any commands or none, or outcomes
with any coordinates. They have the same description exactly if they count as equal, which they do
only if they are the same, so never in different classes or with different verdicts. Two violations
have the same message, and the same output line, exactly if they are the same: of one kind, about
one grid, and with the same obstacle or the same pose at the same end of a journey. -/
theorem descriptions_identify (a b : Value) (k l : Value.Kind) (ha : a.kind? = some k)
    (hb : b.kind? = some l) (v w : Violation) :
    (a.describe = b.describe ↔ a.same b = true) ∧ (a.same b = true ↔ a = b) ∧
      (k ≠ l → a.same b = false) ∧
      (v.message = w.message ↔ v = w) ∧
      ((Notice.ofViolation v).line = (Notice.ofViolation w).line ↔ v = w) := by
  have hsame : a.same b = true ↔ a = b := Value.same_eq_true_iff ha
  refine ⟨(Value.describe_eq_iff ha hb).trans hsame.symm, hsame, fun hkind => ?_,
    Violation.message_inj, ?_⟩
  · rw [Bool.eq_false_iff, Ne, hsame]
    rintro rfl
    exact hkind (Option.some.inj (ha.symm.trans hb))
  · show "Validation: " ++ v.message = "Validation: " ++ w.message ↔ v = w
    rw [String.append_right_inj, Violation.message_inj]

/-- Two journeys without commands whose goals differ in sign only, and one pose outside of a grid at
the two ends of a journey. -/
theorem descriptions_identify_signs :
    (Value.journey ⟨⟨⟨1, 1⟩, .north⟩, [], ⟨⟨1, -1⟩, .north⟩⟩).kind? = some .journey ∧
      (Value.journey ⟨⟨⟨1, 1⟩, .north⟩, [], ⟨⟨1, 1⟩, .north⟩⟩).kind? = some .journey ∧
      (Value.journey ⟨⟨⟨1, 1⟩, .north⟩, [], ⟨⟨1, -1⟩, .north⟩⟩).describe
        ≠ (Value.journey ⟨⟨⟨1, 1⟩, .north⟩, [], ⟨⟨1, 1⟩, .north⟩⟩).describe ∧
      (Violation.poseOutside .start ⟨⟨1, 2⟩, .west⟩ ⟨1, 1⟩).message
        ≠ (Violation.poseOutside .goal ⟨⟨1, 2⟩, .west⟩ ⟨1, 1⟩).message := by
  obtain ⟨hdescribe, hsame, -, hmessage, -⟩ :=
    descriptions_identify (.journey ⟨⟨⟨1, 1⟩, .north⟩, [], ⟨⟨1, -1⟩, .north⟩⟩)
      (.journey ⟨⟨⟨1, 1⟩, .north⟩, [], ⟨⟨1, 1⟩, .north⟩⟩) .journey .journey rfl rfl
      (.poseOutside .start ⟨⟨1, 2⟩, .west⟩ ⟨1, 1⟩) (.poseOutside .goal ⟨⟨1, 2⟩, .west⟩ ⟨1, 1⟩)
  refine ⟨rfl, rfl, ?_, ?_⟩
  · rw [Ne, hdescribe]
    decide
  · rw [Ne, hmessage]
    decide

end GridWalk
