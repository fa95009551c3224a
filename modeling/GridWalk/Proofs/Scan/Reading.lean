import GridWalk.Proofs.NumberReading
import GridWalk.Proofs.Refusal

/-!
# `GridWalk.Proofs.Scan.Reading`: all that can be read at an offset

The rules that read one thing are of twelve kinds: eight primitives and the four lines of a
document. A `Reading` is one of them with its words. What it reads and what it complains about are
known from earlier, rule by rule. Both depend on the unread rest alone, so the answer of a rule at
an offset of a text can be told from the end of the text there, and the cursor that the rule leaves
is again at an offset of the text.

* `Reading.rule_eq_ok_iff`: the successes at an offset.
* `Reading.rule_eq_error_iff`: the failures at an offset, with the place that they are about.
-/

set_option autoImplicit false

namespace GridWalk

open Grammar

/-- A thing to read, with the words for it in errors. -/
inductive Reading : Type → Type
  | literal (word : List Char) (expected : String) : Reading Unit
  | spaces (expected : String) : Reading Unit
  | skipBlanks : Reading Unit
  | number (expected : String) : Reading Nat
  | endOfLine (expected : String) : Reading Unit
  | optionalEndOfLine : Reading Bool
  | heading (expected : String) : Reading Heading
  | commands (expected : String) : Reading (List Command)
  | gridLine : Reading Grid
  | obstacleLine : Reading Cell
  | pose (which : String) : Reading Pose
  | journey : Reading Journey

namespace Reading

/-- The rule that reads it. -/
def rule {α : Type} : Reading α → Rule α
  | literal word expected => Rule.literal word expected
  | spaces expected => Rule.spaces expected
  | skipBlanks => Rule.skipBlanks
  | number expected => Rule.number expected
  | endOfLine expected => Rule.endOfLine expected
  | optionalEndOfLine => Rule.optionalEndOfLine
  | heading expected => Rule.heading expected
  | commands expected => Rule.commands expected
  | gridLine => Rule.gridLine
  | obstacleLine => Rule.obstacleLine
  | pose which => Rule.pose which
  | journey => Rule.journey

/-- What the rule reads. -/
def phrase {α : Type} : Reading α → Phrase α
  | literal word _ => fun text _ rest => text = word ++ rest
  | spaces _ => fun text _ rest => Spaces text rest ∧ Stops (· == ' ') rest
  | skipBlanks => fun text _ rest => Blanks text rest ∧ Stops Text.isBlank rest
  | number _ => Number
  | endOfLine _ => fun text _ rest => LineEnd text rest
  | optionalEndOfLine => Rule.OptionalLineEnd
  | heading _ => fun text h rest => text = h.letter :: rest
  | commands _ => fun text ks rest =>
    (text = Command.spell ks ++ rest ∧ Stops Rule.isCommandLetter rest) ∧ ks ≠ []
  | gridLine => Rule.Closed GridLine
  | obstacleLine => Rule.Closed ObstacleLine
  | pose _ => PoseWords
  | journey => Rule.Closed JourneyLines

/-- The parts of which the thing is made, as far as something can be missing. -/
def row {α : Type} : Reading α → List Part
  | literal word expected => [.word word expected]
  | spaces expected => [.gap expected]
  | skipBlanks => []
  | number expected => [.number expected]
  | endOfLine expected => [.lineEnd expected]
  | optionalEndOfLine => []
  | heading expected => [.heading expected]
  | commands expected => [.commands expected]
  | gridLine => gridRow
  | obstacleLine => obstacleRow
  | pose which => poseRow which
  | journey => journeyRow

variable {α : Type} {s : Reading α} {text : List Char} {p : Nat} {a : α} {d : Cursor}
  {e : ParseError}

/-- The rule reads its phrases. -/
theorem reads (s : Reading α) : Rule.Reads s.rule s.phrase := by
  cases s with
  | literal word expected => exact Rule.reads_literal word expected
  | spaces expected => exact Rule.reads_spaces expected
  | skipBlanks => exact Rule.reads_skipBlanks
  | number expected => exact Rule.reads_number expected
  | endOfLine expected => exact Rule.reads_endOfLine expected
  | optionalEndOfLine => exact Rule.reads_optionalEndOfLine
  | heading expected => exact Rule.reads_heading expected
  | commands expected => exact Rule.reads_commands expected
  | gridLine => exact Rule.reads_gridLine
  | obstacleLine => exact Rule.reads_obstacleLine
  | pose which => exact Rule.reads_pose which
  | journey => exact Rule.reads_journey

/-- The rule fails where its row breaks off. -/
theorem rejects (s : Reading α) : Rule.Rejects s.rule (RowComplains s.row) := by
  cases s with
  | literal word expected => exact (Rule.follows_literal word expected).rejects
  | spaces expected => exact (Rule.follows_spaces expected).rejects
  | skipBlanks => exact Rule.rejects_skipBlanks.nil
  | number expected => exact (Rule.follows_number expected).rejects
  | endOfLine expected => exact (Rule.follows_endOfLine expected).rejects
  | optionalEndOfLine => exact Rule.rejects_optionalEndOfLine.nil
  | heading expected => exact (Rule.follows_heading expected).rejects
  | commands expected => exact (Rule.follows_commands expected).rejects
  | gridLine => exact Rule.rejects_gridLine
  | obstacleLine => exact Rule.rejects_obstacleLine
  | pose which => exact (Rule.follows_pose which).rejects
  | journey => exact Rule.rejects_journey

end Reading

/-! ### Offsets of a text -/

namespace Cursor

variable {text rest : List Char} {p q : Nat}

/-- The cursor in front of what is left at an offset is the cursor at the offset. -/
theorem before_drop (hq : q ≤ text.length) : before text (text.drop q) = inText text q := by
  refine eq_of_pos_eq rfl ?_
  show (text.length : Int) - (text.drop q).length = q
  rw [List.length_drop]
  omega

/-- Every end of what is left at an offset is what is left at another one. -/
theorem exists_drop_eq (hp : p ≤ text.length) (h : rest <:+ text.drop p) :
    ∃ q, p ≤ q ∧ q ≤ text.length ∧ rest = text.drop q := by
  obtain ⟨taken, htaken⟩ := h
  have hlength := congrArg List.length htaken
  rw [List.length_append, List.length_drop] at hlength
  refine ⟨p + taken.length, Nat.le_add_right _ _, by omega, ?_⟩
  rw [← List.drop_drop, ← htaken, List.drop_left]

/-- Cursors at offsets of one text lead to each other. -/
theorem leads_inText (hq : q ≤ text.length) : (inText text p).Leads (inText text q) :=
  ⟨rfl, inside_inText hq⟩

end Cursor

/-- What is left after a failure is an end of the text at the place that it is about. -/
theorem Complaint.left_isSuffix (k : Complaint) : k.left <:+ k.here := by
  unfold left
  split
  · exact List.dropWhile_suffix _
  · exact List.suffix_refl _

namespace Reading

variable {α : Type} {s : Reading α} {text : List Char} {p : Nat} {a : α} {d : Cursor}
  {e : ParseError}

/-- A success at an offset leads over a phrase to another offset. -/
theorem rule_eq_ok_iff (hp : p ≤ text.length) :
    s.rule (.inText text p) = .ok a d ↔
      ∃ q, p ≤ q ∧ q ≤ text.length ∧ d = .inText text q ∧
        s.phrase (text.drop p) a (text.drop q) := by
  rw [s.reads.ok_iff (Cursor.inside_inText hp), Cursor.rest_inText]
  constructor
  · rintro ⟨hphrase, hleads⟩
    obtain ⟨q, hpq, hq, hrest⟩ := Cursor.exists_drop_eq hp (s.reads.isSuffix hphrase)
    refine ⟨q, hpq, hq, ?_, hrest ▸ hphrase⟩
    have hbefore := hleads.eq_before
    rw [hrest] at hbefore
    exact hbefore.trans (Cursor.before_drop hq)
  · rintro ⟨q, -, hq, rfl, hphrase⟩
    rw [Cursor.rest_inText]
    exact ⟨hphrase, Cursor.leads_inText hq⟩

/-- A failure at an offset is a complaint about an offset `q`, and leaves the cursor at an offset
that is not in front of that. -/
theorem rule_eq_error_iff (hp : p ≤ text.length) :
    s.rule (.inText text p) = .error e d ↔
      ∃ k q q', RowComplains s.row (text.drop p) k ∧ e = k.error text ∧ d = .inText text q' ∧
        (p ≤ q ∧ q ≤ text.length ∧ k.here = text.drop q) ∧
        (q ≤ q' ∧ q' ≤ text.length ∧ k.left = text.drop q') := by
  rw [s.rejects.error_iff (Cursor.inside_inText hp), Cursor.rest_inText]
  show (∃ k : Complaint, _ ∧ e = k.error text ∧ d = .before text k.left) ↔ _
  constructor
  · rintro ⟨k, hk, rfl, rfl⟩
    obtain ⟨q, hpq, hq, hhere⟩ := Cursor.exists_drop_eq hp hk.isSuffix
    obtain ⟨q', hqq', hq', hleft⟩ := Cursor.exists_drop_eq hq (hhere ▸ k.left_isSuffix)
    refine ⟨k, q, q', hk, rfl, ?_, ⟨hpq, hq, hhere⟩, hqq', hq', hleft⟩
    rw [hleft]
    exact Cursor.before_drop hq'
  · rintro ⟨k, q, q', hk, rfl, rfl, -, -, hq', hleft⟩
    refine ⟨k, hk, rfl, ?_⟩
    rw [hleft]
    exact (Cursor.before_drop hq').symm

end Reading

end GridWalk
