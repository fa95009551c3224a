import GridWalk.Outcome
import GridWalk.Proofs.Text.Fields

/-!
# `GridWalk.Proofs.OutcomeLines`: what the line of an outcome tells

The line of an outcome starts with the word of its verdict, and no two of the four words start with
the same letter. Behind the word stand decimals and a letter with blanks between them, which are
taken off one by one. So a line tells the verdict and all that the line of such a verdict shows. It
leaves out where an exit was tried and how a robot faced that crashed, and nothing else.

* `Outcome.TellsSame`: what two outcomes with the same line have in common.
* `Outcome.line_eq_iff`: outcomes have the same line exactly if they have that in common.
* `outcome_lines_decode`: the same for lists of outcomes.
-/

set_option autoImplicit false

namespace GridWalk

open GridWalk.Text (toString_append_word_inj)

/-- Headings have different letters. -/
theorem Heading.letter_inj {h h' : Heading} : h.letter = h'.letter ↔ h = h' := by
  cases h <;> cases h' <;> decide

/-- Poses are told by their lines. -/
theorem Pose.line_inj {p q : Pose} : p.line = q.line ↔ p = q := by
  obtain ⟨⟨x, y⟩, h⟩ := p
  obtain ⟨⟨x', y'⟩, h'⟩ := q
  simp only [line, String.append_assoc]
  rw [toString_append_word_inj (by decide), toString_append_word_inj (by decide),
    Char.toString_eq_singleton, Char.toString_eq_singleton, String.singleton_inj,
    Heading.letter_inj]
  simp [and_assoc]

/-- The words of the four verdicts start with different letters. -/
theorem Verdict.eq_of_initial {v w : Verdict} (h : v.name.toList.head? = w.name.toList.head?) :
    v = w := by
  revert h
  cases v <;> cases w <;> decide

namespace Outcome

/-- What two outcomes with the same line have in common: the verdict, and what the line of such a
verdict shows. An exit shows nothing else, and a crash does not show the heading. -/
def TellsSame (a b : Outcome) : Prop :=
  a.verdict = b.verdict ∧
    match a.verdict with
    | .success | .unexpectedEnd =>
      a.pose.cell.x = b.pose.cell.x ∧ a.pose.cell.y = b.pose.cell.y ∧ a.pose.heading = b.pose.heading
    | .crashed => a.pose.cell.x = b.pose.cell.x ∧ a.pose.cell.y = b.pose.cell.y
    | .outOfBounds => True

/-- A line starts with the word of the verdict. -/
theorem head?_line (o : Outcome) : o.line.toList.head? = o.verdict.name.toList.head? := by
  obtain ⟨v, p⟩ := o
  cases v <;> simp [line, Verdict.name]

/-- The lines of two outcomes with one verdict. -/
theorem line_eq_iff_of_verdict (v : Verdict) (p q : Pose) :
    line ⟨v, p⟩ = line ⟨v, q⟩ ↔ TellsSame ⟨v, p⟩ ⟨v, q⟩ := by
  cases v with
  | success | unexpectedEnd =>
    simp only [line, String.append_right_inj, Pose.line_inj]
    obtain ⟨⟨x, y⟩, h⟩ := p
    obtain ⟨⟨x', y'⟩, h'⟩ := q
    simp [TellsSame, and_assoc]
  | outOfBounds => exact ⟨fun _ => ⟨rfl, trivial⟩, fun _ => rfl⟩
  | crashed =>
    simp only [line, String.append_assoc, String.append_right_inj]
    rw [toString_append_word_inj (by decide), Int.toString_eq_repr, Int.toString_eq_repr,
      Int.repr_inj]
    simp [TellsSame]

/-- Outcomes have the same line exactly if they have the same verdict and agree in what the line of
that verdict shows. -/
theorem line_eq_iff {a b : Outcome} : a.line = b.line ↔ a.TellsSame b := by
  obtain ⟨v, p⟩ := a
  obtain ⟨w, q⟩ := b
  by_cases hverdict : v = w
  · subst hverdict
    exact line_eq_iff_of_verdict v p q
  · -- Lines of different verdicts differ in their first letters.
    refine iff_of_false (fun hline => hverdict ?_) fun h => hverdict h.1
    have hhead := congrArg (fun text : String => text.toList.head?) hline
    simp only [head?_line] at hhead
    exact Verdict.eq_of_initial hhead

/-- Lists of outcomes have the same lines exactly if they are equally long and their outcomes agree
in each place. -/
theorem map_line_eq_iff {as bs : List Outcome} :
    as.map line = bs.map line ↔
      as.length = bs.length ∧ ∀ pair ∈ as.zip bs, pair.1.TellsSame pair.2 := by
  rw [← List.forall₂_eq_eq_eq, List.forall₂_map_left_iff, List.forall₂_map_right_iff,
    List.forall₂_iff_zip]
  simp only [line_eq_iff, Prod.forall]

end Outcome

/-- Output lines decode to what they encode.

Two outcomes, with any coordinates, have the same line exactly if they have the same verdict and
moreover, for a success and an unexpected end, the same column, row and heading, and for a crash the
same column and row. For an exit nothing else is needed. Two lists of outcomes have the same lines
exactly if they are equally long and this holds in each place. -/
theorem outcome_lines_decode (a b : Outcome) (as bs : List Outcome) :
    (a.line = b.line ↔ a.TellsSame b) ∧
      (as.map Outcome.line = bs.map Outcome.line ↔
        as.length = bs.length ∧ ∀ pair ∈ as.zip bs, pair.1.TellsSame pair.2) :=
  ⟨Outcome.line_eq_iff, Outcome.map_line_eq_iff⟩

end GridWalk
