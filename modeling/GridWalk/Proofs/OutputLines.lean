import GridWalk.Proofs.Extent
import GridWalk.Proofs.Refusal
import GridWalk.Proofs.Text.Plain

/-!
# `GridWalk.Proofs.OutputLines`: each line of an output is a line, and of one family

An output is the line of a parse error, the lines of notices, or the lines of outcomes. Their first
letters tell the three families apart. All that a line shows is fixed words, decimals and letters,
and in a parse error the character at which the text went wrong. That character can be anything, but
it is shown in quotes, and unprintable characters are escaped there.

* `ParseError.plain_message_of_read`: the message of a parse error.
* `Violation.plain_message` and `Outcome.plain_line`: the other messages.
* `Grid.OutcomeLine` and `Family`: what the lines of an output look like.
* `output_lines_are_lines`: all lines are plain, of one family, and can be joined.
-/

set_option autoImplicit false

namespace GridWalk

open GridWalk.Text (Plain plain_append plain_toString plain_quotedChars)

/-! ### Parse errors -/

/-- What stands at a cursor is said in plain words. -/
theorem Cursor.plain_describe (c : Cursor) : Plain c.describe := by
  unfold describe
  split
  case h_5 => exact plain_quotedChars _
  all_goals decide

/-- The message is plain if what it is made of is plain. -/
theorem ParseError.plain_message {e : ParseError} (hexpected : Plain e.expected)
    (hfound : Plain e.found) (hdetail : ∀ detail, e.detail = some detail → Plain detail) :
    Plain e.message := by
  have hbase : Plain ("line " ++ toString e.line ++ ", column " ++ toString e.column
      ++ ": expected " ++ e.expected ++ ", found " ++ e.found) := by
    simp only [plain_append, plain_toString, hexpected, hfound, and_true]
    decide
  unfold message
  cases h : e.detail with
  | none => exact hbase
  | some detail =>
    dsimp only
    split
    · exact hbase
    · have hshown := hdetail detail h
      rw [plain_append, plain_append, plain_append]
      exact ⟨⟨⟨hbase, by decide⟩, hshown⟩, by decide⟩

namespace Grammar

/-- The words for the parts of the grid line are plain. -/
theorem plain_gridRow : ∀ part ∈ gridRow, Plain part.expected := by
  decide

/-- The words for the parts of an obstacle line are plain. -/
theorem plain_obstacleRow : ∀ part ∈ obstacleRow, Plain part.expected := by
  decide

/-- The words for the parts of a pose are plain. -/
theorem plain_poseRow {which : String} (hwhich : Plain which) :
    ∀ part ∈ poseRow which, Plain part.expected := by
  simp only [poseRow, List.forall_mem_cons, Part.expected, plain_append, hwhich, true_and]
  decide

/-- The words for the parts of a journey are plain. -/
theorem plain_journeyRow : ∀ part ∈ journeyRow, Plain part.expected := by
  have hinitial : ∀ part ∈ poseRow "initial", Plain part.expected := plain_poseRow (by decide)
  have hfinal : ∀ part ∈ poseRow "final", Plain part.expected := plain_poseRow (by decide)
  simp only [journeyRow, List.forall_mem_append, List.forall_mem_cons, Part.expected]
  exact ⟨hinitial, by decide, by decide, by decide, hfinal⟩

/-- What is expected where a row breaks off is plain if the words for its parts are. -/
theorem RowComplains.plain_expected {row : List Part} {text : List Char} {k : Complaint}
    (h : RowComplains row text k) (hrow : ∀ part ∈ row, Plain part.expected) :
    Plain k.expected := by
  obtain ⟨part, hpart, hk⟩ := h.exists_part
  rw [hk.expected_eq]
  exact hrow part hpart

/-- What is expected where a document breaks off is plain. -/
theorem DocumentComplains.plain_expected {text : List Char} {k : Complaint}
    (h : DocumentComplains text k) : Plain k.expected := by
  cases h with
  | grid complains => exact complains.plain_expected plain_gridRow
  | obstacle _ _ complains => exact complains.plain_expected plain_obstacleRow
  | journey _ _ _ _ complains => exact complains.plain_expected plain_journeyRow
  | stray _ _ _ _ _ =>
    show Plain (mayFollow _)
    unfold mayFollow
    split <;> decide

end Grammar

/-- The message of a parse error is plain, whatever stands in the text. -/
theorem ParseError.plain_message_of_read {text : String} {e : ParseError}
    (h : Document.read text = .error e) : Plain e.message := by
  obtain ⟨k, hk, rfl⟩ := read_eq_error_iff.mp h
  have hexpected := hk.plain_expected
  unfold Complaint.error
  split
  · -- The digits of an oversized number are shown in quotes.
    refine plain_message hexpected (plain_quotedChars _) fun detail hdetail => ?_
    cases hdetail
    decide
  · refine plain_message hexpected (Cursor.plain_describe _) fun detail hdetail => ?_
    cases hdetail

/-! ### Notices and outcomes -/

/-- The letters of the headings are plain. -/
theorem Heading.plain_letter (h : Heading) : Plain h.letter.toString := by
  cases h <;> decide

/-- The word for an end of a journey is plain. -/
theorem JourneyEnd.plain_word (which : JourneyEnd) : Plain which.word := by
  cases which with
  | start => exact (by decide : Plain "Initial")
  | goal => exact (by decide : Plain "Final")

/-- The message of a violation is plain. -/
theorem Violation.plain_message (v : Violation) : Plain v.message := by
  unfold message
  cases v with
  | invalidGrid g =>
    dsimp only [Grid.describe]
    simp only [plain_append, plain_toString, and_true]
    decide
  | obstacleOutside c g =>
    dsimp only [Grid.extent, Cell.describe]
    simp only [plain_append, plain_toString, and_true]
    decide
  | poseOutside which p g =>
    dsimp only [Grid.extent, Pose.describe]
    simp only [plain_append, plain_toString, Heading.plain_letter, JourneyEnd.plain_word, true_and,
      and_true]
    decide

/-- The line of an outcome is plain. -/
theorem Outcome.plain_line (o : Outcome) : Plain o.line := by
  obtain ⟨verdict, p⟩ := o
  cases verdict
  case outOfBounds => exact (by decide : Plain "OUT OF BOUNDS")
  all_goals
    dsimp only [line, Verdict.name, Pose.line]
    simp only [plain_append, plain_toString, Heading.plain_letter, and_true]
    decide

/-! ### The three families -/

/-- A line that tells the outcome of a journey: the word for it, and the coordinates of a cell of
the grid and the letter of a heading as far as the word asks for them. -/
inductive Grid.OutcomeLine (g : Grid) : String → Prop
  | success {c : Cell} (hc : c ∈ g) (h : Heading) : OutcomeLine g
      ("SUCCESS " ++ toString c.x ++ " " ++ toString c.y ++ " " ++ h.letter.toString)
  | outOfBounds : OutcomeLine g "OUT OF BOUNDS"
  | crashed {c : Cell} (hc : c ∈ g) : OutcomeLine g
      ("CRASHED " ++ toString c.x ++ " " ++ toString c.y)
  | failure {c : Cell} (hc : c ∈ g) (h : Heading) : OutcomeLine g
      ("FAILURE " ++ toString c.x ++ " " ++ toString c.y ++ " " ++ h.letter.toString)

/-- The three families of outputs. -/
inductive Family
  | parsing
  | validation
  | outcomes
deriving DecidableEq

namespace Family

/-- What the lines of an output of the family look like. -/
def Holds : Family → List String → Prop
  | parsing, lines => ∃ line, lines = [line] ∧ "Parsing: ".toList <+: line.toList
  | validation, lines => lines ≠ [] ∧ ∀ line ∈ lines, "Validation: ".toList <+: line.toList
  | outcomes, lines => ∃ g : Grid, ∀ line ∈ lines, g.OutcomeLine line

/-- The first letters that the lines of the family can have. -/
def initials : Family → List Char
  | parsing => ['P']
  | validation => ['V']
  | outcomes => ['S', 'O', 'C', 'F']

end Family

/-- The family of the output of a run. -/
def Run.family : Run → Family
  | unreadable _ => .parsing
  | rejected _ => .validation
  | completed _ _ => .outcomes

/-- The line of an outcome in a grid, or past one of its edges. -/
theorem Grid.outcomeLine_of_locates {g : Grid} {o : Outcome} (h : g.Locates o) :
    g.OutcomeLine o.line := by
  obtain ⟨verdict, p⟩ := o
  have hline (word : String) : word ++ " " ++ p.line = word ++ " " ++ toString p.cell.x ++ " "
      ++ toString p.cell.y ++ " " ++ p.heading.letter.toString := by
    simp only [Pose.line, String.append_assoc]
  cases verdict with
  | success =>
    show g.OutcomeLine ("SUCCESS" ++ " " ++ p.line)
    rw [hline]
    exact .success h p.heading
  | outOfBounds => exact .outOfBounds
  | crashed => exact .crashed h
  | unexpectedEnd =>
    show g.OutcomeLine ("FAILURE" ++ " " ++ p.line)
    rw [hline]
    exact .failure h p.heading

namespace Family

/-- Each line of the family starts with one of its letters. -/
theorem Holds.head_mem {f : Family} {lines : List String} (h : f.Holds lines) :
    ∀ line ∈ lines, ∃ c ∈ f.initials, line.toList.head? = some c := by
  intro line hline
  cases f with
  | parsing =>
    obtain ⟨_, rfl, rest, hrest⟩ := h
    rw [List.mem_singleton.mp hline, ← hrest]
    exact ⟨'P', by decide, rfl⟩
  | validation =>
    obtain ⟨rest, hrest⟩ := h.2 line hline
    rw [← hrest]
    exact ⟨'V', by decide, rfl⟩
  | outcomes =>
    obtain ⟨g, hg⟩ := h
    cases hg line hline with
    | success => exact ⟨'S', by decide, by simp⟩
    | outOfBounds => exact ⟨'O', by decide, rfl⟩
    | crashed => exact ⟨'C', by decide, by simp⟩
    | failure => exact ⟨'F', by decide, by simp⟩

/-- An output without lines tells the outcomes of no journeys. -/
theorem Holds.eq_outcomes {f : Family} (h : f.Holds []) : f = .outcomes := by
  cases f with
  | parsing =>
    obtain ⟨_, hnil, -⟩ := h
    cases hnil
  | validation => exact absurd rfl h.1
  | outcomes => rfl

/-- No output is of two families. -/
theorem Holds.unique {f f' : Family} {lines : List String} (h : f.Holds lines)
    (h' : f'.Holds lines) : f = f' := by
  cases lines with
  | nil => rw [h.eq_outcomes, h'.eq_outcomes]
  | cons line rest =>
    -- The first letter of the first line is in one list of initials only.
    obtain ⟨c, hc, hhead⟩ := h.head_mem line List.mem_cons_self
    obtain ⟨c', hc', hhead'⟩ := h'.head_mem line List.mem_cons_self
    have hsame : c = c' := by
      rw [hhead] at hhead'
      exact Option.some.inj hhead'
    subst hsame
    have hapart : ∀ k k' : Family, ∀ d ∈ k.initials, d ∈ k'.initials → k = k' := by
      intro k k'
      cases k <;> cases k' <;> simp [initials]
    exact hapart f f' c hc hc'

end Family

namespace Run

variable {text : String}

/-- Where journeys were driven, the lines tell outcomes in the grid of the document. -/
theorem outcomeLine_of_completed {a : Arena} {outcomes : List Outcome}
    (h : run text = .completed a outcomes) : ∀ line ∈ execute text, a.grid.OutcomeLine line := by
  obtain ⟨d, hread, hsound, rfl, -⟩ := run_eq_completed_iff.mp h
  intro line hline
  rw [execute_eq hread hsound] at hline
  obtain ⟨j, hj, rfl⟩ := List.mem_map.mp hline
  exact Grid.outcomeLine_of_locates (Arena.outcome_locates (hsound.start_mem j hj))

/-- The output of a run is of the family of the run. -/
theorem holds_family (text : String) : (run text).family.Holds (execute text) := by
  have hlines : execute text = (run text).lines := rfl
  cases h : run text with
  | unreadable e =>
    rw [hlines, h]
    exact ⟨e.outputLine, rfl, by simp [ParseError.outputLine]⟩
  | rejected r =>
    rw [hlines, h]
    refine ⟨?_, ?_⟩
    · simpa [lines, Rejection.lines] using r.notices_ne_nil
    · intro line hline
      obtain ⟨n, -, rfl⟩ := List.mem_map.mp hline
      simp [Notice.line]
  | completed a outcomes => exact ⟨a.grid, outcomeLine_of_completed h⟩

/-- All lines of an output are plain. -/
theorem plain_execute (text : String) : ∀ line ∈ execute text, Plain line := by
  have hlines : execute text = (run text).lines := rfl
  intro line hline
  rw [hlines, run_eq] at hline
  cases hread : Document.read text with
  | error e =>
    rw [hread] at hline
    rw [List.mem_singleton.mp hline]
    exact plain_append.mpr ⟨by decide, ParseError.plain_message_of_read hread⟩
  | ok d =>
    simp only [hread] at hline
    cases hcheck : d.check with
    | error r =>
      -- The notices of a refused document are those of its violations.
      obtain ⟨-, hnotices⟩ := Document.check_eq_error_iff.mp hcheck
      simp only [hcheck, lines, Rejection.lines, hnotices, List.map_map, List.mem_map] at hline
      obtain ⟨v, -, rfl⟩ := hline
      exact plain_append.mpr ⟨by decide, Violation.plain_message v⟩
    | ok a =>
      simp only [hcheck] at hline
      obtain ⟨o, -, rfl⟩ := List.mem_map.mp hline
      exact o.plain_line

/-- No line of an output is empty. -/
theorem ne_empty_of_mem_execute {line : String} (h : line ∈ execute text) : line ≠ "" := by
  obtain ⟨c, -, hhead⟩ := (holds_family text).head_mem line h
  rintro rfl
  cases hhead

end Run

/-- The lines of an output are lines, and never of two families.

An output is of exactly one family. It is one line that starts with `Parsing:`, or one or more
lines that start with `Validation:`, or lines that tell outcomes with cells of one grid. The run
says which one, and the grid is the one of the document. No line is empty, and no line has a
character that is not printable or breaks lines. So if there are lines at all, they can be joined
by line feeds: to split the joined text at the line feeds, or at all line breaks, gives the lines
back. -/
theorem output_lines_are_lines (text : String) :
    (∀ f : Family, f.Holds (execute text) ↔ f = (run text).family) ∧
      (∀ a outcomes, run text = .completed a outcomes →
        ∀ line ∈ execute text, a.grid.OutcomeLine line) ∧
      (∀ line ∈ execute text, line ≠ "" ∧
        ∀ c ∈ line.toList, Text.isPrintable c = true ∧ Text.isLineBreak c = false) ∧
      (execute text ≠ [] →
        (("\n".intercalate (execute text)).toList.splitOn '\n').map String.ofList
            = execute text ∧
          Text.lines ("\n".intercalate (execute text)) = execute text) := by
  have hplain := Run.plain_execute text
  have hne : ∀ line ∈ execute text, line ≠ "" := fun _ => Run.ne_empty_of_mem_execute
  refine ⟨?_, fun _ _ h => Run.outcomeLine_of_completed h, ?_, ?_⟩
  · intro f
    constructor
    · intro hf
      exact hf.unique (Run.holds_family text)
    · rintro rfl
      exact Run.holds_family text
  · intro line hline
    refine ⟨hne line hline, fun c hc => ?_⟩
    have hprintable := hplain line hline c hc
    exact ⟨hprintable, Text.isLineBreak_eq_false hprintable⟩
  · intro hlines
    exact ⟨Text.splitOn_intercalate hplain hlines, Text.lines_intercalate hplain hne⟩

example : execute "GRID\u20281x1"
    = ["Parsing: line 1, column 5: expected at least one space after GRID keyword, "
      ++ "found '\\u2028'"] := by
  decide +kernel

end GridWalk
