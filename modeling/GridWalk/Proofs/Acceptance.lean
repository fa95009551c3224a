import GridWalk.Document.Reader
import GridWalk.Proofs.Scan.Recognition

/-!
# `GridWalk.Proofs.Acceptance`: the texts that are documents

`Document.read` gives a document exactly when the text spells it (`Grammar.Spells`). The grammar
leaves open where blanks end, and the reader takes them in two steps, an optional line end and
then all blanks. `optionalLineEnd_blanks` says that the two steps are one run of blanks, and
`Grammar.Many.toEntries` that the grammar has no other choice.

* `read_eq_ok_iff`: the reader accepts the grammar and nothing else.
* `read_decides_grammar`: the same, with the uniqueness of the document and the error of every
  other text.
-/

set_option autoImplicit false

namespace GridWalk

open Grammar
open GridWalk.Text (isBlank isBlank_lineEnds)

namespace Grammar

/-- One more blank in front. -/
theorem Blanks.cons {c : Char} {text rest : List Char} (hc : isBlank c = true)
    (h : Blanks text rest) : Blanks (c :: text) rest := by
  obtain ⟨run, hrun, rfl⟩ := h
  refine ⟨c :: run, fun d hd => ?_, rfl⟩
  rcases List.mem_cons.mp hd with rfl | hd
  · exact hc
  · exact hrun d hd

/-- Blanks in front of something that is no blank can lose the first one. -/
theorem Blanks.tail {c : Char} {text rest : List Char} (hc : isBlank c = true)
    (h : Blanks (c :: text) rest) (hstops : Stops isBlank rest) : Blanks text rest := by
  obtain ⟨run, hrun, hsplit⟩ := h
  cases run with
  | nil =>
    rw [List.nil_append] at hsplit
    rw [← hsplit, stops_cons, hc] at hstops
    cases hstops
  | cons d run =>
    exact ⟨run, fun e he => hrun e (List.mem_cons_of_mem _ he), (List.cons.inj hsplit).2⟩

/-- A line end is made of blanks. -/
theorem LineEnd.blanks {text mid rest : List Char} (h : LineEnd text mid)
    (hblanks : Blanks mid rest) : Blanks text rest := by
  cases h with
  | lineFeed => exact hblanks.cons isBlank_lineEnds.1
  | pair => exact (hblanks.cons isBlank_lineEnds.1).cons isBlank_lineEnds.2

/-- All blanks after a line end are all blanks from the line end on. -/
theorem LineEnd.blanks_of_stops {text mid rest : List Char} (h : LineEnd text mid)
    (hblanks : Blanks text rest) (hstops : Stops isBlank rest) : Blanks mid rest := by
  cases h with
  | lineFeed => exact hblanks.tail isBlank_lineEnds.1 hstops
  | pair => exact (hblanks.tail isBlank_lineEnds.2 hstops).tail isBlank_lineEnds.1 hstops

/-- No command has a letter that starts a line end. -/
theorem LineEnd.stopsBefore {text rest : List Char} (h : LineEnd text rest) :
    Stops Rule.isCommandLetter text := by
  cases h <;> exact stops_cons.mpr (by decide)

end Grammar

namespace Rule

variable {α : Type}

/-- A phrase with a line end after it, if there is one. -/
def Closed (p : Phrase α) : Phrase α := fun text a rest =>
  ∃ mid b, p text a mid ∧ OptionalLineEnd mid b rest

/-- An optional line end and then all blanks are all blanks. -/
theorem optionalLineEnd_blanks {text rest : List Char} (hstops : Stops isBlank rest) :
    (∃ b mid, OptionalLineEnd text b mid ∧ Blanks mid rest) ↔ Blanks text rest := by
  constructor
  · rintro ⟨b, mid, hend, hblanks⟩
    cases hend with
    | ends lineEnd => exact lineEnd.blanks hblanks
    | none _ => exact hblanks
  · intro hblanks
    by_cases hend : ∃ mid, LineEnd text mid
    · obtain ⟨mid, hend⟩ := hend
      exact ⟨true, mid, .ends hend, hend.blanks_of_stops hblanks hstops⟩
    · -- No line end is here, and then the first step leaves all blanks to the second.
      exact ⟨false, text, .none fun mid h => hend ⟨mid, h⟩, hblanks⟩

/-- A closed phrase and then all blanks are an entry. -/
theorem closed_blanks {p : Phrase α} {text rest : List Char} {a : α} :
    (∃ mid, Closed p text a mid ∧ Blanks mid rest ∧ Stops isBlank rest) ↔
      Entry p text a rest := by
  constructor
  · intro h
    obtain ⟨mid, ⟨mid', b, hphrase, hend⟩, hblanks, hstops⟩ := h
    exact ⟨⟨mid', hphrase, (optionalLineEnd_blanks hstops).mp ⟨b, mid, hend, hblanks⟩⟩, hstops⟩
  · intro h
    obtain ⟨⟨mid, hphrase, hblanks⟩, hstops⟩ := h
    obtain ⟨b, mid', hend, hblanks'⟩ := (optionalLineEnd_blanks hstops).mpr hblanks
    exact ⟨mid', ⟨mid, b, hphrase, hend⟩, hblanks', hstops⟩

/-- A rule for a closed phrase, with the blanks after it, reads entries. -/
theorem Reads.entry {r : Rule α} {p : Phrase α} (hr : Reads r (Closed p)) :
    Reads (r >>= fun a => skipBlanks >>= fun _ => pure a) (Entry p) := by
  refine (hr.bind fun a => reads_skipBlanks.bind fun _ => reads_pure a).congr ?_
  intro text a rest
  rw [← closed_blanks]
  constructor
  · intro h
    obtain ⟨_, mid, hclosed, _, _, hblanks, rfl, rfl⟩ := h
    exact ⟨mid, hclosed, hblanks⟩
  · rintro ⟨mid, hclosed, hblanks⟩
    exact ⟨a, mid, hclosed, (), rest, hblanks, rfl, rfl⟩

/-- A digit is no space. -/
theorem space_of_isDigit (c : Char) (h : c.isDigit = true) : (c == ' ') = false := by
  rw [Bool.eq_false_iff]
  intro hspace
  rw [beq_iff_eq.mp hspace] at h
  exact absurd h (by decide)

/-- No heading has the space as its letter. -/
theorem stops_letter (h : Heading) (rest : List Char) :
    Stops (· == ' ') (h.letter :: rest) := by
  cases h <;> exact stops_cons.mpr (by decide)

/-- A pose is read. -/
theorem reads_pose (which : String) : Reads (pose which) PoseWords := by
  have hread : Reads (pose which) _ :=
    (reads_number _).bind fun x =>
      (reads_spaces _).bind fun _ =>
        (reads_number _).bind fun y =>
          (reads_spaces _).bind fun _ =>
            (reads_heading _).bind fun h => reads_pure (⟨⟨x, y⟩, h⟩ : Pose)
  refine hread.congr ?_
  intro text p rest
  -- Both sides list the parts in the order of the rule, each with what is left after it.
  constructor
  · intro h
    obtain ⟨x, t₁, column, _, t₂, ⟨gap, -⟩, y, t₃, row, _, t₄, ⟨gap', -⟩, h, _, rfl, rfl, rfl⟩ := h
    exact .mk column gap row gap'
  · rintro ⟨column, gap, row, gap'⟩
    exact ⟨_, _, column, (), _, ⟨gap, row.stopsBefore space_of_isDigit⟩, _, _, row, (), _,
      ⟨gap', stops_letter _ _⟩, _, _, rfl, rfl, rfl⟩

/-- A grid line is read. -/
theorem reads_gridLine : Reads gridLine (Closed GridLine) := by
  have hread : Reads gridLine _ :=
    (reads_literal gridWord _).bind fun _ =>
      (reads_spaces _).bind fun _ =>
        (reads_number _).bind fun w =>
          (reads_literal ['x'] _).bind fun _ =>
            (reads_number _).bind fun h =>
              reads_optionalEndOfLine.bind fun _ => reads_pure (⟨w, h⟩ : Grid)
  refine hread.congr ?_
  intro text g rest
  constructor
  · intro h
    obtain ⟨_, t₁, rfl, _, t₂, ⟨gap, -⟩, w, _, width, _, t₃, rfl, h, t₄, height, b, _, hend, rfl,
      rfl⟩ := h
    exact ⟨t₄, b, .mk gap width height, hend⟩
  · intro h
    obtain ⟨mid, b, ⟨gap, width, height⟩, hend⟩ := h
    exact ⟨(), _, rfl, (), _, ⟨gap, width.stopsBefore space_of_isDigit⟩, _, _, width, (), _, rfl,
      _, _, height, b, _, hend, rfl, rfl⟩

/-- An obstacle line is read. -/
theorem reads_obstacleLine : Reads obstacleLine (Closed ObstacleLine) := by
  have hread : Reads obstacleLine _ :=
    (reads_literal obstacleWord _).bind fun _ =>
      (reads_spaces _).bind fun _ =>
        (reads_number _).bind fun x =>
          (reads_spaces _).bind fun _ =>
            (reads_number _).bind fun y =>
              reads_optionalEndOfLine.bind fun _ => reads_pure (⟨x, y⟩ : Cell)
  refine hread.congr ?_
  intro text cell rest
  constructor
  · intro h
    obtain ⟨_, t₁, rfl, _, t₂, ⟨gap, -⟩, x, t₃, column, _, t₄, ⟨gap', -⟩, y, t₅, row, b, _, hend,
      rfl, rfl⟩ := h
    exact ⟨t₅, b, .mk gap column gap' row, hend⟩
  · intro h
    obtain ⟨mid, b, ⟨gap, column, gap', row⟩, hend⟩ := h
    exact ⟨(), _, rfl, (), _, ⟨gap, column.stopsBefore space_of_isDigit⟩, _, _, column, (), _,
      ⟨gap', row.stopsBefore space_of_isDigit⟩, _, _, row, b, _, hend, rfl, rfl⟩

/-- A journey is read. -/
theorem reads_journey : Reads journey (Closed JourneyLines) := by
  have hread : Reads journey _ :=
    (reads_pose _).bind fun s =>
      (reads_endOfLine _).bind fun _ =>
        (reads_commands _).bind fun ks =>
          (reads_endOfLine _).bind fun _ =>
            (reads_pose _).bind fun g =>
              reads_optionalEndOfLine.bind fun _ => reads_pure (⟨s, ks, g⟩ : Journey)
  refine hread.congr ?_
  intro text j rest
  constructor
  · intro h
    obtain ⟨s, t₁, start, _, _, lineEnd, ks, t₂, ⟨⟨rfl, -⟩, hne⟩, _, t₃, lineEnd', g, t₄, goal, b,
      _, hend, rfl, rfl⟩ := h
    exact ⟨t₄, b, .mk start lineEnd hne lineEnd' goal, hend⟩
  · intro h
    obtain ⟨mid, b, ⟨start, lineEnd, hne, lineEnd', goal⟩, hend⟩ := h
    exact ⟨_, _, start, (), _, lineEnd, _, _,
      ⟨⟨rfl, lineEnd'.stopsBefore⟩, hne⟩, (), _, lineEnd', _, _, goal, b, _, hend, rfl, rfl⟩

/-- An obstacle line and the blanks after it are read. -/
theorem reads_obstacleEntry : Reads obstacleEntry (Entry ObstacleLine) :=
  reads_obstacleLine.entry

/-- A journey and the blanks after it are read. -/
theorem reads_journeyEntry (expected : String) :
    Reads (journeyEntry expected) (Entry JourneyLines) := by
  refine ((reads_aheadDigit expected).bind fun _ => reads_journey.entry).congr ?_
  intro text j rest
  constructor
  · rintro ⟨_, _, ⟨rfl, -⟩, hentry⟩
    exact hentry
  · intro hentry
    refine ⟨(), text, ⟨rfl, ?_⟩, hentry⟩
    obtain ⟨⟨_, hlines, -⟩, -⟩ := hentry
    exact hlines.not_stops

/-- A line that is an obstacle line starts with the obstacle word. -/
theorem isPrefix_of_obstacleLine {text rest : List Char} {cell : Cell}
    (h : ObstacleLine text cell rest) : obstacleWord <+: text := by
  cases h with
  | @mk t₁ _ _ _ _ _ _ => exact ⟨t₁, rfl⟩

/-- The obstacle section is read, up to a place where no obstacle line can start. -/
theorem reads_obstacleSection : Reads obstacleSection (fun text cells rest =>
    Many (Entry ObstacleLine) text cells rest ∧ ¬obstacleWord <+: rest) := by
  refine Reads.many reads_obstacleEntry eager_obstacleEntry (fun hc => hc.startsWith_iff) ?_
  rintro text cell rest ⟨⟨_, hline, -⟩, -⟩
  exact isPrefix_of_obstacleLine hline

/-- A cursor inside stands at the end when nothing is left. -/
theorem atEnd_iff {c : Cursor} (hc : c.Inside) : c.atEnd = true ↔ c.rest = [] := by
  simp [Cursor.atEnd, hc.nonneg]

/-- Journeys are read up to the end of the text. -/
theorem reads_furtherJourneys : Reads furtherJourneys (fun text js rest =>
    Many (Entry JourneyLines) text js rest ∧ ¬rest ≠ []) := by
  refine Reads.many (reads_journeyEntry _) (eager_journeyEntry _) (fun hc => ?_) ?_
  · rw [Bool.not_eq_true', ← Bool.not_eq_true, atEnd_iff hc]
  · rintro text j rest ⟨⟨_, hlines, -⟩, -⟩ rfl
    obtain ⟨c, t, hnil, -⟩ := hlines.head_isDigit
    cases hnil

/-- The journey section is read. -/
theorem reads_journeySection : Reads journeySection (fun text js rest =>
    Many (Entry JourneyLines) text js rest ∧ rest = []) := by
  have hsome : Reads _ _ :=
    (reads_journeyEntry "OBSTACLE line, robot journey or end of input").bind fun first =>
      reads_furtherJourneys.bind fun others => reads_pure (first :: others)
  refine (Reads.ite (· = []) (reads_pure []) atEnd_iff hsome).congr ?_
  intro text js rest
  constructor
  · rintro (⟨rfl, rfl, rfl⟩ | ⟨-, first, mid, hentry, others, _, ⟨hmany, hend⟩, rfl, rfl⟩)
    · exact ⟨.nil, rfl⟩
    · exact ⟨.cons hentry hmany, Decidable.not_not.mp hend⟩
  · rintro ⟨hmany, rfl⟩
    cases hmany with
    | nil => exact .inl ⟨rfl, rfl, rfl⟩
    | @cons _ mid _ first others hentry hmany =>
      -- The section is not over in front of a journey, since a journey starts with a digit.
      refine .inr ⟨?_, first, mid, hentry, others, [], ⟨hmany, Decidable.not_not.mpr rfl⟩, rfl, rfl⟩
      rintro rfl
      obtain ⟨⟨_, hlines, -⟩, -⟩ := hentry
      obtain ⟨c, t, hnil, -⟩ := hlines.head_isDigit
      cases hnil

/-- Where a digit is, no obstacle line starts. -/
theorem not_isPrefix_of_isDigit {text : List Char} (h : ¬Stops Char.isDigit text) :
    ¬obstacleWord <+: text := by
  rintro ⟨rest, rfl⟩
  exact h (stops_cons.mpr (by decide))

/-- Journeys that go on to the end of the text start with no obstacle word. -/
theorem not_isPrefix_of_journeys {text : List Char} {js : List Journey}
    (h : Many (Entry JourneyLines) text js []) : ¬obstacleWord <+: text := by
  cases h with
  | nil => exact fun h => absurd (List.prefix_nil.mp h) (by decide)
  | cons hentry _ =>
    obtain ⟨⟨_, hlines, -⟩, -⟩ := hentry
    exact not_isPrefix_of_isDigit hlines.not_stops

/-- A document is read up to the end of the text. -/
theorem reads_document : Reads document (fun text d rest => Spells text d ∧ rest = []) := by
  have hread : Reads document _ :=
    reads_gridLine.bind fun g =>
      reads_skipBlanks.bind fun _ =>
        reads_obstacleSection.bind fun cells =>
          reads_journeySection.bind fun js => reads_pure (⟨g, cells, js⟩ : Document)
  refine hread.congr ?_
  intro text d rest
  constructor
  · intro h
    obtain ⟨g, t₁, hgrid, _, t₂, hblanks, cells, t₃, ⟨hcells, -⟩, js, _, ⟨hjs, rfl⟩, rfl, rfl⟩ := h
    have hentry : Entry GridLine text g t₂ := closed_blanks.mp ⟨t₁, hgrid, hblanks⟩
    exact ⟨.mk hentry.1 (hcells.mono fun h => h.1) (hjs.mono fun h => h.1), rfl⟩
  · intro h
    obtain ⟨⟨hgrid, hcells, hjs⟩, rfl⟩ := h
    -- From the end of the text backwards, each section shows where the blanks before it end.
    obtain ⟨hjs, hstops₂⟩ := hjs.toEntries JourneyLines.stopsBefore (stops_nil _)
    obtain ⟨hcells, hstops₁⟩ := hcells.toEntries ObstacleLine.stopsBefore hstops₂
    obtain ⟨mid, hclosed, hblanks⟩ := closed_blanks.mpr ⟨hgrid, hstops₁⟩
    exact ⟨_, mid, hclosed, (), _, hblanks, _, _, ⟨hcells, not_isPrefix_of_journeys hjs⟩, _, _,
      ⟨hjs, rfl⟩, rfl, rfl⟩

end Rule

/-- The reader accepts the grammar and nothing else. -/
theorem read_eq_ok_iff {text : String} {d : Document} :
    Document.read text = .ok d ↔ Spells text.toList d := by
  have hc := Cursor.inside_start text.toList
  have hrun : Document.read text = .ok d ↔
      ∃ e, Rule.document (Cursor.start text.toList) = .ok d e := by
    unfold Document.read
    split <;> simp [*]
  rw [hrun]
  constructor
  · rintro ⟨e, he⟩
    exact ((Rule.reads_document.ok_iff hc).mp he).1.1
  · intro hspells
    -- The reader has to stop somewhere: at the cursor that has nothing left.
    have hend : [] <:+ (Cursor.start text.toList).rest := List.nil_suffix
    obtain ⟨e, hleads, hrest⟩ := hc.exists_leads hend
    exact ⟨e, (Rule.reads_document.ok_iff hc).mpr ⟨⟨hspells, hrest⟩, hleads⟩⟩

/-- The reader decides the grammar. It accepts a text with a document exactly when the text can
be split into the parts of that document. No text can be split into the parts of two documents,
and a text without such a split gets a parse error. -/
theorem read_decides_grammar :
    (∀ (text : String) (d : Document), Document.read text = .ok d ↔ Spells text.toList d) ∧
      (∀ (text : List Char) (d e : Document), Spells text d → Spells text e → d = e) ∧
      ∀ text : String, (∀ d, ¬Spells text.toList d) → ∃ e, Document.read text = .error e := by
  refine ⟨fun text d => read_eq_ok_iff, fun text d e hd he => ?_, fun text hnone => ?_⟩
  · rw [← String.toList_ofList (l := text), ← read_eq_ok_iff] at hd he
    exact Except.ok.inj (hd.symm.trans he)
  · cases hread : Document.read text with
    | error e => exact ⟨e, rfl⟩
    | ok d => exact absurd (read_eq_ok_iff.mp hread) (hnone d)

/-- Sections need no blanks between them. -/
example : (Document.read "GRID 1x1OBSTACLE 0 0").toOption = some ⟨⟨1, 1⟩, [⟨0, 0⟩], []⟩ := by
  decide +kernel

/-- A number is a whole run of digits. The height is 10 here, and no journey starts behind it. -/
example : (Document.read "GRID 1x10 0 N\nR\n0 0 E").toOption = none := by
  decide +kernel

end GridWalk
