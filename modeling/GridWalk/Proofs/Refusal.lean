import GridWalk.Proofs.Grammar.Row
import GridWalk.Proofs.Text.Position

/-!
# `GridWalk.Proofs.Refusal`: the texts that are no documents

`Document.read` fails exactly on the complaints `DocumentComplains`. A document breaks off in its
grid line, in an obstacle line that has begun, in a journey that has begun, or in front of
something that is none of the two. All that stands before is a document so far: whole entries, in
the order of the grammar.

* `Opening`: the grid line and the obstacle lines so far.
* `DocumentComplains`: the four places where a document can break off.
* `Complaint.isAt_iff`: line and column of an error lead back to the place of its complaint.
* `read_eq_error_iff`: the reader fails with these complaints and no others.
-/

set_option autoImplicit false

namespace GridWalk

open Grammar
open Rule (Blame Missing)
open GridWalk.Text (isBlank)

namespace Grammar

/-- The beginning of a document: its grid line and its obstacle lines so far. -/
inductive Opening : List Char → Grid → List Cell → List Char → Prop
  | mk {text mid rest : List Char} {g : Grid} {cells : List Cell}
      (grid : Entry GridLine text g mid) (obstacles : Many (Entry ObstacleLine) mid cells rest) :
      Opening text g cells rest

/-- An opening sees of what follows it only how it starts. -/
theorem Opening.alike {text rest rest' : List Char} {g : Grid} {cells : List Cell}
    (h : Opening text g cells rest) (hreplace : CanReplace rest' rest) :
    ∃ text', Opening text' g cells rest' ∧ Alike text rest text' rest' := by
  obtain ⟨hgrid, hcells⟩ := h
  obtain ⟨mid', hcells', s₂⟩ := local_obstacleLine.entry.many.alike hcells hreplace
  obtain ⟨text', hgrid', s₁⟩ := local_gridLine.entry.alike hgrid (s₂.canReplace hreplace)
  exact ⟨text', .mk hgrid' hcells', s₁.trans s₂⟩

/-- What follows an opening is the end of the text. -/
theorem Opening.isSuffix {text rest : List Char} {g : Grid} {cells : List Cell}
    (h : Opening text g cells rest) : rest <:+ text := by
  obtain ⟨_, _, start, rfl, _⟩ := h.alike ⟨id, id⟩
  exact List.suffix_append start rest

/-- A document is an opening with journeys up to the end of the text. -/
theorem spells_iff {text : List Char} {d : Document} :
    Spells text d ↔
      ∃ mid, Opening text d.grid d.obstacles mid ∧ Many (Entry JourneyLines) mid d.journeys [] := by
  constructor
  · intro h
    obtain ⟨hgrid, hcells, hjs⟩ := h
    -- From the end of the text backwards, each section shows where the blanks before it end.
    obtain ⟨hjs, hmid⟩ := hjs.toEntries JourneyLines.stopsBefore (stops_nil _)
    obtain ⟨hcells, hstart⟩ := hcells.toEntries ObstacleLine.stopsBefore hmid
    exact ⟨_, .mk ⟨hgrid, hstart⟩ hcells, hjs⟩
  · intro h
    obtain ⟨mid, ⟨hgrid, hcells⟩, hjs⟩ := h
    exact .mk hgrid.1 (hcells.mono fun hentry => hentry.1) (hjs.mono fun hentry => hentry.1)

/-- What may stand after journeys, in words. An obstacle line may stand only before the first
one. -/
def mayFollow (journeys : List Journey) : String :=
  if journeys.isEmpty then "OBSTACLE line, robot journey or end of input"
  else "robot journey or end of input"

/-- The complaints about a text that is no document. -/
inductive DocumentComplains : Blame
  /-- The grid line breaks off. -/
  | grid {text : List Char} {k : Complaint} (complains : RowComplains gridRow text k) :
      DocumentComplains text k
  /-- An obstacle line starts and breaks off. -/
  | obstacle {text rest : List Char} {g : Grid} {cells : List Cell} {k : Complaint}
      (opening : Opening text g cells rest) (starts : Rule.obstacleWord <+: rest)
      (complains : RowComplains obstacleRow rest k) : DocumentComplains text k
  /-- Something starts that is no obstacle line, no journey and not the end of the text. -/
  | stray {text mid rest : List Char} {g : Grid} {cells : List Cell} {js : List Journey}
      (opening : Opening text g cells mid) (noObstacle : ¬Rule.obstacleWord <+: mid)
      (journeys : Many (Entry JourneyLines) mid js rest) (ne_nil : rest ≠ [])
      (noJourney : Stops Char.isDigit rest) : DocumentComplains text ⟨mayFollow js, rest, false⟩
  /-- A journey starts and breaks off. -/
  | journey {text mid rest : List Char} {g : Grid} {cells : List Cell} {js : List Journey}
      {k : Complaint} (opening : Opening text g cells mid)
      (noObstacle : ¬Rule.obstacleWord <+: mid) (journeys : Many (Entry JourneyLines) mid js rest)
      (starts : ¬Stops Char.isDigit rest) (complains : RowComplains journeyRow rest k) :
      DocumentComplains text k

/-- A document breaks off somewhere in the text. -/
theorem DocumentComplains.isSuffix {text : List Char} {k : Complaint}
    (h : DocumentComplains text k) : k.here <:+ text := by
  have hlocal : Local (Many (Entry JourneyLines)) := local_journeyLines.entry.many
  cases h with
  | grid complains => exact complains.isSuffix
  | obstacle opening _ complains => exact complains.isSuffix.trans opening.isSuffix
  | stray opening _ journeys => exact (hlocal.isSuffix journeys).trans opening.isSuffix
  | journey opening _ journeys _ complains =>
    exact complains.isSuffix.trans ((hlocal.isSuffix journeys).trans opening.isSuffix)

/-- The complaints where a journey may stand. -/
def JourneyComplains (expected : String) : Blame := fun text k =>
  Missing expected (Stops Char.isDigit) text k ∨
    (¬Stops Char.isDigit text ∧ RowComplains journeyRow text k)

end Grammar

namespace Rule

/-- Nothing is rejected behind the line of an entry. -/
theorem Rejects.entry {α : Type} {r : Rule α} {p : Phrase α} {b : Blame} (hreads : Reads r p)
    (hr : Rejects r b) : Rejects (r >>= fun a => skipBlanks >>= fun _ => pure a) b := by
  have htail : ∀ a : α, Rejects (skipBlanks >>= fun _ => (pure a : Rule α)) fun _ _ => False := by
    intro a
    refine (rejects_skipBlanks.bind reads_skipBlanks fun _ => rejects_pure a).congr ?_
    simp
  refine (hr.bind hreads htail).congr ?_
  simp

/-- An obstacle line fails where its row breaks off, whatever follows it. -/
theorem rejects_obstacleEntry : Rejects obstacleEntry (RowComplains obstacleRow) :=
  rejects_obstacleLine.entry reads_obstacleLine

/-- A journey fails where it does not start, or where its row breaks off. -/
theorem rejects_journeyEntry (expected : String) :
    Rejects (journeyEntry expected) (JourneyComplains expected) := by
  have hjourney : Rejects _ _ := rejects_journey.entry reads_journey
  refine ((rejects_aheadDigit expected).bind (reads_aheadDigit expected)
    fun _ => hjourney).congr fun {text k} => ?_
  refine or_congr_right ?_
  constructor
  · rintro ⟨_, _, ⟨rfl, hdigit⟩, hk⟩
    exact ⟨hdigit, hk⟩
  · rintro ⟨hdigit, hk⟩
    exact ⟨(), text, ⟨rfl, hdigit⟩, hk⟩

/-- The obstacle section fails in an obstacle line that has begun. -/
theorem rejects_obstacleSection : Rejects obstacleSection (fun text k =>
    ∃ cells mid, Many (Entry ObstacleLine) text cells mid ∧ obstacleWord <+: mid ∧
      RowComplains obstacleRow mid k) := by
  refine rejects_obstacleEntry.many reads_obstacleEntry eager_obstacleEntry
    (fun hc => hc.startsWith_iff) ?_
  rintro text cell rest ⟨⟨_, hline, -⟩, -⟩
  exact isPrefix_of_obstacleLine hline

/-- A journey is not the end of the text. -/
theorem ne_nil_of_journey {text rest : List Char} {j : Journey}
    (h : Entry JourneyLines text j rest) : text ≠ [] := by
  obtain ⟨⟨_, hlines, -⟩, -⟩ := h
  obtain ⟨c, t, rfl, -⟩ := hlines.head_isDigit
  exact List.cons_ne_nil c t

/-- Further journeys fail where no journey starts and where one breaks off. -/
theorem rejects_furtherJourneys : Rejects furtherJourneys (fun text k =>
    ∃ js mid, Many (Entry JourneyLines) text js mid ∧ mid ≠ [] ∧
      JourneyComplains "robot journey or end of input" mid k) := by
  refine (rejects_journeyEntry _).many (reads_journeyEntry _) (eager_journeyEntry _)
    (fun hc => ?_) ne_nil_of_journey
  rw [Bool.not_eq_true', ← Bool.not_eq_true, atEnd_iff hc]

/-- The journey section fails in the same way, but its first error has other words. -/
theorem rejects_journeySection : Rejects journeySection (fun text k =>
    ∃ js mid, Many (Entry JourneyLines) text js mid ∧ mid ≠ [] ∧
      JourneyComplains (mayFollow js) mid k) := by
  have hsome : Rejects _ _ :=
    (rejects_journeyEntry "OBSTACLE line, robot journey or end of input").bind
      (reads_journeyEntry _) fun first =>
        rejects_furtherJourneys.bind reads_furtherJourneys fun others =>
          rejects_pure (first :: others)
  refine (Rejects.ite (· = []) (rejects_pure []) atEnd_iff hsome).congr fun {text k} => ?_
  constructor
  · rintro (⟨-, hnone⟩ | ⟨hne, hfirst | ⟨j, mid, hentry, hlater | ⟨_, _, _, hnone⟩⟩⟩)
    · exact hnone.elim
    · exact ⟨[], text, .nil, hne, hfirst⟩
    · obtain ⟨js, mid', hmany, hne', hk⟩ := hlater
      exact ⟨j :: js, mid', .cons hentry hmany, hne', hk⟩
    · exact hnone.elim
  · rintro ⟨js, mid, hmany, hne, hk⟩
    cases hmany with
    | nil => exact .inr ⟨hne, .inl hk⟩
    | cons hentry hmany =>
      exact .inr ⟨ne_nil_of_journey hentry,
        .inr ⟨_, _, hentry, .inl ⟨_, mid, hmany, hne, hk⟩⟩⟩

/-- A document fails where it breaks off. -/
theorem rejects_document : Rejects document DocumentComplains := by
  have hrejects : Rejects document _ :=
    rejects_gridLine.bind reads_gridLine fun g =>
      rejects_skipBlanks.bind reads_skipBlanks fun _ =>
        rejects_obstacleSection.bind reads_obstacleSection fun cells =>
          rejects_journeySection.bind reads_journeySection fun js =>
            rejects_pure (⟨g, cells, js⟩ : Document)
  refine hrejects.congr fun {text k} => ?_
  -- The rules separate a line from the blanks after it, and the complaints speak of entries.
  constructor
  · rintro (hgrid | ⟨g, t₁, hgrid, hnone | ⟨_, t₂, hblanks, hsection⟩⟩)
    · exact .grid hgrid
    · exact hnone.elim
    · have hentry : Entry GridLine text g t₂ := closed_blanks.mp ⟨t₁, hgrid, hblanks⟩
      rcases hsection with ⟨cells, t₃, hcells, hstarts, hk⟩ | ⟨cells, t₃, ⟨hcells, hno⟩, hjourneys⟩
      · exact .obstacle (.mk hentry hcells) hstarts hk
      · rcases hjourneys with ⟨js, t₄, hjs, hne, ⟨hstops, rfl⟩ | ⟨hdigit, hk⟩⟩ | ⟨_, _, _, hnone⟩
        · exact .stray (.mk hentry hcells) hno hjs hne hstops
        · exact .journey (.mk hentry hcells) hno hjs hdigit hk
        · exact hnone.elim
  · intro h
    cases h with
    | grid hk => exact .inl hk
    | obstacle opening hstarts hk =>
      obtain ⟨hentry, hcells⟩ := opening
      obtain ⟨t₁, hgrid, hblanks⟩ := closed_blanks.mpr hentry
      exact .inr ⟨_, t₁, hgrid, .inr ⟨(), _, hblanks, .inl ⟨_, _, hcells, hstarts, hk⟩⟩⟩
    | stray opening hno hjs hne hstops =>
      obtain ⟨hentry, hcells⟩ := opening
      obtain ⟨t₁, hgrid, hblanks⟩ := closed_blanks.mpr hentry
      exact .inr ⟨_, t₁, hgrid, .inr ⟨(), _, hblanks, .inr ⟨_, _, ⟨hcells, hno⟩,
        .inl ⟨_, _, hjs, hne, .inl ⟨hstops, rfl⟩⟩⟩⟩⟩
    | @journey _ _ rest _ _ _ _ opening hno hjs hdigit hk =>
      obtain ⟨hentry, hcells⟩ := opening
      obtain ⟨t₁, hgrid, hblanks⟩ := closed_blanks.mpr hentry
      have hne : rest ≠ [] := by
        rintro rfl
        exact hdigit (stops_nil _)
      exact .inr ⟨_, t₁, hgrid, .inr ⟨(), _, hblanks, .inr ⟨_, _, ⟨hcells, hno⟩,
        .inl ⟨_, _, hjs, hne, .inr ⟨hdigit, hk⟩⟩⟩⟩⟩

end Rule

/-- The error is reported at the offset `q` of the text. -/
def ParseError.IsAt (e : ParseError) (text : List Char) (q : Int) : Prop :=
  ((Text.position text q).line : Int) = e.line ∧ (Text.position text q).column = e.column

instance (e : ParseError) (text : List Char) (q : Int) : Decidable (e.IsAt text q) :=
  inferInstanceAs (Decidable (_ ∧ _))

/-- Only the error about a number that is too large has a detail. -/
theorem Complaint.oversized_of_detail {text : List Char} {k : Complaint} {detail : String}
    (h : (k.error text).detail = some detail) : k.oversized = true := by
  unfold error at h
  cases hk : k.oversized with
  | true => rfl
  | false =>
    rw [hk] at h
    cases h

/-- The error of a complaint has the line and the column of its place. -/
theorem Complaint.place_error {text first : List Char} {k : Complaint}
    (h : text = first ++ k.here) :
    (k.error text).line = (Text.position text first.length).line ∧
      (k.error text).column = (Text.position text first.length).column := by
  have hplace : (Cursor.before text k.here).place = Text.position text first.length := by
    rw [h, Cursor.before_append]
    rfl
  rw [← hplace]
  unfold error
  split <;> exact ⟨rfl, rfl⟩

/-- Line and column of an error lead back to the place of its complaint, and to no other. -/
theorem Complaint.isAt_iff {text start : List Char} {k : Complaint} {q : Int}
    (h : text = start ++ k.here) : (k.error text).IsAt text q ↔ q = start.length := by
  have hsame : (k.error text).IsAt text q ↔
      Text.position text q = Text.position text start.length := by
    obtain ⟨hline, hcolumn⟩ := place_error h
    rw [ParseError.IsAt, hline, hcolumn]
    generalize Text.position text q = here
    generalize Text.position text start.length = there
    cases here
    cases there
    simp only [Text.Position.mk.injEq]
    omega
  rw [hsame]
  constructor
  · refine Text.eq_of_position_eq ?_
    rw [h, List.length_append]
    exact Nat.le_add_right _ _
  · rintro rfl
    rfl

/-- The reader fails where the document breaks off, and says what breaks off there. -/
theorem read_eq_error_iff {text : String} {e : ParseError} :
    Document.read text = .error e ↔
      ∃ k, DocumentComplains text.toList k ∧ e = k.error text.toList := by
  have hrun : Document.read text = .error e ↔
      ∃ d, Rule.document (Cursor.start text.toList) = .error e d := by
    unfold Document.read
    split <;> simp [*]
  have hrejects {d : Cursor} := Rule.rejects_document.error_iff (d := d) (e := e)
    (Cursor.inside_start text.toList)
  rw [hrun]
  simp only [hrejects]
  constructor
  · rintro ⟨d, k, hk, rfl, -⟩
    exact ⟨k, hk, rfl⟩
  · rintro ⟨k, hk, rfl⟩
    exact ⟨_, k, hk, rfl, rfl⟩

end GridWalk
