import GridWalk.Proofs.Grammar.CleanCut
import Mathlib.Data.List.Chain

/-!
# `GridWalk.Proofs.ViablePrefix`: errors blame nothing too early

The text in front of a parse error is the beginning of some document. For the line that breaks
off, this is shown part by part: each part has a sample, the parts before it are kept, and no
sample makes one of these longer (`Separated`). For the document, the line that is completed takes
the place of the one that breaks off, and the entries before it do not notice (`Local`).

* `RowComplains.completes`: a row that breaks off can be completed.
* `DocumentComplains.completes`: so can a document.
* `parseError_at_viable_prefix`: all this for the reader, with lines and columns.
-/

set_option autoImplicit false

namespace GridWalk

namespace Grammar

open GridWalk.Text (isBlank)

/-! ### Completing a row -/

/-- Every part has a sample. -/
theorem Part.exists_sample (part : Part) :
    ∃ sample, ∀ rest, Stops part.goesOn rest → part.Takes (sample ++ rest) rest := by
  cases part with
  | word letters _ => exact ⟨letters, fun rest _ => rfl⟩
  | gap _ => exact ⟨[' '], fun rest hstops => ⟨⟨0, rfl⟩, hstops⟩⟩
  | number _ =>
    refine ⟨['0'], fun rest hstops => ⟨0, .run (List.cons_ne_nil _ _) ?_ hstops (by decide)⟩⟩
    simp
  | heading _ => exact ⟨['N'], fun rest _ => ⟨.north, rfl⟩⟩
  | commands _ =>
    exact ⟨['L'], fun rest hstops => ⟨[.left], ⟨rfl, hstops⟩, List.cons_ne_nil _ _⟩⟩
  | lineEnd _ => exact ⟨['\n'], fun rest _ => .lineFeed⟩

/-- Nothing that the second part can be makes the first one longer. -/
def Part.EndsBefore (part next : Part) : Prop :=
  ∀ {text rest}, next.Takes text rest → Stops part.goesOn text

/-- No part of the row can be made longer by the part after it. -/
def Separated (row : List Part) : Prop :=
  row.IsChain Part.EndsBefore

/-- A separated row has a sample. -/
theorem Separated.exists_sample {row : List Part} (h : Separated row) :
    ∃ sample, RowTakes row sample [] := by
  induction row with
  | nil => exact ⟨[], .nil⟩
  | cons part row ih =>
    obtain ⟨sample, hrow⟩ := ih h.tail
    obtain ⟨word, hword⟩ := part.exists_sample
    refine ⟨word ++ sample, .cons (hword sample ?_) hrow⟩
    cases hrow with
    | nil => exact stops_nil _
    | cons first _ => exact (List.isChain_cons_cons.mp h).1 first

/-- A separated row that breaks off can be completed from there on. -/
theorem RowComplains.completes {row : List Part} {text : List Char} {k : Complaint}
    (h : RowComplains row text k) (hrow : Separated row) :
    ∃ text' more, Alike text k.here text' more ∧ RowTakes row text' [] := by
  induction h with
  | here complains =>
    obtain ⟨sample, hsample⟩ := hrow.exists_sample
    rw [complains.here_eq]
    exact ⟨sample, sample, .refl, hsample⟩
  | later first _ ih =>
    obtain ⟨mid', more, halike, hothers⟩ := ih hrow.tail
    -- The parts before are kept, and the completed part does not make the last of them longer.
    cases hothers with
    | nil => contradiction
    | cons next others =>
      obtain ⟨text', hfirst, halike'⟩ := first.alike ((List.isChain_cons_cons.mp hrow).1 next)
      exact ⟨text', more, halike'.trans halike, .cons hfirst (.cons next others)⟩

/-! ### The rows of a document -/

namespace Part

variable {e e' : String} {part next : Part}

/-- A part of fixed length is not made longer. -/
theorem endsBefore_of_fixed (h : part.goesOn = fun _ => false) : part.EndsBefore next := by
  intro text rest _
  rw [h]
  exact fun _ _ => rfl

/-- Spaces are no digits. -/
theorem number_endsBefore_gap : (number e).EndsBefore (gap e') :=
  fun h => h.1.stops_isDigit

/-- The cross between the sides of a grid is no digit. -/
theorem number_endsBefore_cross : (number e).EndsBefore (word ['x'] e') := by
  rintro text rest rfl
  exact stops_cons.mpr (show 'x'.isDigit = false by decide)

/-- Digits are no spaces. -/
theorem gap_endsBefore_number : (gap e).EndsBefore (number e') := by
  rintro text rest ⟨n, h⟩
  exact h.stopsBefore Rule.space_of_isDigit

/-- The letters of headings are no spaces. -/
theorem gap_endsBefore_heading : (gap e).EndsBefore (heading e') := by
  rintro text rest ⟨h, rfl⟩
  exact Rule.stops_letter h rest

/-- Line ends are no commands. -/
theorem commands_endsBefore_lineEnd : (commands e).EndsBefore (lineEnd e') :=
  fun h => LineEnd.stopsBefore h

end Part

open GridWalk.Grammar.Part in
/-- The parts of a grid line keep apart. -/
theorem separated_gridRow : Separated gridRow :=
  .cons_cons (endsBefore_of_fixed rfl) <| .cons_cons gap_endsBefore_number <|
    .cons_cons number_endsBefore_cross <| .cons_cons (endsBefore_of_fixed rfl) <| .singleton _

open GridWalk.Grammar.Part in
/-- The parts of an obstacle line keep apart. -/
theorem separated_obstacleRow : Separated obstacleRow :=
  .cons_cons (endsBefore_of_fixed rfl) <| .cons_cons gap_endsBefore_number <|
    .cons_cons number_endsBefore_gap <| .cons_cons gap_endsBefore_number <| .singleton _

open GridWalk.Grammar.Part in
/-- The parts of a pose keep apart. -/
theorem separated_poseRow (which : String) : Separated (poseRow which) :=
  .cons_cons number_endsBefore_gap <| .cons_cons gap_endsBefore_number <|
    .cons_cons number_endsBefore_gap <| .cons_cons gap_endsBefore_heading <| .singleton _

open GridWalk.Grammar.Part in
/-- The parts of a journey keep apart. -/
theorem separated_journeyRow : Separated journeyRow := by
  refine List.isChain_append.mpr ⟨separated_poseRow _, ?_, ?_⟩
  · exact .cons_cons (endsBefore_of_fixed rfl) <| .cons_cons commands_endsBefore_lineEnd <|
      .cons_cons (endsBefore_of_fixed rfl) <| separated_poseRow _
  · -- The letter of the start stands before the line end.
    intro part hpart next _
    cases hpart
    exact endsBefore_of_fixed rfl

section
variable {text rest : List Char}

/-- What the row of a grid line takes is a grid line. -/
theorem exists_gridLine (h : RowTakes gridRow text rest) : ∃ g, GridLine text g rest := by
  simp only [gridRow, rowTakes_cons_iff, rowTakes_nil_iff] at h
  obtain ⟨_, rfl, _, ⟨gap, -⟩, _, ⟨_, width⟩, _, rfl, _, ⟨_, height⟩, rfl⟩ := h
  exact ⟨_, .mk gap width height⟩

/-- What the row of an obstacle line takes is an obstacle line. -/
theorem exists_obstacleLine (h : RowTakes obstacleRow text rest) :
    ∃ cell, ObstacleLine text cell rest := by
  simp only [obstacleRow, rowTakes_cons_iff, rowTakes_nil_iff] at h
  obtain ⟨_, rfl, _, ⟨gap, -⟩, _, ⟨_, column⟩, _, ⟨gap', -⟩, _, ⟨_, row⟩, rfl⟩ := h
  exact ⟨_, .mk gap column gap' row⟩

/-- What the row of a pose takes is a pose. -/
theorem exists_poseWords {which : String} (h : RowTakes (poseRow which) text rest) :
    ∃ p, PoseWords text p rest := by
  simp only [poseRow, rowTakes_cons_iff, rowTakes_nil_iff] at h
  obtain ⟨_, ⟨_, column⟩, _, ⟨gap, -⟩, _, ⟨_, row⟩, _, ⟨gap', -⟩, _, ⟨_, rfl⟩, rfl⟩ := h
  exact ⟨_, .mk column gap row gap'⟩

/-- What the row of a journey takes is a journey. -/
theorem exists_journeyLines (h : RowTakes journeyRow text rest) :
    ∃ j, JourneyLines text j rest := by
  simp only [journeyRow, rowTakes_append_iff, rowTakes_cons_iff] at h
  obtain ⟨_, hstart, _, lineEnd, _, ⟨_, ⟨rfl, -⟩, hne⟩, _, lineEnd', hgoal⟩ := h
  obtain ⟨_, start⟩ := exists_poseWords hstart
  obtain ⟨_, goal⟩ := exists_poseWords hgoal
  exact ⟨_, .mk start lineEnd hne lineEnd' goal⟩

end

/-! ### Completing a document -/

/-- A phrase at the end of a text has no blanks after it. -/
theorem Spaced.of_end {α : Type} {p : Phrase α} {text : List Char} {a : α} (h : p text a []) :
    Spaced p text a [] :=
  ⟨[], h, [], fun _ hc => absurd hc List.not_mem_nil, rfl⟩

/-- An opening with journeys up to the end is a document. -/
theorem Opening.spells {text mid rest : List Char} {g : Grid} {cells cells' : List Cell}
    {js : List Journey} (h : Opening text g cells mid)
    (hcells : Many (Spaced ObstacleLine) mid cells' rest)
    (hjourneys : Many (Spaced JourneyLines) rest js []) : Spells text ⟨g, cells ++ cells', js⟩ := by
  obtain ⟨hgrid, hopening⟩ := h
  have hspaced : Many (Spaced ObstacleLine) _ cells mid := hopening.mono fun hentry => hentry.1
  exact .mk hgrid.1 (hspaced.append hcells) hjourneys

/-- What stands in front of anything behind an opening and journeys is a document. -/
theorem Opening.spells_cut {text mid rest : List Char} {g : Grid} {cells : List Cell}
    {js : List Journey} (h : Opening text g cells mid)
    (hjourneys : Many (Entry JourneyLines) mid js rest) :
    ∃ text', Alike text rest text' [] ∧ Spells text' ⟨g, cells, js⟩ := by
  obtain ⟨mid', hjs, halike⟩ := local_journeyLines.entry.many.alike hjourneys canReplace_nil
  obtain ⟨text', hopening, halike'⟩ := h.alike (halike.canReplace canReplace_nil)
  exact ⟨text', halike'.trans halike, spells_iff.mpr ⟨mid', hopening, hjs⟩⟩

/-- A text that is no document can be completed from the place of its complaint on. -/
theorem DocumentComplains.completes {text : List Char} {k : Complaint}
    (h : DocumentComplains text k) :
    ∃ text' more d, Alike text k.here text' more ∧ Spells text' d := by
  cases h with
  | grid hk =>
    obtain ⟨text', more, halike, hrow⟩ := hk.completes separated_gridRow
    obtain ⟨g, hline⟩ := exists_gridLine hrow
    exact ⟨text', more, _, halike, .mk (.of_end hline) .nil .nil⟩
  | @obstacle _ rest g cells _ opening hstarts hk =>
    obtain ⟨rest', more, halike, hrow⟩ := hk.completes separated_obstacleRow
    obtain ⟨cell, hline⟩ := exists_obstacleLine hrow
    have hreplace : CanReplace rest' rest :=
      canReplace_of_prefix (by decide) hstarts (Rule.isPrefix_of_obstacleLine hline)
    obtain ⟨text', hopening, halike'⟩ := opening.alike hreplace
    have hcells : Many (Spaced ObstacleLine) rest' [cell] [] := .cons (.of_end hline) .nil
    exact ⟨text', more, _, halike'.trans halike, hopening.spells hcells .nil⟩
  | @stray _ mid rest g cells js opening hno hjs hne hstops =>
    -- Without what is stray the text is over.
    obtain ⟨text', halike, hspells⟩ := opening.spells_cut hjs
    exact ⟨text', [], _, halike, hspells⟩
  | @journey _ mid rest g cells js _ opening hno hjs hdigit hk =>
    obtain ⟨rest', more, halike, hrow⟩ := hk.completes separated_journeyRow
    obtain ⟨j, hlines⟩ := exists_journeyLines hrow
    have hreplace : CanReplace rest' rest :=
      ⟨fun hstops => absurd hstops hdigit, fun _ => hlines.stopsBefore⟩
    obtain ⟨mid', hjs', halike'⟩ := local_journeyLines.entry.many.alike hjs hreplace
    obtain ⟨text', hopening, halike''⟩ := opening.alike (halike'.canReplace hreplace)
    have hspaced : Many (Spaced JourneyLines) mid' js rest' := hjs'.mono fun hentry => hentry.1
    have hlast : Many (Spaced JourneyLines) rest' [j] [] := .cons (.of_end hlines) .nil
    exact ⟨text', more, _, halike''.trans (halike'.trans halike),
      hopening.spells .nil (hspaced.append hlast)⟩

end Grammar

open Grammar

/-- A parse error is reported no later than the text left the language.

There is exactly one offset that has the line and the column of the error, and it lies in the text
or at its end. The text in front of it can be completed to a document, so nothing in front of it
is to blame. If the error is about the value of a number, then a number that is too large has its
first digit there. -/
theorem parseError_at_viable_prefix {text : String} {e : ParseError}
    (h : Document.read text = .error e) :
    ∃ p : Nat, p ≤ text.length ∧ (∀ q : Int, e.IsAt text.toList q ↔ q = p) ∧
      (∃ (more : String) (d : Document),
        Document.read (String.ofList (text.toList.take p) ++ more) = .ok d) ∧
      (e.detail = some "Invalid decimal value" →
        Rule.Oversized (text.toList.drop p) ∧
          ∀ c ∈ (text.toList.take p).getLast?, c.isDigit = false) := by
  obtain ⟨k, hk, rfl⟩ := read_eq_error_iff.mp h
  obtain ⟨_, more, d, ⟨start, htext, rfl⟩, hspells⟩ := hk.completes
  have htake : text.toList.take start.length = start := by rw [htext, List.take_left]
  have hdrop : text.toList.drop start.length = k.here := by rw [htext, List.drop_left]
  refine ⟨start.length, ?_, fun q => Complaint.isAt_iff htext, ⟨String.ofList more, d, ?_⟩, ?_⟩
  · rw [← String.length_toList, htext, List.length_append]
    exact Nat.le_add_right _ _
  · rw [htake, read_eq_ok_iff, String.toList_append, String.toList_ofList, String.toList_ofList]
    exact hspells
  · intro hdetail
    obtain ⟨hover, start', htext', hclear⟩ :=
      hk.oversized_cleanCut (Complaint.oversized_of_detail hdetail)
    -- Both cuts leave the same text, so they are one.
    rw [htext, List.append_left_inj] at htext'
    subst htext'
    rw [htake, hdrop]
    exact ⟨hover, hclear hover.not_stops⟩

/-- A height that is too large, after a line that is sound up to there. -/
theorem parseError_at_viable_prefix_height :
    Document.read "GRID 2x99999999999" = .error
        ⟨"grid height", "'99999999999'", 1, 8, some "Invalid decimal value"⟩ ∧
      ∃ p : Nat, p ≤ "GRID 2x99999999999".length ∧
        ∃ (more : String) (d : Document),
          Document.read (String.ofList ("GRID 2x99999999999".toList.take p) ++ more) = .ok d := by
  have hread : Document.read "GRID 2x99999999999" = .error
      ⟨"grid height", "'99999999999'", 1, 8, some "Invalid decimal value"⟩ := by
    decide +kernel
  obtain ⟨p, hp, -, hviable, -⟩ := parseError_at_viable_prefix hread
  exact ⟨hread, p, hp, hviable⟩

end GridWalk
