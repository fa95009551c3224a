import GridWalk.Proofs.Refusal
import GridWalk.Proofs.Text.Returns

/-!
# `GridWalk.Proofs.LineEnds`: the two kinds of line ends

A line may end with a line feed, or with a carriage return and a line feed. If all line feeds of a
text get a carriage return, the text stays the document that it was. If it was no document, it
breaks off at the same part, in the same line and in the same column. Only where the line feed
itself was in the way, the carriage return now is.

Of all phrases of the grammar, only a line end looks at carriage returns. The text must not have
had any before, since two of them in a row end no line.

* `Portable`: phrases that stay what they are. The entries of a document are among them.
* `RowComplains.withReturns` and `DocumentComplains.withReturns`: complaints that stay.
* `read_withReturns`: all this for the reader, with lines and columns.
-/

set_option autoImplicit false

namespace GridWalk

open GridWalk.Text (isBlank quotedChars withReturns withReturns_cons withReturns_append
  withReturns_word withReturns_ne_nil)

/-- The same complaint in the text with carriage returns. -/
def Complaint.withReturns (k : Complaint) : Complaint :=
  ⟨k.expected, Text.withReturns k.here, k.oversized⟩

namespace Grammar

open GridWalk.Rule (Oversized)

variable {text rest : List Char}

/-- The phrases stay what they are when all line feeds get a carriage return. -/
structure Portable {α : Type} (p : Phrase α) : Prop where
  withReturns {text rest : List Char} {a : α} : '\r' ∉ text → p text a rest →
    p (Text.withReturns text) a (Text.withReturns rest)

/-! ### Runs and words -/

/-- A run ends where it ended before if it treats both characters of a line end alike. -/
theorem stops_withReturns {p : Char → Bool} (hp : p '\r' = p '\n') :
    Stops p (withReturns text) ↔ Stops p text := by
  cases text with
  | nil => exact Iff.rfl
  | cons c text =>
    by_cases hc : c = '\n'
    · subst hc
      rw [Text.withReturns_lineFeed, stops_cons, stops_cons, hp]
    · rw [withReturns_cons hc, stops_cons, stops_cons]

/-- Characters of a class without the line feed stay as they are. -/
theorem withReturns_run {p : Char → Bool} {run : List Char} (hp : p '\n' = false)
    (hrun : ∀ c ∈ run, p c = true) (rest : List Char) :
    withReturns (run ++ rest) = run ++ withReturns rest := by
  have hfeed : '\n' ∉ run := by
    intro hmem
    rw [hrun _ hmem] at hp
    cases hp
  exact withReturns_word hfeed rest

/-- A word without line ends starts a text exactly when it did before. -/
theorem isPrefix_withReturns {word : List Char} (hfeed : '\n' ∉ word) (hreturn : '\r' ∉ word) :
    word <+: withReturns text ↔ word <+: text := by
  induction word generalizing text with
  | nil => simp
  | cons d word ih =>
    rw [List.mem_cons, not_or] at hfeed hreturn
    cases text with
    | nil => simp
    | cons c text =>
      by_cases hc : c = '\n'
      · subst hc
        simp [List.cons_prefix_cons, Ne.symm hfeed.1, Ne.symm hreturn.1]
      · rw [withReturns_cons hc, List.cons_prefix_cons, List.cons_prefix_cons,
          ih hfeed.2 hreturn.2]

/-- The words of all lines have no line ends. -/
theorem not_mem_of_mem_words : ∀ word ∈ words, '\n' ∉ word ∧ '\r' ∉ word := by
  decide

/-- The letters of commands are no line feeds. -/
theorem not_mem_spell (ks : List Command) : '\n' ∉ Command.spell ks := by
  intro hmem
  obtain ⟨k, -, hk⟩ := List.mem_map.mp hmem
  cases k <;> exact absurd hk (by decide)

theorem withReturns_letter (h : Heading) (rest : List Char) :
    withReturns (h.letter :: rest) = h.letter :: withReturns rest :=
  withReturns_cons (by cases h <;> decide) rest

/-! ### Phrases

A phrase stands for the same value as before. Where a run of digits, spaces or letters ended at a
line feed, it now ends at the carriage return in front of it, and no earlier. -/

theorem LineEnd.withReturns (hreturn : '\r' ∉ text) (h : LineEnd text rest) :
    LineEnd (withReturns text) (withReturns rest) := by
  cases h with
  | lineFeed => exact .pair
  -- Without carriage returns there is no pair yet. A pair would get a second carriage return, and
  -- then it would be a pair no longer.
  | pair => exact absurd List.mem_cons_self hreturn

/-- No line end is made where none was. -/
theorem no_lineEnd_withReturns (h : ∀ rest, ¬LineEnd text rest) :
    ∀ rest, ¬LineEnd (withReturns text) rest := by
  intro rest hend
  cases text with
  | nil => cases hend
  | cons c text =>
    by_cases hc : c = '\n'
    · subst hc
      exact h text .lineFeed
    · rw [withReturns_cons hc] at hend
      cases text with
      | nil =>
        cases hend
        exact hc rfl
      | cons d text =>
        by_cases hd : d = '\n'
        · -- The line feed has its own carriage return now, so the one before it ends no line.
          subst hd
          cases hend
          exact hc rfl
        · rw [withReturns_cons hd] at hend
          cases hend with
          | lineFeed => exact hc rfl
          | pair => exact hd rfl

theorem Number.withReturns {n : Nat} (h : Number text n rest) :
    Number (withReturns text) n (withReturns rest) := by
  obtain ⟨hne, hdigits, hstops, hfits⟩ := h
  rw [withReturns_run (by decide) hdigits]
  exact .run hne hdigits ((stops_withReturns (by decide)).mpr hstops) hfits

theorem Spaces.withReturns (h : Spaces text rest) :
    Spaces (withReturns text) (withReturns rest) := by
  obtain ⟨n, rfl⟩ := h
  have hspace : ∀ c ∈ List.replicate (n + 1) ' ', (c == ' ') = true := by
    intro c hc
    rw [List.eq_of_mem_replicate hc]
    decide
  exact ⟨n, withReturns_run (by decide) hspace rest⟩

/-- Carriage returns are blanks among blanks. -/
theorem Blanks.withReturns (h : Blanks text rest) :
    Blanks (withReturns text) (withReturns rest) := by
  obtain ⟨run, hrun, rfl⟩ := h
  refine ⟨Text.withReturns run, ?_, withReturns_append run rest⟩
  -- What is left to show is that the new characters of the run are blanks as well.
  induction run with
  | nil => simp
  | cons c run ih =>
    have hothers := ih fun d hd => hrun d (List.mem_cons_of_mem c hd)
    by_cases hc : c = '\n'
    · subst hc
      simpa [Text.isBlank_lineEnds] using hothers
    · rw [withReturns_cons hc]
      simpa [hrun c List.mem_cons_self] using hothers

theorem PoseWords.withReturns {p : Pose} (h : PoseWords text p rest) :
    PoseWords (withReturns text) p (withReturns rest) := by
  obtain ⟨column, gap, row, gap'⟩ := h
  -- The last gap ends at the letter of the heading, which is part of the pose.
  have hgap' := gap'.withReturns
  rw [withReturns_letter] at hgap'
  exact .mk column.withReturns gap.withReturns row.withReturns hgap'

theorem portable_gridLine : Portable GridLine := by
  refine ⟨fun {text rest g} _ h => ?_⟩
  obtain ⟨gap, width, height⟩ := h
  exact .mk gap.withReturns width.withReturns height.withReturns

theorem portable_obstacleLine : Portable ObstacleLine := by
  refine ⟨fun {text rest cell} _ h => ?_⟩
  obtain ⟨gap, column, gap', row⟩ := h
  exact .mk gap.withReturns column.withReturns gap'.withReturns row.withReturns

/-- The line ends of a journey become pairs. -/
theorem portable_journeyLines : Portable JourneyLines := by
  refine ⟨fun {text rest j} hreturn h => ?_⟩
  obtain ⟨start, lineEnd, hne, lineEnd', goal⟩ := h
  -- What is left of a text without carriage returns has none either.
  have hreturn₁ := mt ((Rule.reads_pose "").isSuffix start).mem hreturn
  have hreturn₂ := mt ((Rule.reads_endOfLine "").isSuffix (a := ()) lineEnd).mem hreturn₁
  have hend := lineEnd.withReturns hreturn₁
  have hend' := lineEnd'.withReturns (mt (List.mem_append_right _) hreturn₂)
  rw [withReturns_word (not_mem_spell _)] at hend
  exact .mk start.withReturns hend hne hend' goal.withReturns

section
variable {α : Type} {p : Phrase α}

/-- The blanks of an entry become more. -/
theorem Portable.entry (hp : Portable p) : Portable (Entry p) := by
  refine ⟨fun {text rest a} hreturn h => ?_⟩
  obtain ⟨⟨mid, hphrase, hblanks⟩, hstops⟩ := h
  exact ⟨⟨_, hp.withReturns hreturn hphrase, hblanks.withReturns⟩,
    (stops_withReturns (by decide)).mpr hstops⟩

/-- Portable phrases in a row are portable. -/
theorem Portable.many (hp : Portable p) (hlocal : Local p) : Portable (Many p) := by
  refine ⟨fun {text rest as} hreturn h => ?_⟩
  induction h with
  | nil => exact .nil
  | cons first _ ih =>
    exact .cons (hp.withReturns hreturn first) (ih (mt (hlocal.isSuffix first).mem hreturn))

end

theorem Opening.withReturns {g : Grid} {cells : List Cell} (hreturn : '\r' ∉ text)
    (h : Opening text g cells rest) : Opening (withReturns text) g cells (withReturns rest) := by
  obtain ⟨hgrid, hcells⟩ := h
  have hmid := mt (local_gridLine.entry.isSuffix hgrid).mem hreturn
  exact .mk (portable_gridLine.entry.withReturns hreturn hgrid)
    ((portable_obstacleLine.entry.many local_obstacleLine.entry).withReturns hmid hcells)

/-- Journeys stay as they are. -/
theorem portable_journeys : Portable (Many (Entry JourneyLines)) :=
  portable_journeyLines.entry.many local_journeyLines.entry

/-! ### Rows that break off -/

/-- A part stays as it is. -/
theorem Part.Takes.withReturns {part : Part} (h : part.Takes text rest)
    (hword : part.letters ∈ words) (hreturn : '\r' ∉ text) :
    part.Takes (Text.withReturns text) (Text.withReturns rest) := by
  cases part with
  | word letters _ =>
    obtain rfl : text = letters ++ rest := h
    exact withReturns_word (not_mem_of_mem_words _ hword).1 rest
  | gap _ => exact ⟨h.1.withReturns, (stops_withReturns (by decide)).mpr h.2⟩
  | number _ =>
    obtain ⟨n, h⟩ := h
    exact ⟨n, h.withReturns⟩
  | heading _ =>
    obtain ⟨x, rfl⟩ := h
    exact ⟨x, withReturns_letter x rest⟩
  | commands _ =>
    obtain ⟨ks, ⟨rfl, hstops⟩, hne⟩ := h
    exact ⟨ks, ⟨withReturns_word (not_mem_spell ks) _,
      (stops_withReturns (by decide)).mpr hstops⟩, hne⟩
  | lineEnd _ => exact LineEnd.withReturns hreturn h

/-- A part that is missing stays missing. -/
theorem Part.Stuck.withReturns {part : Part} (h : part.Stuck text)
    (hword : part.letters ∈ words) : part.Stuck (Text.withReturns text) := by
  cases part with
  | word letters _ =>
    obtain ⟨hfeed, hreturn⟩ := not_mem_of_mem_words _ hword
    exact mt (isPrefix_withReturns hfeed hreturn).mp h
  | gap _ => exact (stops_withReturns (by decide)).mpr h
  | number _ => exact (stops_withReturns (by decide)).mpr h
  | heading _ => exact (stops_withReturns (by decide)).mpr h
  | commands _ => exact (stops_withReturns (by decide)).mpr h
  | lineEnd _ => exact no_lineEnd_withReturns h

/-- The digits at the start of a text stay as they are. -/
theorem takeWhile_isDigit_withReturns (text : List Char) :
    (withReturns text).takeWhile Char.isDigit = text.takeWhile Char.isDigit := by
  have hrun : ∀ c ∈ text.takeWhile Char.isDigit, c.isDigit = true :=
    List.all_eq_true.mp List.all_takeWhile
  have hstops := stops_dropWhile Char.isDigit text
  conv_lhs => rw [← List.takeWhile_append_dropWhile (p := Char.isDigit) (l := text)]
  rw [withReturns_run (by decide) hrun]
  exact takeWhile_run hrun ((stops_withReturns (by decide)).mpr hstops)

theorem oversized_withReturns (h : Oversized text) : Oversized (withReturns text) := by
  unfold Oversized
  rw [takeWhile_isDigit_withReturns]
  exact h

/-- A complaint about a part stays. -/
theorem Part.Complains.withReturns {part : Part} {k : Complaint} (h : part.Complains text k)
    (hword : part.letters ∈ words) : part.Complains (Text.withReturns text) k.withReturns := by
  rcases h with ⟨hstuck, rfl⟩ | ⟨hover, rfl⟩
  · exact .inl ⟨hstuck.withReturns hword, rfl⟩
  · cases part with
    | number _ => exact .inr ⟨oversized_withReturns hover, rfl⟩
    | _ => exact hover.elim

/-- A complaint about a row stays. -/
theorem RowComplains.withReturns {row : List Part} {k : Complaint} (h : RowComplains row text k)
    (hrow : ∀ part ∈ row, part.letters ∈ words) (hreturn : '\r' ∉ text) :
    RowComplains row (Text.withReturns text) k.withReturns := by
  induction h with
  | here complains => exact .here (complains.withReturns (hrow _ List.mem_cons_self))
  | later first _ ih =>
    have hothers := ih fun part hpart => hrow part (List.mem_cons_of_mem _ hpart)
    exact .later (first.withReturns (hrow _ List.mem_cons_self) hreturn)
      (hothers (mt first.isSuffix.mem hreturn))

/-- A complaint about a document stays. -/
theorem DocumentComplains.withReturns {k : Complaint} (h : DocumentComplains text k)
    (hreturn : '\r' ∉ text) : DocumentComplains (Text.withReturns text) k.withReturns := by
  have hword {text : List Char} :
      Rule.obstacleWord <+: Text.withReturns text ↔ Rule.obstacleWord <+: text :=
    isPrefix_withReturns (by decide) (by decide)
  have hdigit {text : List Char} :
      Stops Char.isDigit (Text.withReturns text) ↔ Stops Char.isDigit text :=
    stops_withReturns (by decide)
  cases h with
  | grid complains => exact .grid (complains.withReturns letters_gridRow hreturn)
  | obstacle opening starts complains =>
    have hrest := mt opening.isSuffix.mem hreturn
    exact .obstacle (opening.withReturns hreturn) (hword.mpr starts)
      (complains.withReturns letters_obstacleRow hrest)
  | stray opening noObstacle journeys ne_nil noJourney =>
    have hmid := mt opening.isSuffix.mem hreturn
    exact .stray (opening.withReturns hreturn) (mt hword.mp noObstacle)
      (portable_journeys.withReturns hmid journeys) (withReturns_ne_nil ne_nil)
      (hdigit.mpr noJourney)
  | journey opening noObstacle journeys starts complains =>
    have hmid := mt opening.isSuffix.mem hreturn
    have hrest := mt (local_journeyLines.entry.many.isSuffix journeys).mem hmid
    exact .journey (opening.withReturns hreturn) (mt hword.mp noObstacle)
      (portable_journeys.withReturns hmid journeys) (mt hdigit.mp starts)
      (complains.withReturns letters_journeyRow hrest)

/-- A document stays the document that it is. -/
theorem Spells.withReturns {d : Document} (h : Spells text d) (hreturn : '\r' ∉ text) :
    Spells (Text.withReturns text) d := by
  obtain ⟨mid, hopening, hjourneys⟩ := spells_iff.mp h
  have hmid := mt hopening.isSuffix.mem hreturn
  exact spells_iff.mpr
    ⟨_, hopening.withReturns hreturn, portable_journeys.withReturns hmid hjourneys⟩

end Grammar

open Grammar

/-! ### Errors -/

/-- The same error about the text with carriage returns. Where a line feed was in the way, now it
is its carriage return. -/
def ParseError.withReturn (e : ParseError) : ParseError :=
  { e with found := if e.found = "newline" then "carriage return" else e.found }

/-- What is shown in quotes is no line feed in words. -/
theorem quotedChars_ne_newline (shown : List Char) :
    String.ofList (quotedChars shown) ≠ "newline" :=
  Text.ofList_quotedChars_ne (by decide) (by decide)

/-- The words for what stands at a place are the same, unless a line feed stands there. -/
theorem Cursor.describe_withReturns (first rest : List Char) :
    (Cursor.before (Text.withReturns (first ++ rest)) (Text.withReturns rest)).describe
      = if (Cursor.before (first ++ rest) rest).describe = "newline" then "carriage return"
        else (Cursor.before (first ++ rest) rest).describe := by
  unfold Cursor.describe Cursor.peek
  rw [withReturns_append, Cursor.rest_before_append, Cursor.rest_before_append]
  cases rest with
  | nil => rfl
  | cons c rest =>
    by_cases hc : c = '\n'
    · subst hc
      rfl
    · rw [withReturns_cons hc, List.head?_cons, List.head?_cons]
      split <;> simp_all [quotedChars_ne_newline]

/-- The error of a complaint in the text with carriage returns. -/
theorem Complaint.error_withReturns {text : List Char} {k : Complaint} (h : k.here <:+ text) :
    k.withReturns.error (Text.withReturns text) = (k.error text).withReturn := by
  obtain ⟨first, rfl⟩ := h
  -- The lines in front of the place are the same lines.
  have hplace := Text.position_withReturns first k.here
  have hsplit : Text.withReturns (first ++ k.here) = Text.withReturns first ++ k.withReturns.here :=
    withReturns_append first k.here
  obtain ⟨hline, hcolumn⟩ := place_error hsplit
  obtain ⟨hline', hcolumn'⟩ := place_error (Eq.refl (first ++ k.here))
  rw [hplace, ← hline'] at hline
  rw [hplace, ← hcolumn'] at hcolumn
  obtain ⟨expected, here, oversized⟩ := k
  cases oversized with
  | false => exact ParseError.ext rfl (Cursor.describe_withReturns first here) hline hcolumn rfl
  | true =>
    refine ParseError.ext rfl ?_ hline hcolumn rfl
    -- The digits of a number are shown, and these are the same digits.
    let shown (digits : List Char) := String.ofList (quotedChars (digits.take Rule.shownDigits))
    show shown ((Text.withReturns here).takeWhile Char.isDigit)
      = if shown (here.takeWhile Char.isDigit) = "newline" then "carriage return"
        else shown (here.takeWhile Char.isDigit)
    rw [takeWhile_isDigit_withReturns, if_neg (quotedChars_ne_newline _)]

/-! ### Main result -/

/-- The reader does not tell the two kinds of line ends apart. -/
theorem read_withReturns {text : String} (h : '\r' ∉ text.toList) :
    (∀ d, Document.read text = .ok d →
        Document.read (String.ofList (Text.withReturns text.toList)) = .ok d) ∧
    ∀ e, Document.read text = .error e →
      ∃ e', Document.read (String.ofList (Text.withReturns text.toList)) = .error e' ∧
        e'.expected = e.expected ∧ e'.line = e.line ∧ e'.column = e.column ∧
        e'.detail = e.detail ∧
        e'.found = if e.found = "newline" then "carriage return" else e.found := by
  constructor
  · intro d hread
    rw [read_eq_ok_iff] at hread ⊢
    rw [String.toList_ofList]
    exact hread.withReturns h
  · intro e hread
    obtain ⟨k, hk, rfl⟩ := read_eq_error_iff.mp hread
    have hread' : Document.read (String.ofList (Text.withReturns text.toList))
        = .error (k.error text.toList).withReturn := by
      rw [read_eq_error_iff, String.toList_ofList]
      exact ⟨k.withReturns, hk.withReturns h, (k.error_withReturns hk.isSuffix).symm⟩
    exact ⟨_, hread', rfl, rfl, rfl, rfl, rfl⟩

/-- A journey with an empty line where its commands should stand. -/
theorem read_withReturns_empty_line :
    '\r' ∉ "GRID 1x1\n0 0 N\n\n".toList ∧
    ∃ e', Document.read "GRID 1x1\r\n0 0 N\r\n\r\n" = .error e' ∧
      e'.line = 3 ∧ e'.column = 1 ∧ e'.found = "carriage return" := by
  have hnone : '\r' ∉ "GRID 1x1\n0 0 N\n\n".toList := by decide +kernel
  have hread : Document.read "GRID 1x1\n0 0 N\n\n"
      = .error ⟨"robot commands, one or more of [L, R, F]", "newline", 3, 1, none⟩ := by
    decide +kernel
  obtain ⟨e', hread', -, hline, hcolumn, -, hfound⟩ := (read_withReturns hnone).2 _ hread
  exact ⟨hnone, e', hread', hline, hcolumn, hfound⟩

end GridWalk
