import GridWalk.Proofs.NumberReading
import GridWalk.Proofs.ViablePrefix

/-!
# `GridWalk.Proofs.TruthfulErrors`: errors say what is there and what is not

An error has words for what was expected. `Wanted.ofWords?` says what each of these words asks for,
and `Wanted.IsMissing` says when a text does not start with it. So an error can be compared with the
text at its place, without the rules that made it: what it asks for is missing there, and what it
found is what stands there.

* `Text.inWords`: a character in the words of an error.
* `DocumentComplains.asks`: every complaint asks for something that is missing.
* `DocumentComplains.read_before`: what stands in front of something stray is a document.
* `parseError_tells_truth`: all this for the errors of the reader.
-/

set_option autoImplicit false

namespace GridWalk

open Grammar
open GridWalk.Text (isBlank quotedChars)

/-- What the words of an error ask for. -/
inductive Wanted
  | word (letters : List Char)
  | number
  | space
  | lineEnd
  | heading
  | commands
  /-- A journey or the end of the text. -/
  | journey
  /-- An obstacle line, a journey or the end of the text. -/
  | entry
deriving DecidableEq

namespace Wanted

/-- The words of all errors. -/
def words : List (String × Wanted) :=
  [("GRID keyword", word ['G', 'R', 'I', 'D']),
    ("at least one space after GRID keyword", space),
    ("grid width", number),
    ("'x' between grid width and height", word ['x']),
    ("grid height", number),
    ("OBSTACLE keyword", word ['O', 'B', 'S', 'T', 'A', 'C', 'L', 'E']),
    ("at least one space after OBSTACLE keyword", space),
    ("obstacle X coordinate", number),
    ("at least one space after obstacle X coordinate", space),
    ("obstacle Y coordinate", number),
    ("initial robot X coordinate", number),
    ("at least one space after initial robot X coordinate", space),
    ("initial robot Y coordinate", number),
    ("at least one space after initial robot Y coordinate", space),
    ("initial robot direction, one of [N, E, S, W]", heading),
    ("newline after initial state", lineEnd),
    ("robot commands, one or more of [L, R, F]", commands),
    ("newline after commands", lineEnd),
    ("final robot X coordinate", number),
    ("at least one space after final robot X coordinate", space),
    ("final robot Y coordinate", number),
    ("at least one space after final robot Y coordinate", space),
    ("final robot direction, one of [N, E, S, W]", heading),
    ("OBSTACLE line, robot journey or end of input", entry),
    ("robot journey or end of input", journey)]

/-- What the words ask for. -/
def ofWords? (expected : String) : Option Wanted :=
  words.lookup expected

/-- The text does not start with what is asked for. -/
def IsMissing : Wanted → List Char → Prop
  | word letters, rest => ¬letters <+: rest
  | number, rest => ∀ c ∈ rest.head?, c.isDigit = false
  | space, rest => ∀ c ∈ rest.head?, c ≠ ' '
  | lineEnd, rest => ¬['\n'] <+: rest ∧ ¬['\r', '\n'] <+: rest
  | heading, rest => ∀ c ∈ rest.head?, c ∉ ['N', 'E', 'S', 'W']
  | commands, rest => ∀ c ∈ rest.head?, c ∉ ['L', 'R', 'F']
  | journey, rest => ∃ c ∈ rest.head?, isBlank c = false ∧ c.isDigit = false
  | entry, rest => (∃ c ∈ rest.head?, isBlank c = false ∧ c.isDigit = false) ∧
      ¬['O', 'B', 'S', 'T', 'A', 'C', 'L', 'E'] <+: rest

end Wanted

/-! ### What was found -/

/-- A character in the words of an error. -/
def Text.inWords (c : Char) : String :=
  if c = '\n' then "newline"
  else if c = '\r' then "carriage return"
  else if c = ' ' then "space"
  else String.ofList (quotedChars [c])

/-- No character is told as the end of the text. -/
theorem Text.inWords_ne_end (c : Char) : inWords c ≠ "end of input" := by
  unfold inWords
  split_ifs
  · decide
  · decide
  · decide
  · exact ofList_quotedChars_ne (by decide) (by decide)

/-- What stands at a cursor is told by its first character. -/
theorem Cursor.describe_eq (c : Cursor) :
    c.describe = match c.rest.head? with
      | none => "end of input"
      | some d => Text.inWords d := by
  unfold describe peek
  split <;> simp_all [Text.inWords]

namespace Grammar

variable {text mid rest : List Char} {k : Complaint}

/-! ### What was expected -/

/-- What the words for a part ask for. -/
def Part.wanted : Part → Wanted
  | word letters _ => .word letters
  | gap _ => .space
  | number _ => .number
  | heading _ => .heading
  | commands _ => .commands
  | lineEnd _ => .lineEnd

/-- The words for the parts of the grid line. -/
theorem ofWords?_gridRow : ∀ part ∈ gridRow, Wanted.ofWords? part.expected = some part.wanted := by
  decide +kernel

/-- The words for the parts of an obstacle line. -/
theorem ofWords?_obstacleRow :
    ∀ part ∈ obstacleRow, Wanted.ofWords? part.expected = some part.wanted := by
  decide +kernel

/-- The words for the parts of a journey. -/
theorem ofWords?_journeyRow :
    ∀ part ∈ journeyRow, Wanted.ofWords? part.expected = some part.wanted := by
  decide +kernel

/-- Where a part does not start, what its words ask for is missing. -/
theorem Part.Stuck.isMissing {part : Part} (h : part.Stuck text) : part.wanted.IsMissing text := by
  cases part with
  | word letters _ => exact h
  | number _ => exact h
  | gap _ =>
    intro c hc hspace
    have hno := h c hc
    rw [hspace] at hno
    exact absurd hno (by decide)
  | heading _ =>
    intro c hc hletter
    have hno := h c hc
    simp only [List.mem_cons, List.not_mem_nil, or_false] at hletter
    rcases hletter with rfl | rfl | rfl | rfl <;> exact absurd hno (by decide)
  | commands _ =>
    intro c hc hletter
    have hno := h c hc
    simp only [List.mem_cons, List.not_mem_nil, or_false] at hletter
    rcases hletter with rfl | rfl | rfl <;> exact absurd hno (by decide)
  | lineEnd _ =>
    constructor
    · rintro ⟨rest, rfl⟩
      exact h rest .lineFeed
    · rintro ⟨rest, rfl⟩
      exact h rest .pair

/-- The complaint asks for something. It is missing, or it is a number that is too large. -/
def Asks (k : Complaint) : Prop :=
  ∃ w, Wanted.ofWords? k.expected = some w ∧
    (k.oversized = false → w.IsMissing k.here) ∧ (k.oversized = true → w = .number)

/-- A complaint about a part asks for that part. -/
theorem Part.Complains.asks {part : Part} (h : part.Complains text k)
    (hwords : Wanted.ofWords? part.expected = some part.wanted) : Asks k := by
  rcases h with ⟨hstuck, rfl⟩ | ⟨hover, rfl⟩
  · exact ⟨part.wanted, hwords, fun _ => hstuck.isMissing, fun h => nomatch h⟩
  · refine ⟨part.wanted, hwords, fun h => (nomatch h), fun _ => ?_⟩
    cases part with
    | number _ => rfl
    | _ => exact hover.elim

/-- A complaint about a row asks for one of its parts. -/
theorem RowComplains.asks {row : List Part} (h : RowComplains row text k)
    (hrow : ∀ part ∈ row, Wanted.ofWords? part.expected = some part.wanted) : Asks k := by
  obtain ⟨part, hpart, hk⟩ := h.exists_part
  exact hk.asks (hrow part hpart)

/-- The words about what is stray ask for a journey, and for an obstacle line as well if no journey
stands before it. -/
theorem ofWords?_mayFollow (js : List Journey) :
    Wanted.ofWords? (mayFollow js) = some (if js.isEmpty then .entry else .journey) := by
  unfold mayFollow
  split <;> decide +kernel

/-- No blank follows entries in a row, if none stands in front of them. -/
theorem Many.stops_isBlank {α : Type} {p : Phrase α} {as : List α} (h : Many (Entry p) text as rest)
    (htext : Stops isBlank text) : Stops isBlank rest := by
  induction h with
  | nil => exact htext
  | cons first _ ih => exact ih first.2

/-- No blank follows an opening. -/
theorem Opening.stops_isBlank {g : Grid} {cells : List Cell} (h : Opening text g cells rest) :
    Stops isBlank rest := by
  obtain ⟨hgrid, hcells⟩ := h
  exact hcells.stops_isBlank hgrid.2

/-- What is stray asks for a journey, and for an obstacle line if no journey stands before it. -/
theorem asks_stray {g : Grid} {cells : List Cell} {js : List Journey}
    (opening : Opening text g cells mid) (noObstacle : ¬Rule.obstacleWord <+: mid)
    (journeys : Many (Entry JourneyLines) mid js rest) (ne_nil : rest ≠ [])
    (noJourney : Stops Char.isDigit rest) : Asks ⟨mayFollow js, rest, false⟩ := by
  have hblank := journeys.stops_isBlank opening.stops_isBlank
  have hfirst : ∃ c ∈ rest.head?, isBlank c = false ∧ c.isDigit = false := by
    cases rest with
    | nil => exact absurd rfl ne_nil
    | cons c rest => exact ⟨c, rfl, hblank c rfl, noJourney c rfl⟩
  refine ⟨_, ofWords?_mayFollow js, fun _ => ?_, fun h => nomatch h⟩
  cases journeys with
  | nil => exact ⟨hfirst, noObstacle⟩
  | cons _ _ => exact hfirst

/-- Every complaint asks for something. -/
theorem DocumentComplains.asks (h : DocumentComplains text k) : Asks k := by
  cases h with
  | grid complains => exact complains.asks ofWords?_gridRow
  | obstacle _ _ complains => exact complains.asks ofWords?_obstacleRow
  | stray opening noObstacle journeys ne_nil noJourney =>
    exact asks_stray opening noObstacle journeys ne_nil noJourney
  | journey _ _ _ _ complains => exact complains.asks ofWords?_journeyRow

/-! ### What stands before -/

/-- Only where something is stray can a journey be expected or the end. What stands before it is
then a document, and the words tell whether it has journeys. -/
theorem DocumentComplains.spells_before (h : DocumentComplains text k)
    (hwords : Wanted.ofWords? k.expected = some .journey ∨
      Wanted.ofWords? k.expected = some .entry) :
    ∃ start d, text = start ++ k.here ∧ Spells start d ∧
      Wanted.ofWords? k.expected = some (if d.journeys.isEmpty then .entry else .journey) := by
  have hpart {row : List Part} {text : List Char} (hk : RowComplains row text k)
      (hrow : ∀ part ∈ row, Wanted.ofWords? part.expected = some part.wanted) : False := by
    obtain ⟨part, hpart, hk⟩ := hk.exists_part
    rw [hk.expected_eq, hrow part hpart] at hwords
    -- No part of a row is a journey or the end.
    cases part <;> simp [Part.wanted] at hwords
  cases h with
  | grid complains => exact (hpart complains ofWords?_gridRow).elim
  | obstacle _ _ complains => exact (hpart complains ofWords?_obstacleRow).elim
  | stray opening _ journeys _ _ =>
    obtain ⟨text', ⟨start, htext, htext'⟩, hspells⟩ := opening.spells_cut journeys
    rw [List.append_nil] at htext'
    exact ⟨start, _, htext, htext' ▸ hspells, ofWords?_mayFollow _⟩
  | journey _ _ _ _ complains => exact (hpart complains ofWords?_journeyRow).elim

/-- The document in front of something stray has a journey exactly if the words do not speak of
obstacle lines. -/
theorem DocumentComplains.read_before {start : List Char} (h : DocumentComplains text k)
    (htext : text = start ++ k.here) :
    (Wanted.ofWords? k.expected = some .journey →
        ∃ d, Document.read (String.ofList start) = .ok d ∧ d.journeys ≠ []) ∧
      (Wanted.ofWords? k.expected = some .entry →
        ∃ d, Document.read (String.ofList start) = .ok d ∧ d.journeys = []) := by
  have hbefore (hwords : Wanted.ofWords? k.expected = some .journey ∨
      Wanted.ofWords? k.expected = some .entry) :
      ∃ d, Document.read (String.ofList start) = .ok d ∧
        Wanted.ofWords? k.expected = some (if d.journeys.isEmpty then .entry else .journey) := by
    obtain ⟨start', d, htext', hspells, hsame⟩ := h.spells_before hwords
    rw [htext, List.append_left_inj] at htext'
    subst htext'
    refine ⟨d, read_eq_ok_iff.mpr ?_, hsame⟩
    rw [String.toList_ofList]
    exact hspells
  constructor
  · intro hjourney
    obtain ⟨d, hread, hsame⟩ := hbefore (.inl hjourney)
    refine ⟨d, hread, fun hnone => ?_⟩
    rw [hjourney, hnone] at hsame
    cases hsame
  · intro hentry
    obtain ⟨d, hread, hsame⟩ := hbefore (.inr hentry)
    refine ⟨d, hread, ?_⟩
    cases hjs : d.journeys with
    | nil => rfl
    | cons j js =>
      rw [hentry, hjs] at hsame
      cases hsame

end Grammar

/-! ### Main result -/

/-- An error about something missing tells what stands at its place. -/
theorem Complaint.found_missing {text start : List Char} {k : Complaint}
    (h : text = start ++ k.here) (hk : k.oversized = false) :
    (k.error text).detail = none ∧
      ((k.error text).found = "end of input" ↔ start.length = text.length) ∧
      ∀ c, text[start.length]? = some c → (k.error text).found = Text.inWords c := by
  have herror : k.error text = (Cursor.before text k.here).error k.expected none :=
    if_neg (by simp [hk])
  have hfound : (k.error text).found = match k.here.head? with
      | none => "end of input"
      | some d => Text.inWords d := by
    rw [herror]
    show (Cursor.before text k.here).describe = _
    rw [Cursor.describe_eq, h, Cursor.rest_before_append]
  have hfirst : text[start.length]? = k.here.head? := by
    rw [h, List.getElem?_append_right (Nat.le_refl _), Nat.sub_self, List.head?_eq_getElem?]
  have hend : start.length = text.length ↔ k.here = [] := by
    rw [h, List.length_append, ← List.length_eq_zero_iff]
    omega
  refine ⟨by rw [herror]; rfl, ?_, ?_⟩
  · rw [hfound, hend]
    cases k.here with
    | nil => simp
    | cons c rest => simp [Text.inWords_ne_end]
  · intro c hc
    rw [hfirst] at hc
    rw [hfound, hc]

/-- An error about a number that is too large tells the first digits of the run at its place. -/
theorem Complaint.found_oversized {text start : List Char} {k : Complaint}
    (h : text = start ++ k.here) (hk : k.oversized = true) (hover : Rule.Oversized k.here) :
    (k.error text).detail = some "Invalid decimal value" ∧
      ∃ run, IsRunAt text start.length run ∧ 2147483647 < Nat.ofDigitChars 10 run 0 ∧
        (k.error text).found = String.ofList (quotedChars (run.take 20)) := by
  have herror : k.error text = Rule.oversized (.before text k.here) k.expected
      (k.here.takeWhile Char.isDigit) := if_pos hk
  have hdrop : text.drop start.length = k.here := by rw [h, List.drop_left]
  have hrun : IsRunAt text start.length (k.here.takeWhile Char.isDigit) := by
    have hdigit : ¬Stops Char.isDigit (text.drop start.length) := hdrop ▸ hover.not_stops
    rw [← hdrop]
    exact isRunAt_takeWhile hdigit
  rw [herror]
  exact ⟨rfl, _, hrun, hover, rfl⟩

/-- A parse error tells the truth about the text.

There is exactly one offset that has the line and the column of the error. The words for what was
expected ask for something, and the end of the text from that offset on does not start with it:
no keyword and no cross, no digit, no space, no line end, no letter of a heading or of a command,
and where a journey or the end was expected, neither of the two and no blank. Such an error has no
detail. It has found the end of the text exactly when the offset is the length of the text, and
otherwise the character at the offset.

An error with a detail asks for a number. A run of digits that is too large starts at the offset, no
digit stands in front of it, and its first twenty digits are what the error has found.

Where a journey or the end of the text was expected, the text in front of the offset is a document.
It has a journey if the error does not speak of obstacle lines, and none if it does. -/
theorem parseError_tells_truth {text : String} {e : ParseError}
    (h : Document.read text = .error e) :
    ∃ p : Nat, p ≤ text.length ∧ (∀ q : Int, e.IsAt text.toList q ↔ q = p) ∧
      (∃ w, Wanted.ofWords? e.expected = some w ∧
        ((e.detail = none ∧ w.IsMissing (text.toList.drop p) ∧
            (e.found = "end of input" ↔ p = text.length) ∧
            ∀ c, text.toList[p]? = some c → e.found = Text.inWords c) ∨
          (e.detail = some "Invalid decimal value" ∧ w = .number ∧
            (∀ c ∈ (text.toList.take p).getLast?, c.isDigit = false) ∧
            ∃ run, IsRunAt text.toList p run ∧ 2147483647 < Nat.ofDigitChars 10 run 0 ∧
              e.found = String.ofList (quotedChars (run.take 20))))) ∧
      (e.expected = "robot journey or end of input" →
        ∃ d, Document.read (String.ofList (text.toList.take p)) = .ok d ∧ d.journeys ≠ []) ∧
      (e.expected = "OBSTACLE line, robot journey or end of input" →
        ∃ d, Document.read (String.ofList (text.toList.take p)) = .ok d ∧ d.journeys = []) := by
  obtain ⟨k, hk, rfl⟩ := read_eq_error_iff.mp h
  obtain ⟨start, hstart⟩ := hk.isSuffix
  have htext : text.toList = start ++ k.here := hstart.symm
  have htake : text.toList.take start.length = start := by rw [htext, List.take_left]
  have hdrop : text.toList.drop start.length = k.here := by rw [htext, List.drop_left]
  have hexpected : (k.error text.toList).expected = k.expected := by
    unfold Complaint.error
    split <;> rfl
  obtain ⟨hjourney, hentry⟩ := hk.read_before htext
  refine ⟨start.length, ?_, fun q => Complaint.isAt_iff htext, ?_, ?_, ?_⟩
  · rw [← String.length_toList, htext, List.length_append]
    exact Nat.le_add_right _ _
  · obtain ⟨w, hw, hmissing, hnumber⟩ := hk.asks
    refine ⟨w, hexpected ▸ hw, ?_⟩
    rw [htake, hdrop]
    cases hsize : k.oversized with
    | false =>
      obtain ⟨hdetail, hend, hchar⟩ := Complaint.found_missing htext hsize
      rw [String.length_toList] at hend
      exact .inl ⟨hdetail, hmissing hsize, hend, hchar⟩
    | true =>
      obtain ⟨hover, start', htext', hclear⟩ := hk.oversized_cleanCut hsize
      rw [htext, List.append_left_inj] at htext'
      subst htext'
      obtain ⟨hdetail, hrun⟩ := Complaint.found_oversized htext hsize hover
      exact .inr ⟨hdetail, hnumber hsize, hclear hover.not_stops, hrun⟩
  · intro hwords
    rw [htake]
    apply hjourney
    rw [← hexpected, hwords]
    decide +kernel
  · intro hwords
    rw [htake]
    apply hentry
    rw [← hexpected, hwords]
    decide +kernel

/-- An obstacle line that comes too late, behind a document with one journey. -/
theorem parseError_tells_truth_late :
    Document.read "GRID 2x2\n0 0 N\nF\n0 1 N\nOBSTACLE 1 1" = .error
        ⟨"robot journey or end of input", "'O'", 5, 1, none⟩ ∧
      ∃ (p : Nat) (d : Document), p ≤ 35 ∧
        Document.read (String.ofList
          ("GRID 2x2\n0 0 N\nF\n0 1 N\nOBSTACLE 1 1".toList.take p)) = .ok d ∧
        d.journeys ≠ [] := by
  have hread : Document.read "GRID 2x2\n0 0 N\nF\n0 1 N\nOBSTACLE 1 1" = .error
      ⟨"robot journey or end of input", "'O'", 5, 1, none⟩ := by
    decide +kernel
  obtain ⟨p, hp, -, -, hdocument, -⟩ := parseError_tells_truth hread
  obtain ⟨d, hbefore, hjourneys⟩ := hdocument rfl
  exact ⟨hread, p, d, hp, hbefore, hjourneys⟩

end GridWalk
