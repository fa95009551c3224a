import GridWalk.Proofs.Refusal
import Mathlib.Data.List.Infix

/-!
# `GridWalk.Proofs.Finality`: errors that stay

A parse error is final when the text left at its place already decides what is wrong there: more
text at the end changes nothing. Undecided are the end of the text, which could still go on, and
the beginning of a keyword or of a line end that may come to its end. Everything else is decided
by one character, and a number that is too large stays too large when it gets more digits.

* `Decided`: the text left at a place decides what is there.
* `RowComplains.append` and `DocumentComplains.append`: complaints that stay.
* `ParseError.SameBut`: the same error, which may show more digits of a number.
* `parseError_final`: errors at decided places stay, whatever is appended.
-/

set_option autoImplicit false

namespace GridWalk

open GridWalk.Text (quotedChars)

/-- The same complaint in a text that is longer. -/
def Complaint.append (k : Complaint) (more : List Char) : Complaint :=
  ⟨k.expected, k.here ++ more, k.oversized⟩

namespace Grammar

open GridWalk.Rule (Oversized)

variable {text mid rest more : List Char}

/-- The text is not empty, and it is no keyword and no line end that is cut off. -/
def Decided (rest : List Char) : Prop :=
  rest ≠ [] ∧
    ∀ word ∈ [Rule.gridWord, Rule.obstacleWord, ['\r', '\n']], ¬(rest <+: word ∧ rest ≠ word)

instance (rest : List Char) : Decidable (Decided rest) :=
  inferInstanceAs (Decidable (_ ∧ _))

/-- More text does not change how a text starts. -/
theorem stops_append {p : Char → Bool} (h : text ≠ []) :
    Stops p (text ++ more) ↔ Stops p text := by
  cases text with
  | nil => exact absurd rfl h
  | cons c text => rw [List.cons_append, stops_cons, stops_cons]

/-- A word that is missing stays missing where it is not cut off. -/
theorem not_isPrefix_append {word : List Char} (hcut : ¬(rest <+: word ∧ rest ≠ word))
    (h : ¬word <+: rest) : ¬word <+: rest ++ more := by
  intro hlong
  rcases List.prefix_or_prefix_of_prefix hlong (List.prefix_append rest more) with hword | hrest
  · exact h hword
  · have hsame : rest = word := Decidable.not_not.mp fun hne => hcut ⟨hrest, hne⟩
    rw [hsame] at h
    exact h (List.prefix_refl word)

/-- A single character is never cut off. -/
theorem not_cut_single {c : Char} (h : rest ≠ []) : ¬(rest <+: [c] ∧ rest ≠ [c]) := by
  intro hcut
  cases rest with
  | nil => exact h rfl
  | cons d rest =>
    obtain ⟨hd, htail⟩ := List.cons_prefix_cons.mp hcut.1
    rw [hd, List.prefix_nil.mp htail] at hcut
    exact hcut.2 rfl

/-- A line end that is missing where the text is decided stays missing. -/
theorem Decided.no_lineEnd (h : Decided text) (hnone : ∀ rest, ¬LineEnd text rest) :
    ∀ rest, ¬LineEnd (text ++ more) rest := by
  have hpair : ¬['\r', '\n'] <+: text ++ more := by
    refine not_isPrefix_append (h.2 _ (by simp)) ?_
    rintro ⟨rest, rfl⟩
    exact hnone rest .pair
  have hfeed : ¬['\n'] <+: text ++ more := by
    refine not_isPrefix_append (not_cut_single h.1) ?_
    rintro ⟨rest, rfl⟩
    exact hnone rest .lineFeed
  intro rest hend
  generalize text ++ more = long at hend hpair hfeed
  cases hend with
  | lineFeed => exact hfeed ⟨rest, rfl⟩
  | pair => exact hpair ⟨rest, rfl⟩

/-- A run of a class is at least as long in a longer text. -/
theorem takeWhile_isPrefix_append (p : Char → Bool) (text more : List Char) :
    text.takeWhile p <+: (text ++ more).takeWhile p := by
  induction text with
  | nil => exact List.nil_prefix
  | cons c text ih =>
    rw [List.cons_append, List.takeWhile_cons, List.takeWhile_cons]
    split
    · exact (List.prefix_cons_inj c).mpr ih
    · exact List.prefix_refl _

/-- A number that is too large stays so with more digits. -/
theorem oversized_append (h : Oversized text) : Oversized (text ++ more) := by
  obtain ⟨digits, hdigits⟩ := takeWhile_isPrefix_append Char.isDigit text more
  unfold Oversized at *
  rw [← hdigits]
  exact Nat.lt_of_lt_of_le h (Text.ofDigitChars_le_append _ _)

/-! ### Complaints that stay -/

/-- A part that is followed by something stays as it is. -/
theorem Part.Takes.append {part : Part} (h : part.Takes text mid) (hne : mid ≠ []) :
    part.Takes (text ++ more) (mid ++ more) := by
  have hstops : Stops part.goesOn (mid ++ more) := (stops_append hne).mpr h.stops
  obtain ⟨_, hlong, start, rfl, rfl⟩ := h.alike hstops
  rw [List.append_assoc]
  exact hlong

/-- A part that does not start where the text is decided does not start in a longer text. -/
theorem Part.Stuck.append {part : Part} (h : part.Stuck text) (hdecided : Decided text)
    (hword : part.letters ∈ words) :
    part.Stuck (text ++ more) := by
  cases part with
  | word letters _ =>
    refine not_isPrefix_append ?_ h
    simp only [Part.letters, words, List.mem_cons, List.not_mem_nil, or_false] at hword
    rcases hword with rfl | rfl | rfl | rfl
    · exact absurd List.nil_prefix h
    · exact not_cut_single hdecided.1
    · exact hdecided.2 _ (by simp)
    · exact hdecided.2 _ (by simp)
  | lineEnd _ => exact hdecided.no_lineEnd h
  | _ => exact (stops_append hdecided.1).mpr h

/-- A complaint about a part stays where the text is decided. -/
theorem Part.Complains.append {part : Part} {k : Complaint} (h : part.Complains text k)
    (hdecided : Decided text)
    (hword : part.letters ∈ words) :
    part.Complains (text ++ more) (k.append more) := by
  rcases h with ⟨hstuck, rfl⟩ | ⟨hover, rfl⟩
  · exact .inl ⟨hstuck.append hdecided hword, rfl⟩
  · cases part with
    | number _ => exact .inr ⟨oversized_append hover, rfl⟩
    | _ => exact hover.elim

/-- A complaint about a row stays where the text is decided. -/
theorem RowComplains.append {row : List Part} {k : Complaint} (h : RowComplains row text k)
    (hdecided : Decided k.here)
    (hrow : ∀ part ∈ row, part.letters ∈ words) :
    RowComplains row (text ++ more) (k.append more) := by
  induction h with
  | here complains =>
    rw [complains.here_eq] at hdecided
    exact .here (complains.append hdecided (hrow _ List.mem_cons_self))
  | later first others ih =>
    -- The place of the complaint lies behind the first part, so something follows that part.
    have hne := List.IsSuffix.ne_nil others.isSuffix hdecided.1
    exact .later (first.append hne)
      (ih hdecided fun part hpart => hrow part (List.mem_cons_of_mem _ hpart))

/-- An opening that is followed by something stays as it is. -/
theorem Opening.append {g : Grid} {cells : List Cell} (h : Opening text g cells rest)
    (hne : rest ≠ []) : Opening (text ++ more) g cells (rest ++ more) := by
  have hreplace : CanReplace (rest ++ more) rest := canReplace_append hne
  obtain ⟨_, hlong, start, rfl, rfl⟩ := h.alike hreplace
  rw [List.append_assoc]
  exact hlong

/-- Journeys start with a digit if there are any. -/
theorem Many.starts_of_journeys {js : List Journey} (h : Many (Entry JourneyLines) text js rest) :
    text = rest ∨ ¬Stops Char.isDigit text := by
  cases h with
  | nil => exact .inl rfl
  | cons first _ =>
    obtain ⟨⟨_, hlines, _⟩, _⟩ := first
    exact .inr hlines.not_stops

/-- A complaint about a document stays where the text is decided. -/
theorem DocumentComplains.append {k : Complaint} (h : DocumentComplains text k)
    (hdecided : Decided k.here) : DocumentComplains (text ++ more) (k.append more) := by
  have hlocal : Local (Many (Entry JourneyLines)) := local_journeyLines.entry.many
  cases h with
  | grid complains => exact .grid (complains.append hdecided letters_gridRow)
  | obstacle opening starts complains =>
    have hne := List.IsSuffix.ne_nil complains.isSuffix hdecided.1
    exact .obstacle (opening.append hne) (starts.trans (List.prefix_append _ _))
      (complains.append hdecided letters_obstacleRow)
  | @stray _ mid rest _ _ _ opening noObstacle journeys ne_nil noJourney =>
    have hmid := List.IsSuffix.ne_nil (hlocal.isSuffix journeys) ne_nil
    -- Without journeys the stray text itself must not grow into an obstacle line.
    have hno : ¬Rule.obstacleWord <+: mid ++ more := by
      rcases journeys.starts_of_journeys with rfl | hdigit
      · exact not_isPrefix_append (hdecided.2 _ (by simp)) noObstacle
      · exact Rule.not_isPrefix_of_isDigit (mt (stops_append hmid).mp hdigit)
    exact .stray (opening.append hmid) hno (hlocal.append journeys ne_nil more)
      (List.append_ne_nil_of_left_ne_nil ne_nil _) ((stops_append ne_nil).mpr noJourney)
  | @journey _ mid rest _ _ _ _ opening noObstacle journeys starts complains =>
    have hdigit : ¬Stops Char.isDigit mid := by
      rcases journeys.starts_of_journeys with rfl | hdigit
      · exact starts
      · exact hdigit
    have hne := List.IsSuffix.ne_nil complains.isSuffix hdecided.1
    have hmid := List.IsSuffix.ne_nil (hlocal.isSuffix journeys) hne
    have hlong : ¬Stops Char.isDigit (mid ++ more) := mt (stops_append hmid).mp hdigit
    exact .journey (opening.append hmid) (Rule.not_isPrefix_of_isDigit hlong)
      (hlocal.append journeys hne more) (mt (stops_append hne).mp starts)
      (complains.append hdecided letters_journeyRow)

end Grammar

open Grammar

/-! ### Errors that stay -/

/-- The second error is the first one, except that it may show more digits of a number that is
too large. -/
structure ParseError.SameBut (e e' : ParseError) : Prop where
  expected : e'.expected = e.expected
  line : e'.line = e.line
  column : e'.column = e.column
  detail : e'.detail = e.detail
  found : e.detail ≠ some "Invalid decimal value" → e'.found = e.found
  digits : e.detail = some "Invalid decimal value" → ∃ shown more : List Char,
    e.found = String.ofList (quotedChars shown) ∧
      e'.found = String.ofList (quotedChars (shown ++ more))

/-- The complaint in a longer text gives the same error, except for further digits. -/
theorem Complaint.sameBut_append {text more : List Char} {k : Complaint} (hk : k.here <:+ text)
    (hne : k.here ≠ []) : (k.error text).SameBut ((k.append more).error (text ++ more)) := by
  obtain ⟨first, rfl⟩ := hk
  have hlong : first ++ k.here ++ more = first ++ (k.append more).here :=
    List.append_assoc first k.here more
  have hplace : Text.position (first ++ k.here ++ more) first.length
      = Text.position (first ++ k.here) first.length := by
    refine Text.position_append ?_ more
    rw [List.length_append]
    exact Nat.le_add_right _ _
  obtain ⟨hline, hcolumn⟩ := place_error (k := k) rfl
  obtain ⟨hline', hcolumn'⟩ := place_error hlong
  rw [hplace, ← hline] at hline'
  rw [hplace, ← hcolumn] at hcolumn'
  obtain ⟨expected, here, oversized⟩ := k
  cases oversized with
  | false =>
    -- One character is shown, and it was there before.
    have hsame : (Cursor.before (first ++ here ++ more) (here ++ more)).describe
        = (Cursor.before (first ++ here) here).describe := by
      unfold Cursor.describe Cursor.peek
      rw [List.append_assoc, Cursor.rest_before_append, Cursor.rest_before_append]
      cases here with
      | nil => exact absurd rfl hne
      | cons c here => rfl
    exact ⟨rfl, hline', hcolumn', rfl, fun _ => hsame, fun hdetail => nomatch hdetail⟩
  | true =>
    -- The digits that are shown can only become more.
    obtain ⟨digits, hdigits⟩ := takeWhile_isPrefix_append Char.isDigit here more
    refine ⟨rfl, hline', hcolumn', rfl, fun hdetail => absurd rfl hdetail, fun _ =>
      ⟨(here.takeWhile Char.isDigit).take Rule.shownDigits, digits.take
        (Rule.shownDigits - (here.takeWhile Char.isDigit).length), rfl, ?_⟩⟩
    show String.ofList (quotedChars (((here ++ more).takeWhile Char.isDigit).take _)) = _
    rw [← hdigits, List.take_append]

/-- Rejection is final. If the text left at the place of a parse error is neither empty nor cut
off in a keyword or a line end, then the text is rejected with the same error whatever is
appended to it. Only of a number that is too large can the error show more digits. -/
theorem parseError_final {text : String} {e : ParseError} {p : Nat}
    (h : Document.read text = .error e) (hp : e.IsAt text.toList p)
    (hdecided : Decided (text.toList.drop p)) (more : String) :
    ∃ e', Document.read (text ++ more) = .error e' ∧ e.SameBut e' := by
  obtain ⟨k, hk, rfl⟩ := read_eq_error_iff.mp h
  obtain ⟨first, hfirst⟩ := hk.isSuffix
  have hplace : p = first.length := by
    have hat := (Complaint.isAt_iff hfirst.symm).mp hp
    omega
  rw [hplace, ← hfirst, List.drop_left] at hdecided
  refine ⟨(k.append more.toList).error (text.toList ++ more.toList), ?_,
    Complaint.sameBut_append hk.isSuffix hdecided.1⟩
  rw [read_eq_error_iff, String.toList_append]
  exact ⟨k.append more.toList, hk.append hdecided, rfl⟩

/-- An obstacle word with a wrong letter, which no longer text can complete. -/
theorem parseError_final_misspelt :
    Decided ("GRID 3x3\nOBSTICLE 1 1".toList.drop 9) ∧
      ∃ e', Document.read ("GRID 3x3\nOBSTICLE 1 1" ++ "\n0 0 N\nF\n0 1 N\n") = .error e' ∧
        ParseError.SameBut
          ⟨"OBSTACLE line, robot journey or end of input", "'O'", 2, 1, none⟩ e' := by
  have hread : Document.read "GRID 3x3\nOBSTICLE 1 1" = .error
      ⟨"OBSTACLE line, robot journey or end of input", "'O'", 2, 1, none⟩ := by
    decide +kernel
  have hdecided : Decided ("GRID 3x3\nOBSTICLE 1 1".toList.drop 9) := by decide +kernel
  exact ⟨hdecided, parseError_final hread (by decide +kernel) hdecided _⟩

end GridWalk
