import GridWalk.Proofs.Refusal

/-!
# `GridWalk.Proofs.Grammar.CleanCut`: no number is cut in two

A phrase that is followed by a digit does not itself end with one. So wherever a document is cut
between two phrases, no run of digits is cut in two, and a number that starts at such a cut has
its first digit there.

* `CleanCut.trans`: a clean cut in what a clean cut leaves is clean in the whole text.
* `Opening.cleanCut` and `Many.cleanCut`: cuts between the entries of a document.
* `DocumentComplains.oversized_cleanCut`: the cut in front of an oversized number.
-/

set_option autoImplicit false

namespace GridWalk.Grammar

open GridWalk.Rule (Oversized)
open GridWalk.Text (isBlank)

/-- The text ends with `rest`, and the cut in front of it goes through no run of digits. -/
def CleanCut (text rest : List Char) : Prop :=
  ∃ start, text = start ++ rest ∧
    (¬Stops Char.isDigit rest → ∀ c ∈ start.getLast?, c.isDigit = false)

section
variable {text mid rest : List Char}

/-- In front of the whole text there is no digit. -/
theorem CleanCut.refl (text : List Char) : CleanCut text text :=
  ⟨[], rfl, fun _ _ hc => absurd hc (Option.not_mem_none _)⟩

/-- A clean cut in what a clean cut leaves is clean in the whole text. -/
theorem CleanCut.trans (h : CleanCut text mid) (h' : CleanCut mid rest) : CleanCut text rest := by
  obtain ⟨start, rfl, hclear⟩ := h
  obtain ⟨start', rfl, hclear'⟩ := h'
  refine ⟨start ++ start', by rw [List.append_assoc], fun hdigit c hc => ?_⟩
  -- The last character before the second cut lies between the two cuts if anything does.
  rw [List.getLast?_append] at hc
  cases hlast : start'.getLast? with
  | some d =>
    rw [hlast, Option.some_or] at hc
    exact hclear' hdigit c (hlast ▸ hc)
  | none =>
    rw [hlast, Option.none_or] at hc
    rw [List.getLast?_eq_none_iff] at hlast
    subst hlast
    exact hclear hdigit c hc

/-- The cut behind characters that are no digits. -/
theorem cleanCut_append {word : List Char} (h : ∀ c ∈ word, c.isDigit = false)
    (rest : List Char) : CleanCut (word ++ rest) rest :=
  ⟨word, rfl, fun _ c hc => h c (List.mem_of_getLast? hc)⟩

/-- The cut behind a character that is no digit. -/
theorem cleanCut_cons {c : Char} (h : c.isDigit = false) (rest : List Char) :
    CleanCut (c :: rest) rest := by
  have hone : ∀ d ∈ [c], d.isDigit = false := by simpa using h
  exact cleanCut_append hone rest

/-! ### Lines -/

/-- No digit follows a number. -/
theorem Number.cleanCut {n : Nat} (h : Number text n rest) : CleanCut text rest := by
  obtain ⟨-, -, hstops, -⟩ := h
  exact ⟨_, rfl, fun hdigit => absurd hstops hdigit⟩

/-- Spaces are no digits. -/
theorem Spaces.cleanCut (h : Spaces text rest) : CleanCut text rest := by
  obtain ⟨n, rfl⟩ := h
  refine cleanCut_append (fun c hc => ?_) rest
  rw [List.eq_of_mem_replicate hc]
  decide

/-- Blanks are no digits. -/
theorem Blanks.cleanCut (h : Blanks text rest) : CleanCut text rest := by
  obtain ⟨run, hrun, rfl⟩ := h
  refine cleanCut_append (fun c hc => ?_) rest
  rw [Bool.eq_false_iff]
  intro hdigit
  have hblank := hrun c hc
  rw [isBlank_of_isDigit hdigit] at hblank
  cases hblank

/-- Line ends are no digits. -/
theorem LineEnd.cleanCut (h : LineEnd text rest) : CleanCut text rest := by
  cases h with
  | lineFeed => exact cleanCut_cons (by decide) _
  | pair => exact (cleanCut_cons (by decide) _).trans (cleanCut_cons (by decide) _)

/-- The letters of headings are no digits. -/
theorem cleanCut_letter (h : Heading) (rest : List Char) : CleanCut (h.letter :: rest) rest := by
  cases h <;> exact cleanCut_cons (by decide) rest

/-- The letters of commands are no digits. -/
theorem cleanCut_spell (ks : List Command) (rest : List Char) :
    CleanCut (Command.spell ks ++ rest) rest := by
  refine cleanCut_append (fun c hc => ?_) rest
  obtain ⟨k, -, rfl⟩ := List.mem_map.mp hc
  cases k <;> decide

/-- The cut behind a pose. -/
theorem PoseWords.cleanCut {p : Pose} (h : PoseWords text p rest) : CleanCut text rest := by
  obtain ⟨column, gap, row, gap'⟩ := h
  exact column.cleanCut.trans <| gap.cleanCut.trans <| row.cleanCut.trans <|
    gap'.cleanCut.trans (cleanCut_letter _ _)

/-- The cut behind a grid line. -/
theorem GridLine.cleanCut {g : Grid} (h : GridLine text g rest) : CleanCut text rest := by
  obtain ⟨gap, width, height⟩ := h
  have hword : ∀ rest, CleanCut (Rule.gridWord ++ rest) rest :=
    cleanCut_append (isDigit_of_mem_words _ (by simp [words]))
  exact (hword _).trans <| gap.cleanCut.trans <| width.cleanCut.trans <|
    (cleanCut_cons (by decide) _).trans height.cleanCut

/-- The cut behind an obstacle line. -/
theorem ObstacleLine.cleanCut {cell : Cell} (h : ObstacleLine text cell rest) :
    CleanCut text rest := by
  obtain ⟨gap, column, gap', row⟩ := h
  have hword : ∀ rest, CleanCut (Rule.obstacleWord ++ rest) rest :=
    cleanCut_append (isDigit_of_mem_words _ (by simp [words]))
  exact (hword _).trans <| gap.cleanCut.trans <| column.cleanCut.trans <|
    gap'.cleanCut.trans row.cleanCut

/-- The cut behind a journey. -/
theorem JourneyLines.cleanCut {j : Journey} (h : JourneyLines text j rest) :
    CleanCut text rest := by
  obtain ⟨start, lineEnd, -, lineEnd', goal⟩ := h
  exact start.cleanCut.trans <| lineEnd.cleanCut.trans <| (cleanCut_spell _ _).trans <|
    lineEnd'.cleanCut.trans goal.cleanCut

/-! ### Sections -/

/-- The cut behind an entry. -/
theorem Entry.cleanCut {α : Type} {p : Phrase α} {a : α}
    (hp : ∀ {text a rest}, p text a rest → CleanCut text rest) (h : Entry p text a rest) :
    CleanCut text rest := by
  obtain ⟨⟨mid, hphrase, hblanks⟩, -⟩ := h
  exact (hp hphrase).trans hblanks.cleanCut

/-- The cut behind phrases in a row. -/
theorem Many.cleanCut {α : Type} {p : Phrase α} {as : List α}
    (hp : ∀ {text a rest}, p text a rest → CleanCut text rest) (h : Many p text as rest) :
    CleanCut text rest := by
  induction h with
  | nil => exact .refl _
  | cons first _ ih => exact (hp first).trans ih

/-- The cut behind an opening. -/
theorem Opening.cleanCut {g : Grid} {cells : List Cell} (h : Opening text g cells rest) :
    CleanCut text rest := by
  obtain ⟨hgrid, hcells⟩ := h
  exact (hgrid.cleanCut GridLine.cleanCut).trans
    (hcells.cleanCut (Entry.cleanCut ObstacleLine.cleanCut))

/-! ### Rows that break off -/

/-- The cut behind a part. -/
theorem Part.Takes.cleanCut {part : Part} (h : part.Takes text rest)
    (hword : part.letters ∈ words) : CleanCut text rest := by
  cases part with
  | word letters _ =>
    obtain rfl : text = letters ++ rest := h
    exact cleanCut_append (isDigit_of_mem_words _ hword) rest
  | gap _ => exact h.1.cleanCut
  | number _ =>
    obtain ⟨n, h⟩ := h
    exact h.cleanCut
  | heading _ =>
    obtain ⟨x, rfl⟩ := h
    exact cleanCut_letter x rest
  | commands _ =>
    obtain ⟨ks, ⟨rfl, -⟩, -⟩ := h
    exact cleanCut_spell ks rest
  | lineEnd _ => exact LineEnd.cleanCut h

/-- Where a part is complained about as too large, an oversized number starts. -/
theorem Part.Complains.oversized {part : Part} {k : Complaint} (h : part.Complains text k)
    (hk : k.oversized = true) : Oversized text ∧ k.here = text := by
  rcases h with ⟨-, rfl⟩ | ⟨hover, rfl⟩
  · cases hk
  · cases part with
    | number _ => exact ⟨hover, rfl⟩
    | _ => exact hover.elim

/-- Where a row is complained about, the cut is clean if the number there is oversized. -/
theorem RowComplains.oversized_cleanCut {row : List Part} {k : Complaint}
    (h : RowComplains row text k) (hk : k.oversized = true)
    (hrow : ∀ part ∈ row, part.letters ∈ words) :
    Oversized k.here ∧ CleanCut text k.here := by
  induction h with
  | here complains =>
    obtain ⟨hover, hhere⟩ := complains.oversized hk
    rw [hhere]
    exact ⟨hover, .refl _⟩
  | later first _ ih =>
    obtain ⟨hover, hcut⟩ := ih hk fun part hpart => hrow part (List.mem_cons_of_mem _ hpart)
    exact ⟨hover, (first.cleanCut (hrow _ List.mem_cons_self)).trans hcut⟩

/-- Where a document is complained about, the cut is clean if the number there is oversized. -/
theorem DocumentComplains.oversized_cleanCut {k : Complaint} (h : DocumentComplains text k)
    (hk : k.oversized = true) : Oversized k.here ∧ CleanCut text k.here := by
  cases h with
  | grid complains => exact complains.oversized_cleanCut hk letters_gridRow
  | obstacle opening _ complains =>
    obtain ⟨hover, hcut⟩ := complains.oversized_cleanCut hk letters_obstacleRow
    exact ⟨hover, opening.cleanCut.trans hcut⟩
  | stray => cases hk
  | journey opening _ journeys _ complains =>
    obtain ⟨hover, hcut⟩ := complains.oversized_cleanCut hk letters_journeyRow
    exact ⟨hover, opening.cleanCut.trans <|
      (journeys.cleanCut (Entry.cleanCut JourneyLines.cleanCut)).trans hcut⟩

end

end GridWalk.Grammar
