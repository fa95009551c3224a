import GridWalk.Proofs.Acceptance

/-!
# `GridWalk.Proofs.Grammar.Local`: phrases and what follows them

Of the text that follows it, a phrase sees the next character at most: a number has to be over,
and so have the blanks of an entry. So what follows a phrase can be replaced by the end of the
text, or by anything that starts with the same character, and the phrase keeps its value.

* `CanReplace`: what can follow a phrase in place of another text.
* `Alike`: two texts that differ only in what is left of them.
* `Local`: phrases for which all this is true, among them the entries of a document.
* `Loose`: phrases that no blank after them disturbs, among them the lines of a document.
-/

set_option autoImplicit false

namespace GridWalk.Grammar

open GridWalk.Text (isBlank)

/-- The text starts with a digit, or with a blank, only if `rest` does. -/
structure CanReplace (text rest : List Char) : Prop where
  digit : Stops Char.isDigit rest → Stops Char.isDigit text
  blank : Stops isBlank rest → Stops isBlank text

/-- The two texts have the same beginning, and after it `rest` and `rest'` are left of them. -/
def Alike (text rest text' rest' : List Char) : Prop :=
  ∃ start, text = start ++ rest ∧ text' = start ++ rest'

/-- The phrases see of what follows them only how it starts. -/
structure Local {α : Type} (p : Phrase α) : Prop where
  alike {text rest rest' : List Char} {a : α} : p text a rest → CanReplace rest' rest →
    ∃ text', p text' a rest' ∧ Alike text rest text' rest'

/-- The phrases see of what follows them only whether it starts with a digit. -/
structure Loose {α : Type} (p : Phrase α) : Prop where
  alike {text rest rest' : List Char} {a : α} : p text a rest →
    (Stops Char.isDigit rest → Stops Char.isDigit rest') →
    ∃ text', p text' a rest' ∧ Alike text rest text' rest'

section
variable {text mid rest text' mid' rest' more : List Char}

/-- The end of the text can stand anywhere. -/
theorem canReplace_nil : CanReplace [] rest :=
  ⟨fun _ => stops_nil _, fun _ => stops_nil _⟩

/-- Only the first character matters. -/
theorem canReplace_cons {c : Char} : CanReplace (c :: text') (c :: text) :=
  ⟨fun h => stops_cons.mpr (stops_cons.mp h), fun h => stops_cons.mpr (stops_cons.mp h)⟩

/-- A text that goes on can be longer. -/
theorem canReplace_append (h : rest ≠ []) : CanReplace (rest ++ more) rest := by
  cases rest with
  | nil => exact absurd rfl h
  | cons c rest => exact canReplace_cons

/-- Texts that start with the same word can replace each other. -/
theorem canReplace_of_prefix {word : List Char} (hne : word ≠ []) (htext : word <+: text)
    (htext' : word <+: text') : CanReplace text' text := by
  obtain ⟨rest, rfl⟩ := htext
  obtain ⟨rest', rfl⟩ := htext'
  cases word with
  | nil => exact absurd rfl hne
  | cons c word => exact canReplace_cons

/-- Texts that are alike start alike when what is left of them does. -/
theorem Alike.stops {q : Char → Bool} (h : Alike text rest text' rest')
    (hrest : Stops q rest → Stops q rest') : Stops q text → Stops q text' := by
  obtain ⟨start, rfl, rfl⟩ := h
  cases start with
  | nil => exact hrest
  | cons c start => exact fun hstops => stops_cons.mpr (stops_cons.mp hstops)

/-- Texts that are alike can replace each other when what is left of them can. -/
theorem Alike.canReplace (h : Alike text rest text' rest') (hrest : CanReplace rest' rest) :
    CanReplace text' text :=
  ⟨h.stops hrest.digit, h.stops hrest.blank⟩

/-- Nothing lies before what is left. -/
theorem Alike.refl : Alike rest rest rest' rest' :=
  ⟨[], rfl, rfl⟩

/-- The same beginning, and then the same beginning of what is left. -/
theorem Alike.trans (h : Alike text mid text' mid') (h' : Alike mid rest mid' rest') :
    Alike text rest text' rest' := by
  obtain ⟨start, rfl, rfl⟩ := h
  obtain ⟨start', rfl, rfl⟩ := h'
  exact ⟨start ++ start', by rw [List.append_assoc], by rw [List.append_assoc]⟩

/-- One more word at the beginning of both. -/
theorem Alike.append (start : List Char) (h : Alike text rest text' rest') :
    Alike (start ++ text) rest (start ++ text') rest' :=
  Alike.trans ⟨start, rfl, rfl⟩ h

/-- One more character at the beginning of both. -/
theorem Alike.cons (c : Char) (h : Alike text rest text' rest') :
    Alike (c :: text) rest (c :: text') rest' :=
  h.append [c]

/-- What follows a local phrase is the end of the text. -/
theorem Local.isSuffix {α : Type} {p : Phrase α} {a : α} (hp : Local p) (h : p text a rest) :
    rest <:+ text := by
  obtain ⟨_, _, start, rfl, _⟩ := hp.alike h ⟨id, id⟩
  exact List.suffix_append start rest

/-- Loose phrases are local. -/
theorem Loose.isLocal {α : Type} {p : Phrase α} (hp : Loose p) : Local p :=
  ⟨fun h hreplace => hp.alike h hreplace.digit⟩

/-- A text that goes on after a local phrase can be longer. -/
theorem Local.append {α : Type} {p : Phrase α} {a : α} (hp : Local p) (h : p text a rest)
    (hne : rest ≠ []) (more : List Char) : p (text ++ more) a (rest ++ more) := by
  have hreplace : CanReplace (rest ++ more) rest := canReplace_append hne
  obtain ⟨text', hphrase, start, rfl, rfl⟩ := hp.alike h hreplace
  rw [List.append_assoc]
  exact hphrase

/-- A text can be longer after a loose phrase, even at its end, if no digit comes. -/
theorem Loose.append {α : Type} {p : Phrase α} {a : α} (hp : Loose p) (h : p text a rest)
    (hmore : Stops Char.isDigit more) : p (text ++ more) a (rest ++ more) := by
  have hstops : Stops Char.isDigit rest → Stops Char.isDigit (rest ++ more) := by
    intro hrest
    cases rest with
    | nil => exact hmore
    | cons c rest => exact stops_cons.mpr (stops_cons.mp hrest)
  obtain ⟨_, hphrase, start, rfl, rfl⟩ := hp.alike h hstops
  rw [List.append_assoc]
  exact hphrase

end

/-! ### Lines -/

/-- A number is over where no digit follows. -/
theorem loose_number : Loose Number := by
  refine ⟨fun {text rest rest' n} h hreplace => ?_⟩
  obtain ⟨hne, hdigits, hstops, hfits⟩ := h
  exact ⟨_, .run hne hdigits (hreplace hstops) hfits, _, rfl, rfl⟩

/-- Spaces may end anywhere. -/
theorem Spaces.alike {text rest : List Char} (h : Spaces text rest) (rest' : List Char) :
    ∃ text', Spaces text' rest' ∧ Alike text rest text' rest' := by
  obtain ⟨n, rfl⟩ := h
  exact ⟨_, ⟨n, rfl⟩, _, rfl, rfl⟩

/-- Blanks may end anywhere. -/
theorem Blanks.alike {text rest : List Char} (h : Blanks text rest) (rest' : List Char) :
    ∃ text', Blanks text' rest' ∧ Alike text rest text' rest' := by
  obtain ⟨run, hrun, rfl⟩ := h
  exact ⟨_, ⟨run, hrun, rfl⟩, _, rfl, rfl⟩

/-- Line ends do not depend on what follows. -/
theorem LineEnd.alike {text rest : List Char} (h : LineEnd text rest) (rest' : List Char) :
    ∃ text', LineEnd text' rest' ∧ Alike text rest text' rest' := by
  cases h with
  | lineFeed => exact ⟨_, .lineFeed, Alike.refl.cons _⟩
  | pair => exact ⟨_, .pair, (Alike.refl.cons _).cons _⟩

/-- Spaces never start with what would make a number longer. -/
theorem Spaces.stops_isDigit {text rest : List Char} (h : Spaces text rest) :
    Stops Char.isDigit text := by
  obtain ⟨n, rfl⟩ := h
  rw [List.replicate_succ, List.cons_append, stops_cons]
  decide

/-- Spaces can replace spaces. -/
theorem Spaces.canReplace {text rest text' rest' : List Char} (h : Spaces text rest)
    (h' : Spaces text' rest') : CanReplace text' text := by
  obtain ⟨n, rfl⟩ := h
  obtain ⟨n', rfl⟩ := h'
  rw [List.replicate_succ, List.replicate_succ]
  exact canReplace_cons

/-- A pose ends with its letter, whatever follows. -/
theorem PoseWords.alike {text rest : List Char} {p : Pose} (h : PoseWords text p rest)
    (rest' : List Char) : ∃ text', PoseWords text' p rest' ∧ Alike text rest text' rest' := by
  obtain ⟨column, gap, row, gap'⟩ := h
  obtain ⟨_, hgap', s₄⟩ := gap'.alike (_ :: rest')
  obtain ⟨_, hrow, s₃⟩ := loose_number.alike row (gap'.canReplace hgap').digit
  obtain ⟨_, hgap, s₂⟩ := gap.alike _
  obtain ⟨_, hcolumn, s₁⟩ := loose_number.alike column (gap.canReplace hgap).digit
  exact ⟨_, .mk hcolumn hgap hrow hgap',
    s₁.trans (s₂.trans (s₃.trans (s₄.trans (Alike.refl.cons _))))⟩

/-- A grid line ends with a number. -/
theorem loose_gridLine : Loose GridLine := by
  refine ⟨fun {text rest rest' g} h hreplace => ?_⟩
  obtain ⟨gap, width, height⟩ := h
  obtain ⟨_, hheight, s₃⟩ := loose_number.alike height hreplace
  obtain ⟨_, hwidth, s₂⟩ := loose_number.alike width canReplace_cons.digit
  obtain ⟨_, hgap, s₁⟩ := gap.alike _
  exact ⟨_, .mk hgap hwidth hheight,
    Alike.append Rule.gridWord (s₁.trans (s₂.trans (s₃.cons 'x')))⟩

/-- An obstacle line ends with a number. -/
theorem loose_obstacleLine : Loose ObstacleLine := by
  refine ⟨fun {text rest rest' cell} h hreplace => ?_⟩
  obtain ⟨gap, column, gap', row⟩ := h
  obtain ⟨_, hrow, s₄⟩ := loose_number.alike row hreplace
  obtain ⟨_, hgap', s₃⟩ := gap'.alike _
  obtain ⟨_, hcolumn, s₂⟩ := loose_number.alike column (gap'.canReplace hgap').digit
  obtain ⟨_, hgap, s₁⟩ := gap.alike _
  exact ⟨_, .mk hgap hcolumn hgap' hrow,
    Alike.append Rule.obstacleWord (s₁.trans (s₂.trans (s₃.trans s₄)))⟩

/-- A journey ends with the letter of its goal. -/
theorem loose_journeyLines : Loose JourneyLines := by
  refine ⟨fun {text rest rest' j} h _ => ?_⟩
  obtain ⟨start, lineEnd, hne, lineEnd', goal⟩ := h
  obtain ⟨_, hgoal, s₅⟩ := goal.alike rest'
  obtain ⟨_, hend', s₄⟩ := lineEnd'.alike _
  obtain ⟨_, hend, s₂⟩ := lineEnd.alike _
  obtain ⟨_, hstart, s₁⟩ := start.alike _
  exact ⟨_, .mk hstart hend hne hend' hgoal,
    s₁.trans (s₂.trans ((s₄.trans s₅).append _))⟩

/-- Grid lines are local. -/
theorem local_gridLine : Local GridLine :=
  loose_gridLine.isLocal

/-- Obstacle lines are local. -/
theorem local_obstacleLine : Local ObstacleLine :=
  loose_obstacleLine.isLocal

/-- Journeys are local. -/
theorem local_journeyLines : Local JourneyLines :=
  loose_journeyLines.isLocal

/-! ### Entries and sections -/

section
variable {α : Type} {p : Phrase α}

/-- The blanks of an entry are over where no blank follows. -/
theorem Local.entry (hp : Local p) : Local (Entry p) := by
  refine ⟨fun {text rest rest' a} h hreplace => ?_⟩
  obtain ⟨⟨mid, hphrase, hblanks⟩, hstops⟩ := h
  obtain ⟨mid', hblanks', s₂⟩ := hblanks.alike rest'
  obtain ⟨text', hphrase', s₁⟩ := hp.alike hphrase (s₂.canReplace hreplace)
  exact ⟨text', ⟨⟨mid', hphrase', hblanks'⟩, hreplace.blank hstops⟩, s₁.trans s₂⟩

/-- Blanks after a loose phrase leave it loose. -/
theorem Loose.spaced (hp : Loose p) : Loose (Spaced p) := by
  refine ⟨fun {text rest rest' a} h hreplace => ?_⟩
  obtain ⟨mid, hphrase, hblanks⟩ := h
  obtain ⟨mid', hblanks', s₂⟩ := hblanks.alike rest'
  obtain ⟨text', hphrase', s₁⟩ := hp.alike hphrase (s₂.stops hreplace)
  exact ⟨text', ⟨mid', hphrase', hblanks'⟩, s₁.trans s₂⟩

/-- Let `R` say what can follow a phrase in place of what. If texts that are alike can do so as
well, then `R` says the same for phrases in a row. -/
theorem Many.alike {R : List Char → List Char → Prop}
    (hR : ∀ {text rest text' rest'}, Alike text rest text' rest' → R rest' rest → R text' text)
    (hp : ∀ {text rest rest' a}, p text a rest → R rest' rest →
      ∃ text', p text' a rest' ∧ Alike text rest text' rest')
    {text rest rest' : List Char} {as : List α} (h : Many p text as rest)
    (hreplace : R rest' rest) : ∃ text', Many p text' as rest' ∧ Alike text rest text' rest' := by
  induction h with
  | nil => exact ⟨rest', .nil, .refl⟩
  | cons first _ ih =>
    obtain ⟨mid', hothers, s₂⟩ := ih hreplace
    obtain ⟨text', hfirst, s₁⟩ := hp first (hR s₂ hreplace)
    exact ⟨text', .cons hfirst hothers, s₁.trans s₂⟩

/-- Local phrases in a row are local. -/
theorem Local.many (hp : Local p) : Local (Many p) :=
  ⟨Many.alike (p := p) Alike.canReplace hp.alike⟩

/-- Loose phrases in a row are loose. -/
theorem Loose.many (hp : Loose p) : Loose (Many p) :=
  ⟨Many.alike (p := p) (R := fun rest' rest => Stops Char.isDigit rest → Stops Char.isDigit rest')
    Alike.stops hp.alike⟩

/-- Phrases in a row and then more of them are phrases in a row. -/
theorem Many.append {text mid rest : List Char} {as bs : List α} (h : Many p text as mid)
    (h' : Many p mid bs rest) : Many p text (as ++ bs) rest := by
  induction h with
  | nil => exact h'
  | cons first _ ih => exact .cons first (ih h')

end

end GridWalk.Grammar
