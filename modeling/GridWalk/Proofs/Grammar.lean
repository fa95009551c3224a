import GridWalk.Document
import GridWalk.Text.Blank

/-!
# `GridWalk.Proofs.Grammar`: what a text spells

The grammar of documents, as relations on texts. A phrase relates a text to the value that its
beginning stands for and to what is left after that beginning. Phrases in a row share the text
between them, so a chain of phrases is a split of the text into parts. Nothing here is greedy.
Spaces and blanks may end anywhere, and only a number has to be a whole run of digits.

* `Spells`: the text is a document, from its first character to its last.
* `GridLine`, `ObstacleLine` and `JourneyLines`: the three sections of a document.
* `Many.toEntries`: the split decides where blanks end. Every entry starts with a letter or a
  digit, so no other run of blanks fits between two entries.
-/

set_option autoImplicit false

namespace GridWalk.Grammar

open GridWalk.Text (CodeRange blanks isBlank)

/-- `p text a rest` says that `text` starts with a phrase that stands for `a`, and that `rest`
follows it. -/
abbrev Phrase (α : Type) : Type :=
  List Char → α → List Char → Prop

/-- A run of characters of the class `p` ends where this text starts. -/
def Stops (p : Char → Bool) (text : List Char) : Prop :=
  ∀ c ∈ text.head?, p c = false

/-- One or more spaces. No other blank counts. -/
def Spaces (text rest : List Char) : Prop :=
  ∃ n, text = List.replicate (n + 1) ' ' ++ rest

/-- Blanks of any kind, of which there may be none. -/
def Blanks (text rest : List Char) : Prop :=
  ∃ run : List Char, (∀ c ∈ run, isBlank c = true) ∧ text = run ++ rest

/-- A line feed, with or without a carriage return before it. -/
inductive LineEnd : List Char → List Char → Prop
  | lineFeed {rest : List Char} : LineEnd ('\n' :: rest) rest
  | pair {rest : List Char} : LineEnd ('\r' :: '\n' :: rest) rest

/-- A run of digits with its decimal value, which fits 31 bits. Another digit does not follow. -/
inductive Number : Phrase Nat
  | run {digits rest : List Char} (ne_nil : digits ≠ [])
      (isDigit : ∀ c ∈ digits, c.isDigit = true) (stops : Stops Char.isDigit rest)
      (fits : Nat.ofDigitChars 10 digits 0 ≤ 2147483647) :
      Number (digits ++ rest) (Nat.ofDigitChars 10 digits 0) rest

/-- Column, row and heading, with spaces between them. -/
inductive PoseWords : Phrase Pose
  | mk {text t₁ t₂ t₃ rest : List Char} {x y : Nat} {h : Heading} (column : Number text x t₁)
      (gap : Spaces t₁ t₂) (row : Number t₂ y t₃) (gap' : Spaces t₃ (h.letter :: rest)) :
      PoseWords text ⟨⟨x, y⟩, h⟩ rest

/-- The grid word, spaces, and the sides with a cross between them. -/
inductive GridLine : Phrase Grid
  | mk {t₁ t₂ t₃ rest : List Char} {w h : Nat} (gap : Spaces t₁ t₂)
      (width : Number t₂ w ('x' :: t₃)) (height : Number t₃ h rest) :
      GridLine ('G' :: 'R' :: 'I' :: 'D' :: t₁) ⟨w, h⟩ rest

/-- The obstacle word, column and row, with spaces between them. -/
inductive ObstacleLine : Phrase Cell
  | mk {t₁ t₂ t₃ t₄ rest : List Char} {x y : Nat} (gap : Spaces t₁ t₂) (column : Number t₂ x t₃)
      (gap' : Spaces t₃ t₄) (row : Number t₄ y rest) :
      ObstacleLine ('O' :: 'B' :: 'S' :: 'T' :: 'A' :: 'C' :: 'L' :: 'E' :: t₁) ⟨x, y⟩ rest

/-- The start, at least one command letter, and the goal, with line ends between them. -/
inductive JourneyLines : Phrase Journey
  | mk {text t₁ t₂ t₃ rest : List Char} {s g : Pose} {ks : List Command}
      (start : PoseWords text s t₁) (lineEnd : LineEnd t₁ (Command.spell ks ++ t₂))
      (ne_nil : ks ≠ []) (lineEnd' : LineEnd t₂ t₃) (goal : PoseWords t₃ g rest) :
      JourneyLines text ⟨s, ks, g⟩ rest

/-- A phrase with blanks after it. -/
def Spaced {α : Type} (p : Phrase α) : Phrase α := fun text a rest =>
  ∃ mid, p text a mid ∧ Blanks mid rest

/-- Any number of phrases of one kind in a row. -/
inductive Many {α : Type} (p : Phrase α) : Phrase (List α)
  | nil {rest : List Char} : Many p rest [] rest
  | cons {text mid rest : List Char} {a : α} {as : List α} (first : p text a mid)
      (others : Many p mid as rest) : Many p text (a :: as) rest

/-- The text is a document: its grid, its obstacles and its journeys, each with blanks after
it. -/
inductive Spells : List Char → Document → Prop
  | mk {text t₁ t₂ : List Char} {g : Grid} {cells : List Cell} {js : List Journey}
      (grid : Spaced GridLine text g t₁) (obstacles : Many (Spaced ObstacleLine) t₁ cells t₂)
      (journeys : Many (Spaced JourneyLines) t₂ js []) : Spells text ⟨g, cells, js⟩

/-! ### Where a run ends -/

/-- Nothing goes on at the end of a text. -/
theorem stops_nil (p : Char → Bool) : Stops p [] := by
  intro c hc
  cases hc

/-- A text goes on with a run exactly when its first character is of the class. -/
theorem stops_cons {p : Char → Bool} {c : Char} {text : List Char} :
    Stops p (c :: text) ↔ p c = false := by
  simp [Stops]

/-- A number is over where the line ends. -/
theorem stops_lineFeed {text : List Char} : Stops Char.isDigit ('\n' :: text) :=
  stops_cons.mpr (by decide)

/-- What is left after the longest run does not go on with it. -/
theorem stops_dropWhile (p : Char → Bool) (text : List Char) : Stops p (text.dropWhile p) := by
  intro c hc
  have h := List.head?_dropWhile_not p text
  rw [Option.mem_def.mp hc] at h
  exact h

/-- Nothing is taken where a run ends. -/
theorem takeWhile_eq_nil {p : Char → Bool} {text : List Char} (h : Stops p text) :
    text.takeWhile p = [] := by
  cases text with
  | nil => rfl
  | cons c rest => rw [List.takeWhile_cons, stops_cons.mp h, if_neg Bool.false_ne_true]

/-- A run that ends is the longest one. -/
theorem takeWhile_run {p : Char → Bool} {run rest : List Char} (hrun : ∀ c ∈ run, p c = true)
    (hstops : Stops p rest) : (run ++ rest).takeWhile p = run := by
  rw [List.takeWhile_append_of_pos hrun, takeWhile_eq_nil hstops, List.append_nil]

/-- A digit is no blank. -/
theorem isBlank_of_isDigit {c : Char} (h : c.isDigit = true) : isBlank c = false := by
  rw [Bool.eq_false_iff]
  intro hblank
  obtain ⟨r, hr, hfirst, hlast⟩ := CodeRange.covers_iff.mp hblank
  -- The digits are the codes 48 to 57, and no range of blanks meets these.
  have hdigit : 48 ≤ c.toNat ∧ c.toNat ≤ 57 := by
    simp only [Char.isDigit, Bool.and_eq_true, decide_eq_true_eq] at h
    exact ⟨h.1, h.2⟩
  simp only [blanks, List.mem_cons, List.not_mem_nil, or_false] at hr
  rcases hr with rfl | rfl | rfl | rfl | rfl | rfl | rfl | rfl | rfl | rfl <;>
    simp only at hfirst hlast <;> omega

/-- A number starts with a digit. -/
theorem Number.head_isDigit {text rest : List Char} {n : Nat} (h : Number text n rest) :
    ∃ c t, text = c :: t ∧ c.isDigit = true := by
  cases h with
  | @run digits _ hne hdigits _ _ =>
    cases digits with
    | nil => exact absurd rfl hne
    | cons c cs => exact ⟨c, cs ++ rest, rfl, hdigits c List.mem_cons_self⟩

/-- No run without digits goes on where a number starts. -/
theorem Number.stopsBefore {p : Char → Bool} {text rest : List Char} {n : Nat}
    (h : Number text n rest) (hp : ∀ c : Char, c.isDigit = true → p c = false) :
    Stops p text := by
  obtain ⟨c, t, rfl, hc⟩ := h.head_isDigit
  exact stops_cons.mpr (hp c hc)

/-- A journey starts with the digits of its start. -/
theorem JourneyLines.head_isDigit {text rest : List Char} {j : Journey}
    (h : JourneyLines text j rest) : ∃ c t, text = c :: t ∧ c.isDigit = true := by
  obtain ⟨⟨column, _, _, _⟩, _, _, _, _⟩ := h
  exact column.head_isDigit

/-- Where a journey starts, a digit is. -/
theorem JourneyLines.not_stops {text rest : List Char} {j : Journey}
    (h : JourneyLines text j rest) : ¬Stops Char.isDigit text := by
  obtain ⟨c, t, rfl, hc⟩ := h.head_isDigit
  rw [stops_cons, hc]
  exact Bool.noConfusion

/-- Blanks end where a journey starts. -/
theorem JourneyLines.stopsBefore {text rest : List Char} {j : Journey}
    (h : JourneyLines text j rest) : Stops isBlank text := by
  obtain ⟨c, t, rfl, hc⟩ := h.head_isDigit
  exact stops_cons.mpr (isBlank_of_isDigit hc)

/-- Blanks end where an obstacle line starts. -/
theorem ObstacleLine.stopsBefore {text rest : List Char} {cell : Cell}
    (h : ObstacleLine text cell rest) : Stops isBlank text := by
  cases h
  exact stops_cons.mpr (by decide)

/-! ### Entries

An entry is a phrase with all the blanks that follow it. -/

/-- A phrase with all the blanks after it. -/
def Entry {α : Type} (p : Phrase α) : Phrase α := fun text a rest =>
  Spaced p text a rest ∧ Stops isBlank rest

/-- Phrases in a row can be replaced one by one. -/
theorem Many.mono {α : Type} {p q : Phrase α} {text rest : List Char} {as : List α}
    (hpq : ∀ {text a rest}, p text a rest → q text a rest) (h : Many p text as rest) :
    Many q text as rest := by
  induction h with
  | nil => exact .nil
  | cons first _ ih => exact .cons (hpq first) ih

/-- Phrases that start with no blank, with blanks after them, are entries: up to the next phrase
there is nothing but blanks. -/
theorem Many.toEntries {α : Type} {p : Phrase α} {text rest : List Char} {as : List α}
    (hp : ∀ {text a rest}, p text a rest → Stops isBlank text) (h : Many (Spaced p) text as rest)
    (hrest : Stops isBlank rest) : Many (Entry p) text as rest ∧ Stops isBlank text := by
  induction h with
  | nil => exact ⟨.nil, hrest⟩
  | cons first _ ih =>
    obtain ⟨hothers, hmid⟩ := ih hrest
    refine ⟨.cons ⟨first, hmid⟩ hothers, ?_⟩
    obtain ⟨_, hphrase, _⟩ := first
    exact hp hphrase

end GridWalk.Grammar
