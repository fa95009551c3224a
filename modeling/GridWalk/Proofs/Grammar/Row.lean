import GridWalk.Document.Reader
import GridWalk.Proofs.Grammar.Local
import GridWalk.Proofs.Scan.Complaint
import Mathlib.Tactic.Choose

/-!
# `GridWalk.Proofs.Grammar.Row`: lines as rows of parts

The lines of a document are rows of parts of six kinds. A row does not keep the values that it
stands for. It keeps the words that errors use, so it also says what is complained about where
the row breaks off: a part that does not start, or a number that is too large.

* `Part.Takes.alike`: a part is the same whatever follows it, as long as that does not make it
  longer.
* `RowTakes` and `RowComplains`: a row fits the beginning of a text, or it breaks off.
* `rejects_gridLine`, `rejects_obstacleLine` and `rejects_journey`: the rules of the three
  sections fail exactly where their rows break off.
-/

set_option autoImplicit false

namespace GridWalk.Grammar

open GridWalk.Rule (Blame Missing Oversized isCommandLetter isHeadingLetter)

/-- A part of a line, with the words for it in errors. -/
inductive Part
  | word (letters : List Char) (expected : String)
  | gap (expected : String)
  | number (expected : String)
  | heading (expected : String)
  | commands (expected : String)
  | lineEnd (expected : String)

namespace Part

/-- The words for the part in errors. -/
def expected : Part → String
  | word _ expected => expected
  | gap expected => expected
  | number expected => expected
  | heading expected => expected
  | commands expected => expected
  | lineEnd expected => expected

/-- The letters of the part if it is a word. -/
def letters : Part → List Char
  | word letters _ => letters
  | _ => []

/-- The characters that would make the part longer. -/
def goesOn : Part → Char → Bool
  | gap _ => (· == ' ')
  | number _ => Char.isDigit
  | commands _ => isCommandLetter
  | _ => fun _ => false

/-- The text starts with the part, as long as it can be, and `rest` follows it. -/
def Takes : Part → List Char → List Char → Prop
  | word letters _, text, rest => text = letters ++ rest
  | gap _, text, rest => Spaces text rest ∧ Stops (· == ' ') rest
  | number _, text, rest => ∃ n, Number text n rest
  | heading _, text, rest => ∃ h : Heading, text = h.letter :: rest
  | commands _, text, rest =>
    ∃ ks, (text = Command.spell ks ++ rest ∧ Stops isCommandLetter rest) ∧ ks ≠ []
  | lineEnd _, text, rest => LineEnd text rest

/-- The text does not start as the part does. -/
def Stuck : Part → List Char → Prop
  | word letters _, text => ¬letters <+: text
  | gap _, text => Stops (· == ' ') text
  | number _, text => Stops Char.isDigit text
  | heading _, text => Stops isHeadingLetter text
  | commands _, text => Stops isCommandLetter text
  | lineEnd _, text => ∀ rest, ¬LineEnd text rest

/-- The part is a number, and the text starts with a number that is too large. -/
def Overflows : Part → List Char → Prop
  | number _ => Oversized
  | _ => fun _ => False

/-- The complaints about a text that does not start with the part. -/
def Complains (part : Part) : Blame := fun text k =>
  Missing part.expected part.Stuck text k ∨
    (part.Overflows text ∧ k = ⟨part.expected, text, true⟩)

end Part

/-- The text starts with the parts, one after the other, and `rest` follows them. -/
inductive RowTakes : List Part → List Char → List Char → Prop
  | nil {rest : List Char} : RowTakes [] rest rest
  | cons {part : Part} {row : List Part} {text mid rest : List Char}
      (first : part.Takes text mid) (others : RowTakes row mid rest) :
      RowTakes (part :: row) text rest

/-- The complaints about a text that does not start with the parts: one of the parts does not
follow the parts before it. -/
inductive RowComplains : List Part → Blame
  | here {part : Part} {row : List Part} {text : List Char} {k : Complaint}
      (complains : part.Complains text k) : RowComplains (part :: row) text k
  | later {part : Part} {row : List Part} {text mid : List Char} {k : Complaint}
      (first : part.Takes text mid) (others : RowComplains row mid k) :
      RowComplains (part :: row) text k

/-! ### Parts and what follows them -/

/-- The place of a complaint about a part is where the part should start. -/
theorem Part.Complains.here_eq {part : Part} {text : List Char} {k : Complaint}
    (h : part.Complains text k) : k.here = text := by
  rcases h with ⟨-, rfl⟩ | ⟨-, rfl⟩ <;> rfl

/-- A complaint about a part has the words for it. -/
theorem Part.Complains.expected_eq {part : Part} {text : List Char} {k : Complaint}
    (h : part.Complains text k) : k.expected = part.expected := by
  rcases h with ⟨-, rfl⟩ | ⟨-, rfl⟩ <;> rfl

/-- A row breaks off in one of its parts. -/
theorem RowComplains.exists_part {row : List Part} {text : List Char} {k : Complaint}
    (h : RowComplains row text k) : ∃ part ∈ row, part.Complains k.here k := by
  induction h with
  | here complains => exact ⟨_, List.mem_cons_self, by rwa [complains.here_eq]⟩
  | later _ _ ih =>
    obtain ⟨part, hpart, hk⟩ := ih
    exact ⟨part, List.mem_cons_of_mem _ hpart, hk⟩

/-- What follows a part can be replaced by anything that does not make it longer. -/
theorem Part.Takes.alike {part : Part} {text rest rest' : List Char} (h : part.Takes text rest)
    (hstops : Stops part.goesOn rest') :
    ∃ text', part.Takes text' rest' ∧ Alike text rest text' rest' := by
  cases part with
  | word letters _ => exact ⟨letters ++ rest', rfl, letters, h, rfl⟩
  | gap _ =>
    obtain ⟨text', hspaces, halike⟩ := h.1.alike rest'
    exact ⟨text', ⟨hspaces, hstops⟩, halike⟩
  | number _ =>
    obtain ⟨_, hne, hdigits, -, hfits⟩ := h
    exact ⟨_, ⟨_, .run hne hdigits hstops hfits⟩, _, rfl, rfl⟩
  | heading _ =>
    obtain ⟨x, rfl⟩ := h
    exact ⟨_, ⟨x, rfl⟩, Alike.refl.cons _⟩
  | commands _ =>
    obtain ⟨ks, ⟨rfl, -⟩, hne⟩ := h
    exact ⟨_, ⟨ks, ⟨rfl, hstops⟩, hne⟩, Alike.refl.append _⟩
  | lineEnd _ => exact LineEnd.alike h rest'

/-- A part is as long as it can be. -/
theorem Part.Takes.stops {part : Part} {text rest : List Char} (h : part.Takes text rest) :
    Stops part.goesOn rest := by
  cases part with
  | gap _ => exact h.2
  | number _ =>
    obtain ⟨_, _, _, hstops, _⟩ := h
    exact hstops
  | commands _ =>
    obtain ⟨_, ⟨_, hstops⟩, _⟩ := h
    exact hstops
  | _ => exact fun _ _ => rfl

/-- What follows a part is the end of the text. -/
theorem Part.Takes.isSuffix {part : Part} {text rest : List Char} (h : part.Takes text rest) :
    rest <:+ text := by
  obtain ⟨_, _, start, rfl, _⟩ := h.alike h.stops
  exact List.suffix_append start rest

/-- A row breaks off somewhere in the text. -/
theorem RowComplains.isSuffix {row : List Part} {text : List Char} {k : Complaint}
    (h : RowComplains row text k) : k.here <:+ text := by
  induction h with
  | here complains => exact complains.here_eq ▸ List.suffix_refl _
  | later first _ ih => exact ih.trans first.isSuffix

/-! ### The lines of a document -/

/-- The grid line. -/
def gridRow : List Part :=
  [.word Rule.gridWord "GRID keyword", .gap "at least one space after GRID keyword",
    .number "grid width", .word ['x'] "'x' between grid width and height",
    .number "grid height"]

/-- An obstacle line. -/
def obstacleRow : List Part :=
  [.word Rule.obstacleWord "OBSTACLE keyword", .gap "at least one space after OBSTACLE keyword",
    .number "obstacle X coordinate", .gap "at least one space after obstacle X coordinate",
    .number "obstacle Y coordinate"]

/-- A pose. -/
def poseRow (which : String) : List Part :=
  [.number (which ++ " robot X coordinate"),
    .gap ("at least one space after " ++ which ++ " robot X coordinate"),
    .number (which ++ " robot Y coordinate"),
    .gap ("at least one space after " ++ which ++ " robot Y coordinate"),
    .heading (which ++ " robot direction, one of [N, E, S, W]")]

/-- The three lines of a journey. -/
def journeyRow : List Part :=
  poseRow "initial" ++ .lineEnd "newline after initial state"
    :: .commands "robot commands, one or more of [L, R, F]"
    :: .lineEnd "newline after commands" :: poseRow "final"

/-- The words of all lines, and the letters of the parts that are no words. -/
def words : List (List Char) :=
  [[], ['x'], Rule.gridWord, Rule.obstacleWord]

/-- The words of the grid line. -/
theorem letters_gridRow : ∀ part ∈ gridRow, part.letters ∈ words := by
  decide

/-- The words of an obstacle line. -/
theorem letters_obstacleRow : ∀ part ∈ obstacleRow, part.letters ∈ words := by
  decide

/-- The words of a journey. -/
theorem letters_journeyRow : ∀ part ∈ journeyRow, part.letters ∈ words := by
  decide

/-- No word has digits. -/
theorem isDigit_of_mem_words : ∀ word ∈ words, ∀ c ∈ word, c.isDigit = false := by
  simp [words, Rule.gridWord, Rule.obstacleWord]

/-! ### Rows in a row -/

variable {row row' : List Part} {text rest : List Char} {k : Complaint}

/-- Nothing more is taken. -/
theorem rowTakes_nil_iff : RowTakes [] text rest ↔ text = rest := by
  constructor
  · intro h
    cases h
    rfl
  · rintro rfl
    exact .nil

/-- The first part and then the others. -/
theorem rowTakes_cons_iff {part : Part} :
    RowTakes (part :: row) text rest ↔ ∃ mid, part.Takes text mid ∧ RowTakes row mid rest := by
  constructor
  · intro h
    cases h with
    | cons first others => exact ⟨_, first, others⟩
  · rintro ⟨mid, first, others⟩
    exact .cons first others

/-- One row and then the other. -/
theorem rowTakes_append_iff :
    RowTakes (row ++ row') text rest ↔ ∃ mid, RowTakes row text mid ∧ RowTakes row' mid rest := by
  induction row generalizing text with
  | nil => simp [rowTakes_nil_iff]
  | cons part row ih =>
    rw [List.cons_append, rowTakes_cons_iff]
    simp only [ih, rowTakes_cons_iff]
    constructor
    · rintro ⟨mid, hpart, mid', hrow, hrow'⟩
      exact ⟨mid', ⟨mid, hpart, hrow⟩, hrow'⟩
    · rintro ⟨mid', ⟨mid, hpart, hrow⟩, hrow'⟩
      exact ⟨mid, hpart, mid', hrow, hrow'⟩

/-- No part, no complaint. -/
theorem not_rowComplains_nil : ¬RowComplains [] text k := by
  intro h
  cases h

/-- The first part is complained about, or another one after it. -/
theorem rowComplains_cons_iff {part : Part} :
    RowComplains (part :: row) text k ↔
      part.Complains text k ∨ ∃ mid, part.Takes text mid ∧ RowComplains row mid k := by
  constructor
  · intro h
    cases h with
    | here complains => exact .inl complains
    | later first others => exact .inr ⟨_, first, others⟩
  · rintro (h | ⟨mid, first, others⟩)
    · exact .here h
    · exact .later first others

/-- The first row is complained about, or the second one after the first. -/
theorem rowComplains_append_iff :
    RowComplains (row ++ row') text k ↔
      RowComplains row text k ∨ ∃ mid, RowTakes row text mid ∧ RowComplains row' mid k := by
  induction row generalizing text with
  | nil => simp [rowTakes_nil_iff, not_rowComplains_nil]
  | cons part row ih =>
    rw [List.cons_append, rowComplains_cons_iff, rowComplains_cons_iff]
    simp only [ih, rowTakes_cons_iff]
    constructor
    · rintro (h | ⟨mid, hpart, h | ⟨mid', hrow, h⟩⟩)
      · exact .inl (.inl h)
      · exact .inl (.inr ⟨mid, hpart, h⟩)
      · exact .inr ⟨mid', ⟨mid, hpart, hrow⟩, h⟩
    · rintro ((h | ⟨mid, hpart, h⟩) | ⟨mid', ⟨mid, hpart, hrow⟩, h⟩)
      · exact .inl h
      · exact .inr ⟨mid, hpart, .inl h⟩
      · exact .inr ⟨mid, hpart, .inr ⟨mid', hrow, h⟩⟩

end GridWalk.Grammar

namespace GridWalk.Rule

open GridWalk.Grammar

variable {α β : Type}

/-- The rule reads what the row takes and rejects what the row complains about. -/
structure Follows (r : Rule α) (row : List Part) : Prop where
  reads : ∃ p : Phrase α, Reads r p ∧ ∀ text rest, (∃ a, p text a rest) ↔ RowTakes row text rest
  rejects : Rejects r (RowComplains row)

/-- A rule for one part follows the row of that part. -/
theorem Follows.part {r : Rule α} {p : Phrase α} {part : Part} (hreads : Reads r p)
    (htakes : ∀ text rest, (∃ a, p text a rest) ↔ part.Takes text rest)
    (hrejects : Rejects r part.Complains) : Follows r [part] where
  reads := by
    refine ⟨p, hreads, fun text rest => ?_⟩
    rw [htakes, rowTakes_cons_iff]
    simp [rowTakes_nil_iff]
  rejects := by
    refine hrejects.congr fun {text k} => ?_
    rw [rowComplains_cons_iff]
    simp [not_rowComplains_nil]

/-- A rule that rejects nothing rejects what no part complains about. -/
theorem Rejects.nil {r : Rule α} (hr : Rejects r fun _ _ => False) :
    Rejects r (RowComplains []) :=
  hr.congr fun {_ _} => (iff_false_intro not_rowComplains_nil).symm

/-- A rule for a row, and then a rule that rejects what another row complains about. -/
theorem Follows.rejects_bind {r : Rule α} {f : α → Rule β} {row row' : List Part}
    (hr : Follows r row) (hf : ∀ a, Rejects (f a) (RowComplains row')) :
    Rejects (r >>= f) (RowComplains (row ++ row')) := by
  obtain ⟨p, hreads, hphrase⟩ := hr.reads
  refine (hr.rejects.bind hreads hf).congr fun {text k} => ?_
  rw [rowComplains_append_iff]
  simp only [← hphrase]
  constructor
  · rintro (h | ⟨a, mid, h, hk⟩)
    · exact .inl h
    · exact .inr ⟨mid, ⟨a, h⟩, hk⟩
  · rintro (h | ⟨mid, ⟨a, h⟩, hk⟩)
    · exact .inl h
    · exact .inr ⟨a, mid, h, hk⟩

/-- Rules in a row follow their rows in a row. -/
theorem Follows.bind {r : Rule α} {f : α → Rule β} {row row' : List Part} (hr : Follows r row)
    (hf : ∀ a, Follows (f a) row') : Follows (r >>= f) (row ++ row') where
  reads := by
    obtain ⟨p, hp, htakes⟩ := hr.reads
    choose q hq htakes' using fun a => (hf a).reads
    refine ⟨andThen p q, hp.bind hq, fun text rest => ?_⟩
    rw [rowTakes_append_iff]
    simp only [← htakes]
    constructor
    · rintro ⟨b, a, mid, hfirst, hsecond⟩
      exact ⟨mid, ⟨a, hfirst⟩, (htakes' a mid rest).mp ⟨b, hsecond⟩⟩
    · rintro ⟨mid, ⟨a, hfirst⟩, hsecond⟩
      obtain ⟨b, hsecond⟩ := (htakes' a mid rest).mpr hsecond
      exact ⟨b, a, mid, hfirst, hsecond⟩
  rejects := hr.rejects_bind fun a => (hf a).rejects

/-- The rule that reads nothing follows the empty row. -/
theorem follows_pure (a : α) : Follows (pure a : Rule α) [] where
  reads := by
    refine ⟨_, reads_pure a, fun text rest => ?_⟩
    simp [rowTakes_nil_iff, eq_comm]
  rejects := (rejects_pure a).nil

/-! ### One part -/

/-- A rule that only complains about something missing. -/
theorem Rejects.part {r : Rule α} {part : Part}
    (hr : Rejects r (Missing part.expected part.Stuck)) (hpart : ∀ text, ¬part.Overflows text) :
    Rejects r part.Complains :=
  hr.congr fun {text _} => (or_iff_left fun h => hpart text h.1).symm

/-- The rule for a word. -/
theorem follows_literal (word : List Char) (expected : String) :
    Follows (literal word expected) [.word word expected] :=
  .part (reads_literal word expected) (fun _ _ => exists_const Unit)
    (.part (rejects_literal word expected) fun _ => id)

/-- The rule for spaces. -/
theorem follows_spaces (expected : String) : Follows (spaces expected) [.gap expected] :=
  .part (reads_spaces expected) (fun _ _ => exists_const Unit)
    (.part (rejects_spaces expected) fun _ => id)

/-- The rule for a number. -/
theorem follows_number (expected : String) : Follows (number expected) [.number expected] :=
  .part (reads_number expected) (fun _ _ => Iff.rfl) (rejects_number expected)

/-- The rule for a heading. -/
theorem follows_heading (expected : String) : Follows (heading expected) [.heading expected] :=
  .part (reads_heading expected) (fun _ _ => Iff.rfl)
    (.part (rejects_heading expected) fun _ => id)

/-- The rule for commands. -/
theorem follows_commands (expected : String) :
    Follows (commands expected) [.commands expected] :=
  .part (reads_commands expected) (fun _ _ => Iff.rfl)
    (.part (rejects_commands expected) fun _ => id)

/-- The rule for a line end. -/
theorem follows_endOfLine (expected : String) :
    Follows (endOfLine expected) [.lineEnd expected] :=
  .part (reads_endOfLine expected) (fun _ _ => exists_const Unit)
    (.part (rejects_endOfLine expected) fun _ => id)

/-! ### The rules of the three sections -/

/-- Nothing is rejected behind the last part of a line. -/
theorem rejects_lineTail (a : α) :
    Rejects (optionalEndOfLine >>= fun _ => (pure a : Rule α)) (RowComplains []) := by
  refine Rejects.nil ((rejects_optionalEndOfLine.bind reads_optionalEndOfLine
    fun _ => rejects_pure a).congr ?_)
  simp

/-- The rule for a pose follows its row. -/
theorem follows_pose (which : String) : Follows (pose which) (poseRow which) :=
  (follows_number _).bind fun _ =>
    (follows_spaces _).bind fun _ =>
      (follows_number _).bind fun _ =>
        (follows_spaces _).bind fun _ =>
          (follows_heading _).bind fun _ => follows_pure _

/-- The rule for a grid line fails where its row breaks off. -/
theorem rejects_gridLine : Rejects gridLine (RowComplains gridRow) :=
  (follows_literal _ _).rejects_bind fun _ =>
    (follows_spaces _).rejects_bind fun _ =>
      (follows_number _).rejects_bind fun _ =>
        (follows_literal _ _).rejects_bind fun _ =>
          (follows_number _).rejects_bind fun _ => rejects_lineTail _

/-- The rule for an obstacle line fails where its row breaks off. -/
theorem rejects_obstacleLine : Rejects obstacleLine (RowComplains obstacleRow) :=
  (follows_literal _ _).rejects_bind fun _ =>
    (follows_spaces _).rejects_bind fun _ =>
      (follows_number _).rejects_bind fun _ =>
        (follows_spaces _).rejects_bind fun _ =>
          (follows_number _).rejects_bind fun _ => rejects_lineTail _

/-- The rule for a journey fails where its row breaks off. -/
theorem rejects_journey : Rejects journey (RowComplains journeyRow) :=
  (follows_pose _).rejects_bind fun _ =>
    (follows_endOfLine _).rejects_bind fun _ =>
      (follows_commands _).rejects_bind fun _ =>
        (follows_endOfLine _).rejects_bind fun _ =>
          (follows_pose _).rejects_bind fun _ => rejects_lineTail _

end GridWalk.Rule
