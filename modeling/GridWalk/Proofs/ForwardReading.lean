import GridWalk.Proofs.Scan.Reading
import Mathlib.Algebra.Ring.Nat

/-!
# `GridWalk.Proofs.ForwardReading`: reading moves forward and comes to an end

Each phrase of the grammar has a least length: a number has a digit, an obstacle line has twelve
characters, and a journey has twelve besides its commands. `AtLeast` states this for phrases of any
kind, and phrases in a row add up. As a success at an offset leads over a phrase, the cursor moves
by the length of the phrase at least. A failure is a complaint about an offset that is not in front
of the cursor, so a cursor never moves back.

The two loops of the reader repeat an entry that has twelve characters. `Rule.manyWithin` repeats it
with a bound on the number of rounds, and a bound that is a twelfth of what is left is enough.

* `Reading.atLeast_phrase`: what each reading reads at least.
* `Rule.manyWithin_eq`: a repetition ends within the rounds.
* `Grammar.Spells.length_le`: a document is as long as its parts.
* `Reading.moves_of_ok` and `Reading.place_of_error`: where the cursor is after each answer.
* `reading_moves_forward`: cursors, loops and lengths together.
-/

set_option autoImplicit false

namespace GridWalk

open GridWalk.Text (position isBlank)

namespace Grammar

/-- The phrases for a value have at least as many characters as its size says. -/
structure AtLeast {α : Type} (size : α → Nat) (p : Phrase α) : Prop where
  le_length {text rest : List Char} {a : α} : p text a rest →
    size a + rest.length ≤ text.length

variable {α : Type} {size : α → Nat} {p : Phrase α} {text rest : List Char}

/-- There is at least one space. -/
theorem Spaces.length_lt (h : Spaces text rest) : rest.length < text.length := by
  obtain ⟨n, rfl⟩ := h
  rw [List.length_append, List.length_replicate]
  omega

/-- A line end has at least one character. -/
theorem LineEnd.length_lt (h : LineEnd text rest) : rest.length < text.length := by
  cases h <;> simp only [List.length_cons] <;> omega

/-- A number has at least one digit. -/
theorem Number.length_lt {n : Nat} (h : Number text n rest) : rest.length < text.length := by
  obtain ⟨hne, -, -, -⟩ := h
  rw [List.length_append]
  have := List.length_pos_iff.mpr hne
  omega

/-- A pose has two numbers, two gaps and a letter. -/
theorem atLeast_pose : AtLeast (fun _ => 5) PoseWords := by
  refine ⟨?_⟩
  rintro text rest q ⟨column, gap, row, gap'⟩
  have hcolumn := column.length_lt
  have hgap := gap.length_lt
  have hrow := row.length_lt
  have hgap' := gap'.length_lt
  simp only [List.length_cons] at hgap' ⊢
  omega

/-- A grid line has its word, a gap, two numbers and a cross. -/
theorem atLeast_gridLine : AtLeast (fun _ => 8) GridLine := by
  refine ⟨?_⟩
  rintro _ rest g ⟨gap, width, height⟩
  have hgap := gap.length_lt
  have hwidth := width.length_lt
  have hheight := height.length_lt
  simp only [List.length_cons] at hwidth ⊢
  omega

/-- An obstacle line has its word, two gaps and two numbers. -/
theorem atLeast_obstacleLine : AtLeast (fun _ => 12) ObstacleLine := by
  refine ⟨?_⟩
  rintro _ rest c ⟨gap, column, gap', row⟩
  have hgap := gap.length_lt
  have hcolumn := column.length_lt
  have hgap' := gap'.length_lt
  have hrow := row.length_lt
  simp only [List.length_cons]
  omega

/-- A journey has two poses, two line ends and its commands. -/
theorem atLeast_journeyLines : AtLeast (fun j => 12 + j.commands.length) JourneyLines := by
  refine ⟨?_⟩
  rintro text rest j ⟨start, lineEnd, -, lineEnd', goal⟩
  have hstart := atLeast_pose.le_length start
  have hlineEnd := lineEnd.length_lt
  have hlineEnd' := lineEnd'.length_lt
  have hgoal := atLeast_pose.le_length goal
  rw [List.length_append, Command.spell, List.length_map] at hlineEnd
  dsimp only at hstart hgoal ⊢
  omega

/-- An optional line end has a character if there is one. -/
theorem atLeast_optionalLineEnd :
    AtLeast (fun ends => if ends then 1 else 0) Rule.OptionalLineEnd := by
  refine ⟨fun {text rest ends} h => ?_⟩
  cases h with
  | ends lineEnd => exact Nat.one_add_le_iff.mpr lineEnd.length_lt
  | none _ => exact Nat.le_of_eq (Nat.zero_add _)

/-- A line end after a phrase adds nothing that is needed. -/
theorem AtLeast.closed (h : AtLeast size p) : AtLeast size (Rule.Closed p) := by
  refine ⟨?_⟩
  rintro text rest a ⟨mid, ends, hphrase, hend⟩
  have hp := h.le_length hphrase
  have hend := atLeast_optionalLineEnd.le_length hend
  omega

/-- Blanks after a phrase add nothing that is needed. -/
theorem AtLeast.spaced (h : AtLeast size p) : AtLeast size (Spaced p) := by
  refine ⟨?_⟩
  rintro text rest a ⟨mid, hphrase, run, -, rfl⟩
  have hp := h.le_length hphrase
  rw [List.length_append] at hp
  omega

/-- Nor do they when they are all that follow. -/
theorem AtLeast.entry (h : AtLeast size p) : AtLeast size (Entry p) :=
  ⟨fun hentry => h.spaced.le_length hentry.1⟩

/-- Phrases in a row have the characters of all of them. -/
theorem AtLeast.many (h : AtLeast size p) : AtLeast (fun as => (as.map size).sum) (Many p) := by
  refine ⟨fun {text rest as} hmany => ?_⟩
  induction hmany with
  | nil => simp
  | @cons text mid rest a as first _ ih =>
    have hfirst := h.le_length first
    show ((a :: as).map size).sum + rest.length ≤ text.length
    rw [List.map_cons, List.sum_cons]
    have ih : (as.map size).sum + rest.length ≤ mid.length := ih
    omega

/-- A document has the characters of its lines. -/
theorem Spells.length_le {d : Document} (h : Spells text d) :
    8 + 12 * d.obstacles.length + (d.journeys.map fun j => 12 + j.commands.length).sum
      ≤ text.length := by
  obtain ⟨hgrid, hobstacles, hjourneys⟩ := h
  have hgrid := atLeast_gridLine.spaced.le_length hgrid
  have hobstacles := atLeast_obstacleLine.spaced.many.le_length hobstacles
  have hjourneys := atLeast_journeyLines.spaced.many.le_length hjourneys
  rw [List.map_const', List.sum_replicate_nat] at hobstacles
  dsimp only
  omega

end Grammar

open Grammar

/-! ### What a reading reads at least -/

namespace Reading

/-- The number of characters that the cursor moves on at least when the value is read. -/
def least {α : Type} : Reading α → α → Nat
  | literal word _, _ => word.length
  | spaces _, _ => 1
  | skipBlanks, _ => 0
  | number _, _ => 1
  | endOfLine _, _ => 1
  | optionalEndOfLine, ends => if ends then 1 else 0
  | heading _, _ => 1
  | commands _, ks => ks.length
  | gridLine, _ => 8
  | obstacleLine, _ => 12
  | pose _, _ => 5
  | journey, j => 12 + j.commands.length

/-- The value may be read without a move. -/
def MayStay {α : Type} : Reading α → α → Prop
  | literal word _, _ => word = []
  | skipBlanks, _ => True
  | optionalEndOfLine, ends => ends = false
  | _, _ => False

/-- All that can be missing is one part, which is no number. -/
def IsSingle {α : Type} : Reading α → Prop
  | literal _ _ | spaces _ | endOfLine _ | heading _ | commands _ => True
  | _ => False

variable {α : Type} {s : Reading α} {text rest : List Char} {a : α} {k : Complaint}

/-- A reading reads at least what it needs. -/
theorem atLeast_phrase (s : Reading α) : AtLeast s.least s.phrase := by
  cases s with
  | literal word _ =>
    refine ⟨?_⟩
    rintro text rest _ rfl
    exact Nat.le_of_eq List.length_append.symm
  | spaces _ => exact ⟨fun h => Nat.one_add_le_iff.mpr h.1.length_lt⟩
  | skipBlanks =>
    refine ⟨?_⟩
    rintro _ rest _ ⟨⟨run, -, rfl⟩, -⟩
    simp [least]
  | number _ => exact ⟨fun h => Nat.one_add_le_iff.mpr h.length_lt⟩
  | endOfLine _ => exact ⟨fun h => Nat.one_add_le_iff.mpr h.length_lt⟩
  | optionalEndOfLine => exact atLeast_optionalLineEnd
  | heading _ =>
    refine ⟨?_⟩
    rintro _ rest h rfl
    simp [least, Nat.add_comm]
  | commands _ =>
    refine ⟨?_⟩
    rintro _ rest ks ⟨⟨rfl, -⟩, -⟩
    simp [least, Command.spell]
  | gridLine => exact atLeast_gridLine.closed
  | obstacleLine => exact atLeast_obstacleLine.closed
  | pose _ => exact atLeast_pose
  | journey => exact atLeast_journeyLines.closed

/-- A value that is not read without a move needs a character. -/
theorem least_pos (h : s.phrase text a rest) (hmoves : ¬s.MayStay a) : 0 < s.least a := by
  cases s with
  | literal word _ => exact List.length_pos_iff.mpr hmoves
  | skipBlanks => exact absurd trivial hmoves
  | optionalEndOfLine =>
    cases a with
    | false => exact absurd rfl hmoves
    | true => exact Nat.zero_lt_one
  | commands _ => exact List.length_pos_iff.mpr h.2
  | journey => exact Nat.lt_add_right _ (by decide)
  | _ => exact Nat.succ_pos _

/-- A single part that is missing is missing where the reading starts. -/
theorem left_eq_of_isSingle (hs : s.IsSingle) (hk : RowComplains s.row text k) :
    k.left = text := by
  have hpart : ∃ part, s.row = [part] ∧ ∀ text, ¬part.Overflows text := by
    cases s with
    | literal _ _ | spaces _ | endOfLine _ | heading _ | commands _ => exact ⟨_, rfl, fun _ => id⟩
    | _ => exact absurd hs id
  obtain ⟨part, hrow, hfits⟩ := hpart
  rw [hrow, rowComplains_cons_iff] at hk
  rcases hk with (⟨-, rfl⟩ | ⟨hlarge, -⟩) | ⟨mid, -, hnone⟩
  · rfl
  · exact absurd hlarge (hfits text)
  · exact absurd hnone not_rowComplains_nil

end Reading

/-- A complaint without the detail of a number that is too large is about the place where it leaves
the cursor. -/
theorem Complaint.left_eq_here {text : List Char} {k : Complaint}
    (h : (k.error text).detail ≠ some "Invalid decimal value") : k.left = k.here := by
  unfold error at h
  unfold left
  cases hk : k.oversized with
  | true =>
    rw [hk] at h
    exact absurd rfl h
  | false => rfl

/-! ### Repetitions -/

namespace Rule

variable {α : Type} {again : Cursor → Bool} {r : Rule α} {p : Phrase α}

/-- Repeats a rule as `many` does, and gives up after so many rounds. The round in which the
repetition ends counts. -/
def manyWithin (again : Cursor → Bool) (r : Rule α) :
    Nat → Cursor → Option (EStateM.Result ParseError Cursor (List α))
  | 0, _ => none
  | rounds + 1, c =>
    if again c then
      match r c with
      | .error e d => some (.error e d)
      | .ok a d =>
        match manyWithin again r rounds d with
        | none => none
        | some (.error e d') => some (.error e d')
        | some (.ok as d') => some (.ok (a :: as) d')
    else some (.ok [] c)

/-- A rule that reads phrases of a length is repeated until nothing of that length is left. -/
theorem manyWithin_eq {size : Nat} (hreads : Reads r p)
    (hsize : ∀ {text a rest}, p text a rest → size + rest.length ≤ text.length)
    (eager : r.Eager) {rounds : Nat} {c : Cursor} (hc : c.Inside)
    (hrounds : c.rest.length < size * rounds) :
    manyWithin again r rounds c = some (many again r eager c) := by
  induction rounds generalizing c with
  | zero => exact absurd hrounds (Nat.not_lt_zero _)
  | succ rounds ih =>
    -- After a first round, less is left than the other rounds can read.
    have hlater {a : α} {d : Cursor} (hrun : r c = .ok a d) :
        manyWithin again r rounds d = some (many again r eager d) := by
      obtain ⟨hphrase, hleads⟩ := (hreads.ok_iff hc).mp hrun
      have hlength := hsize hphrase
      refine ih hleads.inside ?_
      rw [Nat.mul_succ] at hrounds
      omega
    unfold manyWithin
    cases hmany : many again r eager c with
    | ok as d =>
      rcases many_eq_ok_iff.mp hmany with
        ⟨hstop, rfl, rfl⟩ | ⟨hgo, a, e, others, hrun, hothers, rfl⟩
      · rw [hstop, if_neg Bool.false_ne_true]
      · rw [if_pos hgo, hrun]
        dsimp only
        rw [hlater hrun, hothers]
    | error x d =>
      obtain ⟨hgo, hrun | ⟨a, e, hrun, hothers⟩⟩ := many_eq_error_iff.mp hmany
      · rw [if_pos hgo, hrun]
      · rw [if_pos hgo, hrun]
        dsimp only
        rw [hlater hrun, hothers]

/-- Obstacle lines are repeated until less than one of them is left. -/
theorem manyWithin_obstacleEntry {rounds : Nat} {c : Cursor} (hc : c.Inside)
    (hrounds : c.rest.length < 12 * rounds) :
    manyWithin (fun c => c.startsWith obstacleWord) obstacleEntry rounds c
      = some (obstacleSection c) :=
  manyWithin_eq reads_obstacleEntry (fun h => atLeast_obstacleLine.entry.le_length h)
    eager_obstacleEntry hc hrounds

/-- Journeys are repeated until less than one of them is left. -/
theorem manyWithin_journeyEntry {rounds : Nat} {c : Cursor} (hc : c.Inside)
    (hrounds : c.rest.length < 12 * rounds) :
    manyWithin (fun c => !c.atEnd) (journeyEntry "robot journey or end of input") rounds c
      = some (furtherJourneys c) := by
  refine manyWithin_eq (reads_journeyEntry _) (fun {text j rest} h => ?_)
    (eager_journeyEntry _) hc hrounds
  have hlength : 12 + j.commands.length + rest.length ≤ text.length :=
    atLeast_journeyLines.entry.le_length h
  omega

end Rule

/-! ### The cursor after an answer -/

namespace Reading

variable {α : Type} {s : Reading α} {text : List Char} {p : Nat} {a : α} {d : Cursor}
  {e : ParseError}

/-- A success moves the cursor on by what the value needs. -/
theorem moves_of_ok (hp : p ≤ text.length) (h : s.rule (.inText text p) = .ok a d) :
    ∃ q, d = .inText text q ∧ p + s.least a ≤ q ∧ q ≤ text.length ∧ (p < q ∨ s.MayStay a) := by
  obtain ⟨q, hpq, hq, rfl, hphrase⟩ := (rule_eq_ok_iff hp).mp h
  have hlength := s.atLeast_phrase.le_length hphrase
  rw [List.length_drop, List.length_drop] at hlength
  refine ⟨q, rfl, by omega, hq, ?_⟩
  by_cases hstays : s.MayStay a
  · exact .inr hstays
  · have := least_pos hphrase hstays
    exact .inl (by omega)

/-- A failure does not move the cursor back, and tells where it is left unless a number is too
large. -/
theorem place_of_error (hp : p ≤ text.length) (h : s.rule (.inText text p) = .error e d) :
    ∃ q, d = .inText text q ∧ p ≤ q ∧ q ≤ text.length ∧ (s.IsSingle → q = p) ∧
      (e.detail ≠ some "Invalid decimal value" →
        e.line = (position text q).line ∧ e.column = (position text q).column) := by
  obtain ⟨k, q, q', hk, rfl, rfl, ⟨hpq, hq, hhere⟩, hqq', hq', hleft⟩ :=
    (rule_eq_error_iff hp).mp h
  -- What is left tells the offset, so ends of the text are compared.
  have hsame {m n : Nat} (hm : m ≤ text.length) (hn : n ≤ text.length)
      (heq : text.drop m = text.drop n) : m = n := by
    rwa [List.drop_eq_drop_iff, Nat.min_eq_left hm, Nat.min_eq_left hn] at heq
  refine ⟨q', rfl, Nat.le_trans hpq hqq', hq', fun hsingle => ?_, fun hdetail => ?_⟩
  · exact hsame hq' hp (hleft.symm.trans (left_eq_of_isSingle hsingle hk))
  · have hplace : q' = q :=
      hsame hq' hq (hleft.symm.trans ((Complaint.left_eq_here hdetail).trans hhere))
    have hsplit : text = text.take q ++ k.here := by rw [hhere, List.take_append_drop]
    have herror := Complaint.place_error hsplit
    rw [List.length_take, Nat.min_eq_left hq] at herror
    rw [hplace]
    exact herror

end Reading

/-- Reading moves forward and comes to an end.

Let `p` be an offset of a text, and let any primitive or any line be read there. After a success the
cursor is further by `Reading.least` at least, which is 12 for an obstacle line and 12 and the
number of commands for a journey. It has moved unless blanks were skipped, an optional line end was
not there, or the word to read was empty. After a failure the cursor is not in front of `p`, and it
is still at `p` if a word, spaces, a line end, a heading or commands were to be read. An error has
the line and the column of the cursor that is left behind, unless it is about a number that is too
large. In all cases the cursor is in the text or at its end.

Each of the two loops ends: twelve times the rounds it is given are more than what is left, and it
is done within these rounds. A text that is a document has at least 8 characters, 12 for each
obstacle, and 12 and the number of commands for each journey. -/
theorem reading_moves_forward (text : List Char) {p : Nat} (hp : p ≤ text.length) :
    (∀ {α : Type} (s : Reading α),
      (∀ a d, s.rule (.inText text p) = .ok a d → ∃ q, d = .inText text q ∧
        p + s.least a ≤ q ∧ q ≤ text.length ∧ (p < q ∨ s.MayStay a)) ∧
      ∀ e d, s.rule (.inText text p) = .error e d → ∃ q, d = .inText text q ∧
        p ≤ q ∧ q ≤ text.length ∧ (s.IsSingle → q = p) ∧
        (e.detail ≠ some "Invalid decimal value" →
          e.line = (position text q).line ∧ e.column = (position text q).column)) ∧
    (∀ rounds, text.length - p < 12 * rounds →
      Rule.manyWithin (fun c => c.startsWith Rule.obstacleWord) Rule.obstacleEntry rounds
          (.inText text p) = some (Rule.obstacleSection (.inText text p)) ∧
        Rule.manyWithin (fun c => !c.atEnd) (Rule.journeyEntry "robot journey or end of input")
          rounds (.inText text p) = some (Rule.furtherJourneys (.inText text p))) ∧
    ∀ d, Document.read (String.ofList text) = .ok d →
      8 + 12 * d.obstacles.length + (d.journeys.map fun j => 12 + j.commands.length).sum
        ≤ text.length := by
  refine ⟨fun s => ⟨fun _ _ => Reading.moves_of_ok hp, fun _ _ => Reading.place_of_error hp⟩,
    fun rounds hrounds => ?_, fun d hread => ?_⟩
  · have hrest : (Cursor.inText text p).rest.length < 12 * rounds := by
      rw [Cursor.rest_inText, List.length_drop]
      exact hrounds
    exact ⟨Rule.manyWithin_obstacleEntry (Cursor.inside_inText hp) hrest,
      Rule.manyWithin_journeyEntry (Cursor.inside_inText hp) hrest⟩
  · have hspells := read_eq_ok_iff.mp hread
    rw [String.toList_ofList] at hspells
    exact hspells.length_le

/-- The first of two obstacle lines is read, and the second one breaks off. Two rounds are enough
for the loop to find this out. -/
theorem reading_moves_forward_obstacles :
    9 ≤ "GRID 1x1\nOBSTACLE 0 0\nOBSTACLE 1".toList.length ∧
      (∃ q, Rule.obstacleLine (.inText "GRID 1x1\nOBSTACLE 0 0\nOBSTACLE 1".toList 9)
          = .ok ⟨0, 0⟩ (.inText "GRID 1x1\nOBSTACLE 0 0\nOBSTACLE 1".toList q) ∧
        9 + 12 ≤ q ∧ q ≤ "GRID 1x1\nOBSTACLE 0 0\nOBSTACLE 1".toList.length) ∧
      Rule.manyWithin (fun c => c.startsWith Rule.obstacleWord) Rule.obstacleEntry 2
          (.inText "GRID 1x1\nOBSTACLE 0 0\nOBSTACLE 1".toList 9)
        = some (Rule.obstacleSection (.inText "GRID 1x1\nOBSTACLE 0 0\nOBSTACLE 1".toList 9)) := by
  have hlength : "GRID 1x1\nOBSTACLE 0 0\nOBSTACLE 1".toList.length = 32 := by decide
  have hp : 9 ≤ "GRID 1x1\nOBSTACLE 0 0\nOBSTACLE 1".toList.length := by omega
  obtain ⟨hreadings, hloops, -⟩ := reading_moves_forward _ hp
  have hok : Reading.obstacleLine.rule (.inText "GRID 1x1\nOBSTACLE 0 0\nOBSTACLE 1".toList 9)
      = .ok ⟨0, 0⟩ (.inText "GRID 1x1\nOBSTACLE 0 0\nOBSTACLE 1".toList 22) := rfl
  obtain ⟨q, hcursor, hleast, hq, -⟩ := (hreadings .obstacleLine).1 _ _ hok
  rw [hcursor] at hok
  exact ⟨hp, ⟨q, hok, hleast, hq⟩, (hloops 2 (by omega)).1⟩

end GridWalk
