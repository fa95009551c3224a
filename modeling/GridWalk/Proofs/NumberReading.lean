import GridWalk.Proofs.Scan.Complaint
import GridWalk.Proofs.Text.Position

/-!
# `GridWalk.Proofs.NumberReading`: reading a number at any offset

`Rule.number` reads a run of digits and looks at its length before it looks at its value.
`NumberRead` says without that shortcut what may come out: the value of the whole run with the
cursor behind it, or an error. An error is always told at the first character, even when the cursor
has gone past a run that is too large.

* `NumberRead.number_eq`: what `NumberRead` allows is what the rule gives.
* `exists_numberRead`: at every offset it allows something.
* `number_reads_whole_run`: the rule and `NumberRead` agree on every text and offset.
-/

set_option autoImplicit false

namespace GridWalk

open Grammar
open Rule (number takeWhile_isEmpty_iff written_eq)
open GridWalk.Text (position quotedChars significant numeralValue? numeralValue?_eq_some_iff
  numeralValue?_eq_none_iff ofDigitChars_significant maxNumber_lt_of_length)

/-- The cursor at an offset of the text. -/
def Cursor.inText (text : List Char) (p : Nat) : Cursor :=
  (Cursor.start text).seek p

/-- The run of digits that starts at the offset `p` of the text: it is not empty, and no digit
follows it. -/
structure IsRunAt (text : List Char) (p : Nat) (run : List Char) : Prop where
  isPrefix : run <+: text.drop p
  ne_nil : run ≠ []
  isDigit : ∀ c ∈ run, c.isDigit = true
  ends : ∀ c, text[p + run.length]? = some c → c.isDigit = false

/-- What reading a number at the offset `p` of the text may give, and the cursor that it leaves. -/
inductive NumberRead (text : List Char) (p : Nat) (expected : String) :
    EStateM.Result ParseError Cursor Nat → Prop
  /-- No digit is at the offset. -/
  | missing (none : ∀ c, text[p]? = some c → c.isDigit = false) :
      NumberRead text p expected (.error
        ⟨expected, (Cursor.inText text p).describe, (position text p).line,
          (position text p).column, .none⟩
        (.inText text p))
  /-- The value of the run of digits at the offset fits 31 bits. -/
  | fits {run : List Char} (isRun : IsRunAt text p run)
      (le : Nat.ofDigitChars 10 run 0 ≤ 2147483647) :
      NumberRead text p expected (.ok (Nat.ofDigitChars 10 run 0) (.inText text (p + run.length)))
  /-- The value of the run of digits at the offset is too large. -/
  | tooLarge {run : List Char} (isRun : IsRunAt text p run)
      (lt : 2147483647 < Nat.ofDigitChars 10 run 0) :
      NumberRead text p expected (.error
        ⟨expected, String.ofList (quotedChars (run.take 20)), (position text p).line,
          (position text p).column, some "Invalid decimal value"⟩
        (.inText text (p + run.length)))

namespace Cursor

variable {text : List Char} {p : Nat}

/-- The cursor at an offset of the text stands inside. -/
theorem inside_inText (hp : p ≤ text.length) : (inText text p).Inside := by
  refine ⟨Int.natCast_nonneg p, ?_⟩
  show (p : Int) ≤ text.length
  omega

/-- What is left to read is the end of the text. -/
theorem rest_inText (text : List Char) (p : Nat) : (inText text p).rest = text.drop p := by
  show Text.readFrom text p = _
  rw [Text.readFrom_natCast]

/-- A step leads to an offset of the text. -/
theorem advance_inText (text : List Char) (p n : Nat) :
    (inText text p).advance n = inText text (p + n) := by
  refine eq_of_pos_eq (text_advance _ n) ?_
  rw [pos_advance]
  show (p : Int) + n = (p + n : Nat)
  omega

end Cursor

section
variable {text run : List Char} {p : Nat} {expected : String}
  {answer : EStateM.Result ParseError Cursor Nat}

/-- The run of digits at an offset is the longest one. -/
theorem IsRunAt.takeWhile_eq (h : IsRunAt text p run) :
    (text.drop p).takeWhile Char.isDigit = run := by
  obtain ⟨rest, hrest⟩ := h.isPrefix
  have hstops : Stops Char.isDigit rest := by
    intro c hc
    refine h.ends c ?_
    rw [← List.getElem?_drop, ← hrest, List.getElem?_append_right (Nat.le_refl _), Nat.sub_self,
      ← List.head?_eq_getElem?]
    exact hc
  rw [← hrest]
  exact takeWhile_run h.isDigit hstops

/-- A run of a class ends in front of an offset where no character of the class is. -/
theorem stops_drop_iff {q : Char → Bool} :
    Stops q (text.drop p) ↔ ∀ c, text[p]? = some c → q c = false := by
  unfold Stops
  rw [List.head?_drop]
  rfl

/-- Where a digit is, the longest run of digits starts. -/
theorem isRunAt_takeWhile (h : ¬Stops Char.isDigit (text.drop p)) :
    IsRunAt text p ((text.drop p).takeWhile Char.isDigit) where
  isPrefix := List.takeWhile_prefix Char.isDigit
  ne_nil := by
    intro hnil
    exact h (takeWhile_isEmpty_iff.mp (by simp [hnil]))
  isDigit := List.all_eq_true.mp List.all_takeWhile
  ends := by
    have hrest : ((text.drop p).takeWhile Char.isDigit ++ (text.drop p).dropWhile Char.isDigit).drop
        ((text.drop p).takeWhile Char.isDigit).length = (text.drop p).dropWhile Char.isDigit :=
      List.drop_left
    rw [List.takeWhile_append_dropWhile, List.drop_drop] at hrest
    rw [← stops_drop_iff, hrest]
    exact stops_dropWhile Char.isDigit (text.drop p)

/-- What may come out of reading a number is what comes out. -/
theorem NumberRead.number_eq (h : NumberRead text p expected answer) (hp : p ≤ text.length) :
    number expected (.inText text p) = answer := by
  have hrest := Cursor.rest_inText text p
  have hwritten := written_eq (Cursor.inside_inText hp)
  unfold number
  simp only [hwritten, hrest, Cursor.advance_inText]
  cases h with
  | missing none => rw [if_pos (takeWhile_isEmpty_iff.mpr (stops_drop_iff.mpr none))]; rfl
  | @fits run isRun le =>
    have hvalue := (numeralValue?_eq_some_iff isRun.isDigit).mpr ⟨rfl, le⟩
    rw [isRun.takeWhile_eq, if_neg (by simp [isRun.ne_nil]), hvalue]
  | @tooLarge run isRun lt =>
    have hvalue := (numeralValue?_eq_none_iff isRun.isDigit).mpr lt
    rw [isRun.takeWhile_eq, if_neg (by simp [isRun.ne_nil]), hvalue]
    rfl

/-- At every offset something may come out. -/
theorem exists_numberRead (text : List Char) (p : Nat) (expected : String) :
    ∃ answer, NumberRead text p expected answer := by
  by_cases hstops : Stops Char.isDigit (text.drop p)
  · exact ⟨_, .missing (stops_drop_iff.mp hstops)⟩
  · have hrun := isRunAt_takeWhile hstops
    rcases Nat.lt_or_ge 2147483647 (Nat.ofDigitChars 10 ((text.drop p).takeWhile Char.isDigit) 0)
      with hlarge | hfits
    · exact ⟨_, .tooLarge hrun hlarge⟩
    · exact ⟨_, .fits hrun hfits⟩

end

/-- Reading a number agrees with the value of its digits.

At every offset of every text, the answer of the rule is the one that `NumberRead` allows. If no
digit is at the offset, the rule says so there and stays there. Otherwise it goes behind the longest
run of digits and gives the decimal value of the run, whatever zeros stand in front and however long
it is. If the value exceeds 2147483647, it gives an error instead, which has the line and the column
of the first digit and shows the first twenty digits.

The rule never compares more than ten digits. A run has more than ten digits besides the zeros in
front, or a value of those digits that is too large, exactly when its own value is too large. -/
theorem number_reads_whole_run {text : List Char} {p : Nat} (hp : p ≤ text.length)
    (expected : String) :
    (∀ answer, number expected (.inText text p) = answer ↔ NumberRead text p expected answer) ∧
      ∀ run : List Char, (∀ c ∈ run, c.isDigit = true) →
        (10 < (significant run).length ∨ 2147483647 < Nat.ofDigitChars 10 (significant run) 0 ↔
          2147483647 < Nat.ofDigitChars 10 run 0) := by
  refine ⟨fun answer => ⟨?_, fun h => h.number_eq hp⟩, fun run hrun => ?_⟩
  · rintro rfl
    obtain ⟨answer, hread⟩ := exists_numberRead text p expected
    rw [hread.number_eq hp]
    exact hread
  · rw [ofDigitChars_significant, or_iff_right_iff_imp]
    exact maxNumber_lt_of_length hrun

/-- A width that is too large by one, with zeros in front and more digits than an error shows. -/
theorem number_reads_whole_run_zeros :
    5 ≤ "GRID 0000000000002147483648x1".toList.length ∧
      number "grid width" (.inText "GRID 0000000000002147483648x1".toList 5) = .error
        ⟨"grid width", "'00000000000021474836'", 1, 6, some "Invalid decimal value"⟩
        (.inText "GRID 0000000000002147483648x1".toList 27) := by
  have hp : 5 ≤ "GRID 0000000000002147483648x1".toList.length := by decide +kernel
  have hbehind : "GRID 0000000000002147483648x1".toList[5 + "0000000000002147483648".toList.length]?
      = some 'x' := by
    decide +kernel
  have hrun : IsRunAt "GRID 0000000000002147483648x1".toList 5 "0000000000002147483648".toList := by
    refine ⟨by decide +kernel, by decide +kernel, List.all_eq_true.mp (by decide +kernel), ?_⟩
    intro c hc
    rw [hbehind] at hc
    cases hc
    decide
  have hanswer := ((number_reads_whole_run hp "grid width").1 _).mpr
    (.tooLarge hrun (by decide +kernel))
  have hplace : position "GRID 0000000000002147483648x1".toList (5 : Nat) = ⟨1, 6⟩ := by
    decide +kernel
  have hshown : String.ofList (quotedChars ("0000000000002147483648".toList.take 20))
      = "'00000000000021474836'" := by
    decide +kernel
  have hlength : 5 + "0000000000002147483648".toList.length = 27 := by decide +kernel
  rw [hplace, hshown, hlength] at hanswer
  exact ⟨hp, hanswer⟩

end GridWalk
