import GridWalk.Proofs.Scan.Reading
import GridWalk.Proofs.Text.Returns

/-!
# `GridWalk.Proofs.TextBefore`: a reading does not see the text before it

Put a text in front of another one and read at the same place. What a reading reads and what it
complains about depend on the unread rest, which is the same. Only an error speaks of the whole
text, by its line and its column. Each line feed of the text in front is one more line. The column
changes for errors in the first line, which now goes on behind the last line of the text in front.

* `Text.position_behind`: the position of an offset behind a text.
* `Complaint.isBehind_error`: the error of a complaint behind a text.
* `readings_ignore_text_before`: all readings at all offsets.
-/

set_option autoImplicit false

namespace GridWalk

namespace Text

variable {before after : List Char}

/-- A line that starts behind a text starts so much later. -/
theorem lineStart_append_of_mem (h : '\n' ∈ after) :
    lineStart (before ++ after) = before.length + lineStart after := by
  have hshort : (after.reverse.takeWhile (· != '\n')).length ≠ after.reverse.length := by
    intro hlength
    have hall : ∀ c ∈ after.reverse.takeWhile (· != '\n'), (c != '\n') = true :=
      List.all_eq_true.mp List.all_takeWhile
    rw [(List.takeWhile_prefix _).eq_of_length hlength] at hall
    exact absurd (hall '\n' (List.mem_reverse.mpr h)) (by decide)
  have hle := (List.takeWhile_prefix (· != '\n') (l := after.reverse)).length_le
  rw [List.length_reverse] at hle
  unfold lineStart
  rw [List.reverse_append, List.takeWhile_append, if_neg hshort, List.length_append]
  omega

/-- Behind a text, an offset is as many lines later as the text has line feeds. In the first line it
is as many columns later as the last line of the text has characters. -/
theorem position_behind (before text : List Char) (q : Nat) :
    (position (before ++ text) (before.length + q : Nat)).line =
        (position text q).line + before.count '\n' ∧
      (position (before ++ text) (before.length + q : Nat)).column =
        if (position text q).line = 1 then
          (position text q).column + (before.reverse.takeWhile (· != '\n')).length
        else (position text q).column := by
  rw [position_natCast, position_natCast, List.take_length_add_append, List.count_append]
  dsimp only
  refine ⟨by omega, ?_⟩
  by_cases h : '\n' ∈ text.take q
  · have hcount := List.count_pos_iff.mpr h
    rw [lineStart_append_of_mem h, if_neg (by omega)]
    omega
  · have hcount := List.count_eq_zero.mpr h
    have hstart : lineStart (text.take q) = 0 := by
      rw [← List.nil_append (text.take q), lineStart_append h]
      rfl
    have hlast := length_sub_lineStart before
    rw [lineStart_append h, hcount, hstart, if_pos rfl]
    omega

end Text

/-- What a cursor shows depends on what is left to read. -/
theorem Cursor.describe_congr {c d : Cursor} (h : c.rest = d.rest) : c.describe = d.describe := by
  unfold describe peek
  rw [h]

/-- The second error is the first one behind the text: it says the same of a later place. -/
structure ParseError.IsBehind (before : List Char) (e e' : ParseError) : Prop where
  expected : e'.expected = e.expected
  found : e'.found = e.found
  detail : e'.detail = e.detail
  line : e'.line = e.line + before.count '\n'
  column : e'.column =
    if e.line = 1 then e.column + (before.reverse.takeWhile (· != '\n')).length else e.column

namespace Complaint

variable {text text' first first' : List Char} {k : Complaint}

/-- What an error says, apart from line and column, does not depend on the text before its place. -/
theorem words_error_eq (h : text = first ++ k.here) (h' : text' = first' ++ k.here) :
    (k.error text').expected = (k.error text).expected ∧
      (k.error text').found = (k.error text).found ∧
      (k.error text').detail = (k.error text).detail := by
  have hrest : (Cursor.before text' k.here).rest = (Cursor.before text k.here).rest := by
    rw [h, h', Cursor.rest_before_append, Cursor.rest_before_append]
  unfold error
  split
  · exact ⟨rfl, rfl, rfl⟩
  · exact ⟨rfl, Cursor.describe_congr hrest, rfl⟩

/-- A complaint about an end of a text is the same behind another text. -/
theorem isBehind_error (before : List Char) {q : Nat} (hq : q ≤ text.length)
    (hhere : k.here = text.drop q) :
    (k.error text).IsBehind before (k.error (before ++ text)) := by
  have hsplit : text = text.take q ++ k.here := by rw [hhere, List.take_append_drop]
  have hsplit' : before ++ text = (before ++ text.take q) ++ k.here := by
    rw [List.append_assoc, ← hsplit]
  obtain ⟨hexpected, hfound, hdetail⟩ := words_error_eq hsplit hsplit'
  obtain ⟨hline, hcolumn⟩ := place_error hsplit
  obtain ⟨hline', hcolumn'⟩ := place_error hsplit'
  rw [List.length_take, Nat.min_eq_left hq] at hline hcolumn
  rw [List.length_append, List.length_take, Nat.min_eq_left hq] at hline' hcolumn'
  obtain ⟨hlater, hcolumns⟩ := Text.position_behind before text q
  refine ⟨hexpected, hfound, hdetail, ?_, ?_⟩
  · rw [hline', hline, hlater]
    omega
  · rw [hcolumn', hcolumn, hline, hcolumns]
    exact if_congr (by omega) rfl rfl

end Complaint

/-- Two answers, at the offset `p` of the text and at the same place behind another text. Both have
the same value, or the second error is the first one behind that text. Both cursors move by the same
number of characters. -/
inductive Relocated {α : Type} (before text : List Char) (p : Nat) :
    EStateM.Result ParseError Cursor α → EStateM.Result ParseError Cursor α → Prop
  | ok {a : α} {d d' : Cursor} {n : Nat} (cursor : d = .inText text (p + n))
      (cursor' : d' = .inText (before ++ text) (before.length + p + n)) :
      Relocated before text p (.ok a d) (.ok a d')
  | error {e e' : ParseError} {d d' : Cursor} {n : Nat} (isBehind : e.IsBehind before e')
      (cursor : d = .inText text (p + n))
      (cursor' : d' = .inText (before ++ text) (before.length + p + n)) :
      Relocated before text p (.error e d) (.error e' d')

/-- A reading does not see the text before it.

Let any primitive or any line be read at an offset of a text, and at the same place with another
text in front. Both readings give the same value, or both fail with the same words for what was
expected and what was found and with the same detail. Both cursors move by the same number of
characters. The line of the second error is larger by the line feeds of the text in front. Its
column is larger by the characters behind the last of these line feeds if the first error is in
line 1, and otherwise it is the same. -/
theorem readings_ignore_text_before {α : Type} (s : Reading α) (before : List Char)
    {text : List Char} {p : Nat} (hp : p ≤ text.length) :
    Relocated before text p (s.rule (.inText text p))
      (s.rule (.inText (before ++ text) (before.length + p))) := by
  have hlength {q : Nat} (hq : q ≤ text.length) : before.length + q ≤ (before ++ text).length := by
    rw [List.length_append]
    omega
  have hdrop (q : Nat) : (before ++ text).drop (before.length + q) = text.drop q :=
    List.drop_length_add_append q
  cases hanswer : s.rule (.inText text p) with
  | ok a d =>
    obtain ⟨q, hpq, hq, rfl, hphrase⟩ := (Reading.rule_eq_ok_iff hp).mp hanswer
    rw [← hdrop, ← hdrop] at hphrase
    have hanswer' := (Reading.rule_eq_ok_iff (hlength hp)).mpr
      ⟨before.length + q, by omega, hlength hq, rfl, hphrase⟩
    rw [hanswer']
    obtain ⟨n, rfl⟩ := Nat.exists_eq_add_of_le hpq
    exact .ok rfl (by rw [Nat.add_assoc])
  | error e d =>
    obtain ⟨k, q, q', hk, rfl, rfl, ⟨hpq, hq, hhere⟩, hqq', hq', hleft⟩ :=
      (Reading.rule_eq_error_iff hp).mp hanswer
    have hbehind := Complaint.isBehind_error before hq hhere
    rw [← hdrop] at hk hhere hleft
    have hanswer' := (Reading.rule_eq_error_iff (hlength hp)).mpr
      ⟨k, before.length + q, before.length + q', hk, rfl, rfl, ⟨by omega, hlength hq, hhere⟩,
        by omega, hlength hq', hleft⟩
    rw [hanswer']
    obtain ⟨n, rfl⟩ := Nat.exists_eq_add_of_le (Nat.le_trans hpq hqq')
    exact .error hbehind rfl (by rw [Nat.add_assoc])

/-- The row of a pose is too large. The error is told at its first digit, which is in the second
line behind a grid line and two blanks, and the cursor is behind the digits. -/
theorem readings_ignore_text_before_oversized :
    0 ≤ "0 2147483648 N".toList.length ∧
      Rule.pose "final" (.inText "0 2147483648 N".toList 0) = .error
        ⟨"final robot Y coordinate", "'2147483648'", 1, 3, some "Invalid decimal value"⟩
        (.inText "0 2147483648 N".toList 12) ∧
      ∃ e d, Rule.pose "final" (.inText ("GRID 1x1\n  ".toList ++ "0 2147483648 N".toList)
          ("GRID 1x1\n  ".toList.length + 0)) = .error e d ∧
        e = ⟨"final robot Y coordinate", "'2147483648'", 2, 5, some "Invalid decimal value"⟩ := by
  have hp : 0 ≤ "0 2147483648 N".toList.length := Nat.zero_le _
  have hanswer : (Reading.pose "final").rule (.inText "0 2147483648 N".toList 0) = .error
      ⟨"final robot Y coordinate", "'2147483648'", 1, 3, some "Invalid decimal value"⟩
      (.inText "0 2147483648 N".toList 12) := by
    rfl
  have h := readings_ignore_text_before (.pose "final") "GRID 1x1\n  ".toList hp
  rw [hanswer] at h
  refine ⟨hp, hanswer, ?_⟩
  cases hanswer' : (Reading.pose "final").rule (.inText
    ("GRID 1x1\n  ".toList ++ "0 2147483648 N".toList) ("GRID 1x1\n  ".toList.length + 0)) with
  | ok a d =>
    rw [hanswer'] at h
    cases h
  | error e d =>
    rw [hanswer'] at h
    cases h with
    | error isBehind _ _ =>
      obtain ⟨hexpected, hfound, hdetail, hline, hcolumn⟩ := isBehind
      exact ⟨e, d, hanswer', ParseError.ext hexpected hfound hline hcolumn hdetail⟩

end GridWalk
