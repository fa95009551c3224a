import GridWalk.Proofs.Grammar
import Mathlib

/-!
# `GridWalk.Proofs.Text.Fields`: what stands before a stop can be read back

Messages are words with values between them. A value can be read back if what follows it cannot
belong to it: a decimal ends in front of any character that is neither a digit nor a sign. So two
texts that start with decimals and stops are the same only if the decimals and the rests are.

All statements speak of a field together with the text behind it. In this form fields in a row are
taken off one by one, the first one first.

* `run_append_inj`: a run of characters of one class, and what follows it.
* `toString_append_inj`: a decimal, and what follows it.
* `char_append_inj`: a single character, and what follows it.
* `takeWhile_append_of_stop`: the word that a text starts with.
-/

set_option autoImplicit false

namespace GridWalk.Text

open GridWalk.Grammar (Stops stops_cons takeWhile_run)

/-- Two texts that start with runs of one class are the same if the runs and the rests are. -/
theorem run_append_inj {p : Char → Bool} {run run' rest rest' : List Char}
    (hrun : ∀ c ∈ run, p c = true) (hrun' : ∀ c ∈ run', p c = true) (hstops : Stops p rest)
    (hstops' : Stops p rest') : run ++ rest = run' ++ rest' ↔ run = run' ∧ rest = rest' := by
  constructor
  · intro h
    -- Each run is the longest one in front of its text, so equal texts have equal runs.
    have heq : run = run' := by
      rw [← takeWhile_run hrun hstops, h, takeWhile_run hrun' hstops']
    subst heq
    exact ⟨rfl, List.append_cancel_left h⟩
  · rintro ⟨rfl, rfl⟩
    rfl

/-- Two texts that start with a character are the same if the characters and the rests are. -/
theorem char_append_inj (c d : Char) {r s : String} :
    c.toString ++ r = d.toString ++ s ↔ c = d ∧ r = s := by
  have hcons (e : Char) (t : String) : (e.toString ++ t).toList = e :: t.toList := by
    simp [Char.toString_eq_singleton]
  rw [← String.toList_inj, hcons, hcons, List.cons.injEq, String.toList_inj]

/-- A word that ends inside of the start of a text is the same word whatever follows the start. -/
theorem takeWhile_append_of_stop {p : Char → Bool} {start word : String}
    (h : start.toList.takeWhile p = word.toList ∧ start.toList.all p = false) (rest : String) :
    (start ++ rest).toList.takeWhile p = word.toList := by
  have hends : (start.toList.takeWhile p).length ≠ start.toList.length := by
    intro hlength
    have hwhole : start.toList.takeWhile p = start.toList :=
      (List.takeWhile_prefix p).eq_of_length hlength
    have hall : start.toList.all p = true :=
      List.all_eq_true.mpr (List.takeWhile_eq_self_iff.mp hwhole)
    rw [h.2] at hall
    cases hall
  rw [String.toList_append, List.takeWhile_append, if_neg hends, h.1]

/-! ### Decimals -/

/-- Decimals are made of digits, and of a sign when they are negative. -/
def isDecimalMark (c : Char) : Bool :=
  c.isDigit || c == '-'

/-- A decimal in front of the text ends where the text starts. -/
def EndsDecimal (text : String) : Prop :=
  Stops isDecimalMark text.toList

instance (text : String) : Decidable (EndsDecimal text) :=
  decidable_of_iff (text.toList.head?.all (fun c => !isDecimalMark c) = true) (by
    unfold EndsDecimal Stops
    cases text.toList.head? <;> simp)

/-- A word that ends a decimal does so whatever follows it. -/
theorem EndsDecimal.append {word : String} (hne : word ≠ "") (hword : EndsDecimal word)
    (text : String) : EndsDecimal (word ++ text) := by
  cases hchars : word.toList with
  | nil => exact absurd (String.toList_eq_nil_iff.mp hchars) hne
  | cons c cs =>
    unfold EndsDecimal at hword ⊢
    rw [hchars, stops_cons] at hword
    rw [String.toList_append, hchars, List.cons_append, stops_cons]
    exact hword

/-- What decimals are made of. -/
theorem isDecimalMark_of_mem_toString {n : Int} {c : Char} (hc : c ∈ (toString n).toList) :
    isDecimalMark c = true := by
  have hrepr (m : Nat) (hc : c ∈ m.repr.toList) : isDecimalMark c = true := by
    rw [Nat.toList_repr] at hc
    rw [isDecimalMark, Nat.isDigit_of_mem_toDigits (by decide) (by decide) hc, Bool.true_or]
  cases n with
  | ofNat m => exact hrepr m hc
  | negSucc m =>
    have hsign : (toString (Int.negSucc m)).toList = '-' :: m.succ.repr.toList :=
      String.toList_append
    rw [hsign, List.mem_cons] at hc
    rcases hc with rfl | hc
    · decide
    · exact hrepr m.succ hc

/-- Two texts that start with decimals are the same if the decimals and the rests are. -/
theorem toString_append_inj {m n : Int} {r s : String} (hr : EndsDecimal r) (hs : EndsDecimal s) :
    toString m ++ r = toString n ++ s ↔ m = n ∧ r = s := by
  rw [← String.toList_inj, String.toList_append, String.toList_append,
    run_append_inj (fun _ => isDecimalMark_of_mem_toString)
      (fun _ => isDecimalMark_of_mem_toString) hr hs, String.toList_inj, String.toList_inj,
    Int.toString_eq_repr, Int.toString_eq_repr, Int.repr_inj]

/-- Two decimals with the same word behind them. -/
theorem toString_append_word_inj {m n : Int} {word r s : String}
    (hword : word ≠ "" ∧ EndsDecimal word) :
    toString m ++ (word ++ r) = toString n ++ (word ++ s) ↔ m = n ∧ r = s := by
  rw [toString_append_inj (hword.2.append hword.1 r) (hword.2.append hword.1 s),
    String.append_right_inj]

end GridWalk.Text
