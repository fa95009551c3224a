import GridWalk.Text.Lines
import GridWalk.Text.Quoted

/-!
# `GridWalk.Proofs.Text.Plain`: texts that stay on one line

A text is plain when all its characters are printable. No line break is printable, so a plain text
is one line, and lines that are plain can be told apart again once they are joined. Literals,
decimals and quoted texts are plain, whatever was quoted.

* `isLineBreak_eq_false`: printable characters break no lines.
* `plain_append`, `plain_toString` and `plain_quotedChars`: what messages are made of.
* `lines_intercalate` and `splitOn_intercalate`: joined lines are the same lines when they are split
  again.
-/

set_option autoImplicit false

namespace GridWalk.Text

/-- All characters of the text are printable. -/
def Plain (text : String) : Prop :=
  ∀ c ∈ text.toList, isPrintable c = true

instance (text : String) : Decidable (Plain text) :=
  decidable_of_iff (text.toList.all isPrintable = true) List.all_eq_true

/-- Printable characters break no lines. -/
theorem isLineBreak_eq_false {c : Char} (h : isPrintable c = true) : isLineBreak c = false := by
  rw [Bool.eq_false_iff]
  intro hbreak
  have hrange : ((10 ≤ c.toNat ∧ c.toNat ≤ 13) ∨ (28 ≤ c.toNat ∧ c.toNat ≤ 30)) ∨
      c.toNat = 133 ∨ c.toNat = 8232 ∨ c.toNat = 8233 := by
    simp [isLineBreak, CodeRange.covers, CodeRange.has, lineBreaks] at hbreak
    omega
  -- The breaks are so few that each of them can be looked up.
  have hnone : ∀ n ∈ List.range' 10 4 ++ List.range' 28 3 ++ [133, 8232, 8233],
      isPrintable (Char.ofNat n) = false := by
    decide
  have hmem : c.toNat ∈ List.range' 10 4 ++ List.range' 28 3 ++ [133, 8232, 8233] := by
    simp
    omega
  have hplain := hnone _ hmem
  rw [Char.ofNat_toNat, h] at hplain
  cases hplain

/-! ### What messages are made of -/

/-- Two texts in a row are plain when both are. -/
theorem plain_append {s t : String} : Plain (s ++ t) ↔ Plain s ∧ Plain t := by
  simp only [Plain, String.toList_append, List.mem_append, or_imp, forall_and]

/-- The digits of a number are printable, in any base up to 16. -/
theorem isPrintable_of_mem_toDigits {b n : Nat} {c : Char} (hb : 1 < b) (hmax : b ≤ 16)
    (hc : c ∈ Nat.toDigits b n) : isPrintable c = true := by
  have hdigit : ∀ m < 16, isPrintable (Nat.digitChar m) = true := by decide
  induction n using Nat.strongRecOn with
  | ind n ih =>
    rw [Nat.toDigits_eq_if hb] at hc
    split at hc
    · next hsmall =>
      rw [List.mem_singleton.mp hc]
      exact hdigit n (by omega)
    · next hlarge =>
      rcases List.mem_append.mp hc with hc | hc
      · exact ih (n / b) (Nat.div_lt_self (by omega) hb) hc
      · have hlast : n % b < b := Nat.mod_lt n (by omega)
        rw [List.mem_singleton.mp hc]
        exact hdigit (n % b) (by omega)

/-- Decimals are plain. -/
theorem plain_toString (n : Int) : Plain (toString n) := by
  have hrepr (m : Nat) : Plain m.repr := by
    intro c hc
    rw [Nat.toList_repr] at hc
    exact isPrintable_of_mem_toDigits (by decide) (by decide) hc
  cases n with
  | ofNat m => exact hrepr m
  | negSucc m => exact plain_append.mpr ⟨by decide, hrepr m.succ⟩

/-- Hexadecimal digits are printable. -/
theorem isPrintable_of_mem_hexDigits {width n : Nat} {c : Char} (hc : c ∈ hexDigits width n) :
    isPrintable c = true := by
  rw [hexDigits, List.leftpad, List.mem_append] at hc
  rcases hc with hc | hc
  · rw [List.eq_of_mem_replicate hc]
    decide
  · exact isPrintable_of_mem_toDigits (by decide) (by decide) hc

/-- Any character becomes printable between quotes that are. -/
theorem isPrintable_of_mem_quotedChar {quote c d : Char} (hquote : isPrintable quote = true)
    (hd : d ∈ quotedChar quote c) : isPrintable d = true := by
  have hbackslash : isPrintable '\\' = true := by decide
  have hletters : ∀ e ∈ ['n', 'r', 't', 'x', 'u', 'U'], isPrintable e = true :=
    List.all_eq_true.mp (by decide)
  unfold quotedChar at hd
  split at hd
  · next hspecial =>
    have hc : isPrintable c = true := by
      rcases hspecial with rfl | rfl
      · exact hquote
      · exact hbackslash
    simp only [List.mem_cons, List.not_mem_nil, or_false] at hd
    rcases hd with rfl | rfl
    · exact hbackslash
    · exact hc
  · -- What is left is the character itself, or an escape of letters and digits.
    repeat' split at hd
    all_goals
      simp only [List.mem_cons, List.not_mem_nil, or_false] at hd
      grind [isPrintable_of_mem_hexDigits]

/-- A quoted text is plain, whatever it is. -/
theorem plain_quotedChars (text : List Char) : Plain (String.ofList (quotedChars text)) := by
  have hquote : isPrintable (quoteFor text) = true := by
    unfold quoteFor
    split <;> decide
  intro c hc
  rw [String.toList_ofList, quotedChars, List.cons_append, List.mem_cons, List.mem_append,
    List.mem_flatMap, List.mem_singleton] at hc
  rcases hc with rfl | ⟨d, -, hc⟩ | rfl
  · exact hquote
  · exact isPrintable_of_mem_quotedChar hquote hc
  · exact hquote

/-! ### Lines that are joined and split again -/

/-- A line that goes on without a break up to the end of the text. -/
theorem linesAfter_of_no_break {xs line : List Char} (h : ∀ c ∈ xs, isLineBreak c = false)
    (hne : line.reverse ++ xs ≠ []) : linesAfter line xs = [line.reverse ++ xs] := by
  induction xs generalizing line with
  | nil => simp_all [linesAfter]
  | cons c xs ih =>
    have hc : isLineBreak c = false := h c List.mem_cons_self
    rw [linesAfter]
    · simp [hc, ih fun d hd => h d (List.mem_cons_of_mem c hd)]
    · rintro rest rfl
      cases hc

/-- A line that goes on without a break up to a line feed. -/
theorem linesAfter_append {xs rest line : List Char} (h : ∀ c ∈ xs, isLineBreak c = false) :
    linesAfter line (xs ++ '\n' :: rest) = (line.reverse ++ xs) :: linesAfter [] rest := by
  induction xs generalizing line with
  | nil =>
    rw [List.nil_append, linesAfter]
    · simp [isLineBreak_lineEnds.1]
    · simp
  | cons c xs ih =>
    have hc : isLineBreak c = false := h c List.mem_cons_self
    rw [List.cons_append, linesAfter]
    · simp [hc, ih fun d hd => h d (List.mem_cons_of_mem c hd)]
    · rintro rest rfl
      cases hc

/-- Lines that are joined by line feeds are the same lines when they are split at all breaks. -/
theorem lines_intercalate {ls : List String} (hplain : ∀ l ∈ ls, Plain l)
    (hne : ∀ l ∈ ls, l ≠ "") : lines ("\n".intercalate ls) = ls := by
  have hbreaks : ∀ l ∈ ls, ∀ c ∈ l.toList, isLineBreak c = false := by
    intro l hl c hc
    exact isLineBreak_eq_false (hplain l hl c hc)
  have hchars : linesAfter [] ("\n".intercalate ls).toList = ls.map String.toList := by
    rw [String.toList_intercalate]
    induction ls with
    | nil => rfl
    | cons l ls ih =>
      rw [List.forall_mem_cons] at hplain hne hbreaks
      cases ls with
      | nil =>
        have hl : ([] : List Char).reverse ++ l.toList ≠ [] := by simpa using hne.1
        rw [List.map_singleton, List.intercalate_singleton]
        exact linesAfter_of_no_break hbreaks.1 hl
      | cons l' ls =>
        rw [List.map_cons, List.map_cons, List.intercalate_cons_cons, List.append_assoc]
        exact (linesAfter_append hbreaks.1).trans
          (congrArg (l.toList :: ·) (ih hplain.2 hne.2 hbreaks.2))
  rw [lines, hchars, List.map_map]
  simp [Function.comp_def]

/-- They are the same lines when they are split at line feeds, if there is a line at all. -/
theorem splitOn_intercalate {ls : List String} (hplain : ∀ l ∈ ls, Plain l) (hls : ls ≠ []) :
    (("\n".intercalate ls).toList.splitOn '\n').map String.ofList = ls := by
  have hfeeds : ∀ cs ∈ ls.map String.toList, '\n' ∉ cs := by
    intro cs hcs hmem
    obtain ⟨l, hl, rfl⟩ := List.mem_map.mp hcs
    exact absurd (hplain l hl '\n' hmem) (by decide)
  have hchars : ("\n".intercalate ls).toList.splitOn '\n' = ls.map String.toList := by
    rw [String.toList_intercalate]
    exact List.splitOn_intercalate '\n' hfeeds (by simpa using hls)
  rw [hchars, List.map_map]
  simp [Function.comp_def]

end GridWalk.Text
