import GridWalk.Scan.Cursor

/-!
# `GridWalk.Proofs.Scan.Inside`: cursors in their text

A whole text is read by cursors that stand in the text or at its end. For these, what is left to
read is the end of the text, the look-ahead is a prefix test, and a step drops characters.

* `Cursor.Inside.startsWith_iff`: the look-ahead is a prefix test.
* `Cursor.Inside.rest_advance`: a step drops characters.
* `Cursor.Leads.eq_of_rest_eq`: in one text, the unread rest tells cursors apart.
-/

set_option autoImplicit false

namespace GridWalk.Cursor

open GridWalk.Text (readFrom)

/-- The cursor stands in its text or at the end of it. -/
structure Inside (c : Cursor) : Prop where
  nonneg : 0 ≤ c.pos
  le_length : c.pos ≤ c.text.length

/-- The cursor `d` stands somewhere in the text of `c`. -/
structure Leads (c d : Cursor) : Prop where
  text_eq : d.text = c.text
  inside : d.Inside

/-- A reader starts inside. -/
theorem inside_start (text : List Char) : (start text).Inside :=
  ⟨Int.le_refl 0, Int.natCast_nonneg _⟩

variable {c d e : Cursor} {taken rest : List Char}

/-- What is left to read is the end of the text. -/
theorem Inside.rest_eq_drop (h : c.Inside) : c.rest = c.text.drop c.pos.toNat := by
  rw [c.rest_eq, readFrom, if_pos h.nonneg]

/-- The offset and what is left make up the text. -/
theorem Inside.pos_add_length_rest (h : c.Inside) : c.pos + c.rest.length = c.text.length := by
  have hnonneg := h.nonneg
  have hle := h.le_length
  rw [h.rest_eq_drop, List.length_drop]
  omega

/-- The look-ahead is a prefix test. -/
theorem Inside.startsWith_iff {word : List Char} (h : c.Inside) :
    c.startsWith word = true ↔ word <+: c.rest := by
  have hahead : c.ahead = c.rest := if_pos h.nonneg
  simp [startsWith, hahead, h.le_length]

/-- A cursor inside is never in front of all that can be read. -/
theorem Inside.isOutside_eq_false (h : c.Inside) : c.isOutside = false := by
  have hnonneg := h.nonneg
  simp only [isOutside, Bool.and_eq_false_iff, decide_eq_false_iff_not]
  exact .inl (by omega)

/-- A step drops characters. -/
theorem Inside.rest_advance (h : c.Inside) (n : Nat) : (c.advance n).rest = c.rest.drop n := by
  unfold advance
  rw [dif_neg (by rw [h.isOutside_eq_false]; exact Bool.false_ne_true)]

/-- A step over something that is there leaves the rest. -/
theorem Inside.rest_advance_length (h : c.Inside) (hrest : c.rest = taken ++ rest) :
    (c.advance taken.length).rest = rest := by
  rw [h.rest_advance, hrest, List.drop_left]

/-- A step over something that is there stays inside. -/
theorem Inside.leads_advance (h : c.Inside) (hrest : c.rest = taken ++ rest) :
    c.Leads (c.advance taken.length) := by
  have hsum := h.pos_add_length_rest
  have hnonneg := h.nonneg
  rw [hrest, List.length_append] at hsum
  refine ⟨text_advance c _, ?_, ?_⟩
  · rw [pos_advance]
    omega
  · rw [pos_advance, text_advance]
    omega

/-- Every end of the rest is the rest of some cursor. -/
theorem Inside.exists_leads (h : c.Inside) (hrest : rest <:+ c.rest) :
    ∃ e, c.Leads e ∧ e.rest = rest := by
  obtain ⟨taken, htaken⟩ := hrest
  exact ⟨c.advance taken.length, h.leads_advance htaken.symm, h.rest_advance_length htaken.symm⟩

/-- A cursor inside leads to itself. -/
theorem Inside.leads_self (h : c.Inside) : c.Leads c :=
  ⟨rfl, h⟩

/-- Leading on and on stays in one text. -/
theorem Leads.trans (hd : c.Leads d) (he : d.Leads e) : c.Leads e :=
  ⟨he.text_eq.trans hd.text_eq, he.inside⟩

/-- The unread rest tells the cursors of one text apart. -/
theorem Leads.eq_of_rest_eq (hd : c.Leads d) (he : c.Leads e) (hrest : d.rest = e.rest) :
    d = e := by
  have htext : d.text = e.text := hd.text_eq.trans he.text_eq.symm
  -- The offset is what the length of the rest leaves of the text, so equal rests are enough.
  have hsumd := hd.inside.pos_add_length_rest
  have hsume := he.inside.pos_add_length_rest
  rw [hrest, htext] at hsumd
  exact eq_of_pos_eq htext (by omega)

end GridWalk.Cursor
