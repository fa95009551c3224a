import GridWalk.Scan.Rule

/-!
# `GridWalk.Scan.Progress`: rules use up the text

A rule is `Steady` when no success leaves the cursor further from the end of the text than it
was, and `Eager` when every success leaves it nearer. An eager rule can be repeated: `Rule.many`
ends because each round brings the end nearer.
-/

set_option autoImplicit false

namespace GridWalk.Rule

variable {α β : Type}

/-- No success leaves more to read. -/
def Steady (r : Rule α) : Prop :=
  ∀ ⦃c : Cursor⦄ ⦃a : α⦄ ⦃d : Cursor⦄, r c = .ok a d → d.remaining ≤ c.remaining

/-- Every success leaves less to read. -/
def Eager (r : Rule α) : Prop :=
  ∀ ⦃c : Cursor⦄ ⦃a : α⦄ ⦃d : Cursor⦄, r c = .ok a d → d.remaining < c.remaining

/-- An eager rule is steady. -/
theorem Eager.steady {r : Rule α} (h : r.Eager) : r.Steady :=
  fun _ _ _ hrun => Nat.le_of_lt (h hrun)

/-- A sequence succeeds when both parts do, one after the other. -/
theorem bind_eq_ok_iff {r : Rule α} {f : α → Rule β} {c d : Cursor} {b : β} :
    (r >>= f) c = .ok b d ↔ ∃ a e, r c = .ok a e ∧ f a e = .ok b d := by
  change EStateM.bind r f c = _ ↔ _
  unfold EStateM.bind
  cases r c with
  | ok a e =>
    constructor
    · intro h
      exact ⟨a, e, rfl, h⟩
    · rintro ⟨a', e', heq, h⟩
      cases heq
      exact h
  | error x e => simp

/-- A rule that reads nothing is steady. -/
theorem steady_pure (a : α) : Steady (pure a : Rule α) := by
  intro c b d h
  cases h
  exact Nat.le_refl _

/-- Steady rules in a row are steady. -/
theorem Steady.bind {r : Rule α} {f : α → Rule β} (hr : r.Steady) (hf : ∀ a, (f a).Steady) :
    (r >>= f).Steady := by
  intro c b d h
  obtain ⟨a, e, hre, hfe⟩ := bind_eq_ok_iff.mp h
  exact Nat.le_trans (hf a hfe) (hr hre)

/-- A row of rules is eager when the first one is. -/
theorem Eager.bind {r : Rule α} {f : α → Rule β} (hr : r.Eager) (hf : ∀ a, (f a).Steady) :
    (r >>= f).Eager := by
  intro c b d h
  obtain ⟨a, e, hre, hfe⟩ := bind_eq_ok_iff.mp h
  exact Nat.lt_of_le_of_lt (hf a hfe) (hr hre)

/-- A row of rules is eager when a later one is. -/
theorem Steady.bind_eager {r : Rule α} {f : α → Rule β} (hr : r.Steady)
    (hf : ∀ a, (f a).Eager) : (r >>= f).Eager := by
  intro c b d h
  obtain ⟨a, e, hre, hfe⟩ := bind_eq_ok_iff.mp h
  exact Nat.lt_of_lt_of_le (hf a hfe) (hr hre)

/-- A run that is read brings the end nearer. -/
theorem remaining_advance_lt {c : Cursor} {p : Char → Bool}
    (h : (c.rest.takeWhile p).isEmpty = false) :
    (c.advance (c.rest.takeWhile p).length).remaining < c.remaining := by
  have hle := (List.takeWhile_prefix p (l := c.rest)).length_le
  have hrest := c.length_rest_le
  have hpos : 0 < (c.rest.takeWhile p).length := by
    cases hrun : c.rest.takeWhile p with
    | nil => simp [hrun] at h
    | cons d ds => simp
  rw [Cursor.remaining_advance]
  omega

/-- A word that is not empty is used up. -/
theorem eager_literal {word : List Char} (hword : word ≠ []) (expected : String) :
    (literal word expected).Eager := by
  intro c a d h
  unfold literal at h
  split at h
  · next hstart =>
    cases h
    have := Cursor.length_le_remaining hstart
    have := List.length_pos_iff.mpr hword
    rw [Cursor.remaining_advance]
    omega
  · cases h

/-- At least one space is used up. -/
theorem eager_spaces (expected : String) : (spaces expected).Eager := by
  intro c a d h
  unfold spaces at h
  cases hrun : (c.rest.takeWhile (· == ' ')).isEmpty with
  | true => simp [hrun] at h
  | false =>
    simp only [hrun] at h
    cases h
    exact remaining_advance_lt hrun

/-- Blanks are used up, if there are any. -/
theorem steady_skipBlanks : skipBlanks.Steady := by
  intro c a d h
  cases h
  rw [Cursor.remaining_advance]
  exact Nat.sub_le _ _

/-- At least one digit is used up. -/
theorem eager_number (expected : String) : (number expected).Eager := by
  intro c n d h
  unfold number at h
  cases hrun : (c.rest.takeWhile Char.isDigit).isEmpty with
  | true => simp [hrun] at h
  | false =>
    simp only [hrun] at h
    split at h
    · cases h
    · split at h
      · cases h
        exact remaining_advance_lt hrun
      · cases h

/-- A line end is used up, if there is one. -/
theorem steady_optionalEndOfLine : optionalEndOfLine.Steady := by
  intro c b d h
  unfold optionalEndOfLine at h
  split at h
  · cases h
    rw [Cursor.remaining_advance]
    exact Nat.sub_le _ _
  · split at h <;> cases h
    · rw [Cursor.remaining_advance]
      exact Nat.sub_le _ _
    · exact Nat.le_refl _

/-- A line end is used up. -/
theorem steady_endOfLine (expected : String) : (endOfLine expected).Steady := by
  intro c u d h
  unfold endOfLine at h
  split at h
  · next e hopt =>
    cases h
    exact steady_optionalEndOfLine hopt
  · cases h
  · cases h

/-- The letter of a heading is used up. -/
theorem eager_heading (expected : String) : (heading expected).Eager := by
  intro c x d h
  unfold heading at h
  split at h
  · next y hy =>
    cases h
    have hrest : c.rest ≠ [] := by
      intro hnil
      simp [Cursor.peek, hnil] at hy
    have := List.length_pos_iff.mpr hrest
    have := c.length_rest_le
    rw [Cursor.remaining_advance]
    omega
  · cases h

/-- At least one command letter is used up. -/
theorem eager_commands (expected : String) : (commands expected).Eager := by
  intro c ks d h
  unfold commands at h
  cases hrun : (Command.readAll c.rest).isEmpty with
  | true => simp [hrun] at h
  | false =>
    simp only [hrun] at h
    cases h
    have hle := (Command.isPrefix_spell_readAll c.rest).length_le
    have hpos : Command.readAll c.rest ≠ [] := by
      intro hnil
      simp [hnil] at hrun
    have := List.length_pos_iff.mpr hpos
    have hrest := c.length_rest_le
    rw [Command.spell, List.length_map] at hle
    rw [Cursor.remaining_advance]
    omega

/-- Looking ahead uses up nothing. -/
theorem steady_aheadDigit (expected : String) : (aheadDigit expected).Steady := by
  intro c u d h
  unfold aheadDigit at h
  split at h <;> cases h
  exact Nat.le_refl _

/-- Repeats an eager rule as long as the cursor asks for another round, and collects what it
reads. The first failure ends the repetition as a failure. -/
def many (again : Cursor → Bool) (r : Rule α) (eager : r.Eager) (c : Cursor) :
    EStateM.Result ParseError Cursor (List α) :=
  if again c then
    match _h : r c with
    | .error e d => .error e d
    | .ok a d =>
      match many again r eager d with
      | .error e d' => .error e d'
      | .ok as d' => .ok (a :: as) d'
  else .ok [] c
termination_by c.remaining
decreasing_by exact eager _h

end GridWalk.Rule
