import GridWalk.Text.Numeral
import Mathlib.Algebra.Group.Nat.Defs

/-!
# `GridWalk.Proofs.Text.Numeral`: the value of a run of digits

`Text.numeralValue?` drops the zeros in front of a run and refuses what is longer than ten digits
before it looks at the value. `numeralValue?_eq_some_iff` says that this is the decimal value of
the whole run whenever it fits, and nothing otherwise: eleven digits with no zero in front are
never too few.
-/

set_option autoImplicit false

namespace GridWalk.Text

/-- Zeros in front do not count. -/
theorem ofDigitChars_significant (run : List Char) :
    Nat.ofDigitChars 10 (significant run) 0 = Nat.ofDigitChars 10 run 0 := by
  unfold significant
  induction run with
  | nil => rfl
  | cons c cs ih =>
    rw [List.dropWhile_cons]
    split
    · next hzero =>
      rw [ih, beq_iff_eq.mp hzero, Nat.ofDigitChars_cons]
      rfl
    · rfl

/-- What counts of a run starts with no zero. -/
theorem significant_head_ne {run cs : List Char} {c : Char} (h : significant run = c :: cs) :
    c ≠ '0' := by
  have hhead := List.head?_dropWhile_not (· == '0') run
  rw [show run.dropWhile (· == '0') = c :: cs from h] at hhead
  intro hc
  simp [hc] at hhead

/-- A run whose first digit is no zero has at least the value that its length gives that
digit. -/
theorem pow_le_ofDigitChars {c : Char} (cs : List Char) (hc : c.isDigit = true) (hne : c ≠ '0') :
    10 ^ cs.length ≤ Nat.ofDigitChars 10 (c :: cs) 0 := by
  have hlow : 48 ≤ c.toNat := by
    simp only [Char.isDigit, Bool.and_eq_true, decide_eq_true_eq] at hc
    exact hc.1
  have hnot : c.toNat ≠ 48 := fun heq => hne (Char.toNat_inj.mp heq)
  have hdigit : 1 ≤ 10 * 0 + (c.toNat - '0'.toNat) := by
    have hzero : '0'.toNat = 48 := rfl
    omega
  -- The first digit alone is worth a power of ten for each digit after it.
  rw [Nat.ofDigitChars_cons, Nat.ofDigitChars_eq_ofDigitChars_zero]
  calc 10 ^ cs.length = 10 ^ cs.length * 1 := (Nat.mul_one _).symm
    _ ≤ 10 ^ cs.length * (10 * 0 + (c.toNat - '0'.toNat)) := Nat.mul_le_mul_left _ hdigit
    _ ≤ _ := Nat.le_add_right _ _

/-- A run that is too long once its zeros are dropped is too large. -/
theorem maxNumber_lt_of_length {run : List Char} (hrun : ∀ c ∈ run, c.isDigit = true)
    (hlen : 10 < (significant run).length) : maxNumber < Nat.ofDigitChars 10 run 0 := by
  rw [← ofDigitChars_significant]
  cases hsig : significant run with
  | nil => simp [hsig] at hlen
  | cons c cs =>
    have hmem : c ∈ significant run := by
      rw [hsig]
      exact List.mem_cons_self
    have hdigit := hrun c ((List.dropWhile_suffix (· == '0')).mem hmem)
    have hpow : 10 ^ 10 ≤ 10 ^ cs.length := by
      rw [hsig, List.length_cons] at hlen
      exact Nat.pow_le_pow_right (by omega) (by omega)
    have hvalue := pow_le_ofDigitChars cs hdigit (significant_head_ne hsig)
    -- Eleven digits start at 10 ^ 10, which is more than 2 ^ 31 - 1.
    unfold maxNumber
    omega

/-- A run of digits is read as its decimal value if that fits, and is refused otherwise. -/
theorem numeralValue?_eq_some_iff {run : List Char} {n : Nat}
    (hrun : ∀ c ∈ run, c.isDigit = true) :
    numeralValue? run = some n ↔ Nat.ofDigitChars 10 run 0 = n ∧ n ≤ maxNumber := by
  unfold numeralValue?
  by_cases hlen : 10 < (significant run).length
  · have hlarge := maxNumber_lt_of_length hrun hlen
    simp only [hlen, if_true, reduceCtorEq, false_iff]
    omega
  · simp only [hlen, if_false, ofDigitChars_significant]
    split <;> simp only [reduceCtorEq, false_iff, Option.some.injEq] <;> omega

/-- A run of digits is refused exactly when its decimal value does not fit. -/
theorem numeralValue?_eq_none_iff {run : List Char} (hrun : ∀ c ∈ run, c.isDigit = true) :
    numeralValue? run = none ↔ maxNumber < Nat.ofDigitChars 10 run 0 := by
  rw [Option.eq_none_iff_forall_ne_some]
  constructor
  · intro hnone
    refine Nat.lt_of_not_le fun hle => ?_
    exact hnone _ ((numeralValue?_eq_some_iff hrun).mpr ⟨rfl, hle⟩)
  · intro hlarge n hsome
    obtain ⟨rfl, hle⟩ := (numeralValue?_eq_some_iff hrun).mp hsome
    omega

/-- More digits never make a value smaller. -/
theorem ofDigitChars_le_append (run more : List Char) :
    Nat.ofDigitChars 10 run 0 ≤ Nat.ofDigitChars 10 (run ++ more) 0 := by
  rw [Nat.ofDigitChars_append, Nat.ofDigitChars_eq_ofDigitChars_zero (l := more)]
  have hpow : 0 < 10 ^ more.length := Nat.pow_pos (by decide)
  exact Nat.le_trans (Nat.le_mul_of_pos_left _ hpow) (Nat.le_add_right _ _)

end GridWalk.Text
