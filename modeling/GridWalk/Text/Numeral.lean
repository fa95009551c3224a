/-!
# `GridWalk.Text.Numeral`: decimal numerals

A numeral is a run of ASCII digits. Its value counts only when it fits 31 bits. Zeros in front
do not matter, and a run with more than ten other digits is refused by its length alone.
-/

set_option autoImplicit false

namespace GridWalk.Text

/-- The largest number that a document may hold. -/
def maxNumber : Nat := 2147483647

/-- The digits of a run after its zeros in front. -/
def significant (run : List Char) : List Char :=
  run.dropWhile (· == '0')

/-- The value of a run of digits, or `none` when it exceeds `maxNumber`. The length is looked
at before the value, since ten digits are enough for `maxNumber`. -/
def numeralValue? (run : List Char) : Option Nat :=
  let digits := significant run
  if 10 < digits.length then none
  else
    let value := Nat.ofDigitChars 10 digits 0
    if maxNumber < value then none else some value

end GridWalk.Text
