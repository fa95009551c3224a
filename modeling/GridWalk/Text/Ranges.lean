/-!
# `GridWalk.Text.Ranges`: classes of code points

A class of characters is a table of ranges, both ends included. `CodeRange.Covers` says that
a code point lies in one of the ranges of a table. The classes of this library are such
tables: blanks, printable characters and decimal digits.
-/

set_option autoImplicit false

namespace GridWalk.Text

/-- A range of code points. Both ends belong to it. -/
structure CodeRange where
  first : Nat
  last : Nat

namespace CodeRange

/-- The code point `n` lies in the range. -/
def has (r : CodeRange) (n : Nat) : Bool :=
  decide (r.first ≤ n) && decide (n ≤ r.last)

/-- The code point of `c` lies in some range of the table. -/
def covers (table : List CodeRange) (c : Char) : Bool :=
  table.any fun r => r.has c.toNat

/-- A table covers a character exactly when one of its ranges does. -/
theorem covers_iff {table : List CodeRange} {c : Char} :
    covers table c = true ↔ ∃ r ∈ table, r.first ≤ c.toNat ∧ c.toNat ≤ r.last := by
  simp [covers, has]

end CodeRange

end GridWalk.Text
