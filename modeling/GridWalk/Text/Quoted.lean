import GridWalk.Text.Printable

/-!
# `GridWalk.Text.Quoted`: quoted text in messages

Messages show text that came from outside in quotes. The quote is the apostrophe, or the
double quote when the text holds an apostrophe and no double quote. The backslash, the quote
in use and every character that is not printable are escaped, so a quoted text is always one
line of printable characters.
-/

set_option autoImplicit false

namespace GridWalk.Text

/-- The apostrophe. -/
def apostrophe : Char := '\x27'

/-- The double quote. -/
def doubleQuote : Char := '\x22'

/-- The lower-case hexadecimal digits of `n`, with zeros in front up to `width` digits. -/
def hexDigits (width n : Nat) : List Char :=
  (Nat.toDigits 16 n).leftpad width '0'

/-- The quote for a text. -/
def quoteFor (text : List Char) : Char :=
  if text.contains apostrophe && !text.contains doubleQuote then doubleQuote else apostrophe

/-- One character as it stands between two quotes `quote`. -/
def quotedChar (quote c : Char) : List Char :=
  if c = quote ∨ c = '\\' then ['\\', c]
  else if c = '\n' then ['\\', 'n']
  else if c = '\r' then ['\\', 'r']
  else if c = '\t' then ['\\', 't']
  else if isPrintable c then [c]
  else if c.toNat < 0x100 then '\\' :: 'x' :: hexDigits 2 c.toNat
  else if c.toNat < 0x10000 then '\\' :: 'u' :: hexDigits 4 c.toNat
  else '\\' :: 'U' :: hexDigits 8 c.toNat

/-- A text in its quotes, as a list of characters. -/
def quotedChars (text : List Char) : List Char :=
  quoteFor text :: text.flatMap (quotedChar (quoteFor text)) ++ [quoteFor text]

/-- A text in its quotes. -/
def quoted (text : String) : String :=
  String.ofList (quotedChars text.toList)

/-- Words that start with no quote are not a text in quotes. -/
theorem ofList_quotedChars_ne {text : List Char} {words : String}
    (h : words.toList.head? ≠ some apostrophe) (h' : words.toList.head? ≠ some doubleQuote) :
    String.ofList (quotedChars text) ≠ words := by
  intro heq
  have hhead : words.toList.head? = some (quoteFor text) := by
    rw [← heq, String.toList_ofList]
    rfl
  unfold quoteFor at hhead
  split at hhead
  · exact h' hhead
  · exact h hhead

end GridWalk.Text
