import GridWalk.Text.Quoted

/-!
# `GridWalk.Text.Json`: JSON text

A JSON value and its two printed forms. The compact form holds no blanks. The indented form
puts each member on its own line, two spaces deeper than its parent, and prints an empty list
as `[]`. Members of an object keep their order.
-/

set_option autoImplicit false

namespace GridWalk.Text

/-- The JSON values that reports consist of. -/
inductive Json
  | bool (value : Bool)
  | number (value : Int)
  | text (value : String)
  | list (items : List Json)
  | object (members : List (String × Json))

namespace Json

/-- One character inside a JSON string. Quotes, backslashes and control characters below
U+0020 are escaped, all else stands as it is. -/
def escapedChar (c : Char) : List Char :=
  if c = doubleQuote then ['\\', doubleQuote]
  else if c = '\\' then ['\\', '\\']
  else if c.toNat = 0x08 then ['\\', 'b']
  else if c = '\t' then ['\\', 't']
  else if c = '\n' then ['\\', 'n']
  else if c.toNat = 0x0C then ['\\', 'f']
  else if c = '\r' then ['\\', 'r']
  else if c.toNat < 0x20 then '\\' :: 'u' :: hexDigits 4 c.toNat
  else [c]

/-- A JSON string. -/
def string (s : String) : String :=
  String.ofList (doubleQuote :: s.toList.flatMap escapedChar ++ [doubleQuote])

/-- Texts with commas between them. -/
def commaSeparated (texts : List String) : String :=
  ",".intercalate texts

mutual

/-- The compact form. -/
def compact : Json → String
  | bool b => if b then "true" else "false"
  | number n => toString n
  | text s => string s
  | list items => "[" ++ commaSeparated (compactItems items) ++ "]"
  | object members => "\x7b" ++ commaSeparated (compactMembers members) ++ "\x7d"

/-- The compact forms of the items of a list. -/
def compactItems : List Json → List String
  | [] => []
  | item :: rest => compact item :: compactItems rest

/-- The members of an object, each as `"name":value`. -/
def compactMembers : List (String × Json) → List String
  | [] => []
  | (name, value) :: rest => (string name ++ ":" ++ compact value) :: compactMembers rest

end

/-- A line break and the indentation of the level. -/
def lineBreak (level : Nat) : String :=
  "\n" ++ String.ofList (List.replicate (2 * level) ' ')

/-- The lines of a list or an object at `level`, between its two brackets. -/
def block (level : Nat) (opening closing : String) (lines : List String) : String :=
  if lines.isEmpty then opening ++ closing
  else
    opening ++ commaSeparated (lines.map (lineBreak (level + 1) ++ ·)) ++ lineBreak level
      ++ closing

mutual

/-- The indented form of a value that stands at `level`. -/
def indentedAt (level : Nat) : Json → String
  | bool b => if b then "true" else "false"
  | number n => toString n
  | text s => string s
  | list items => block level "[" "]" (indentedItems (level + 1) items)
  | object members => block level "\x7b" "\x7d" (indentedMembers (level + 1) members)

/-- The indented forms of the items of a list. -/
def indentedItems (level : Nat) : List Json → List String
  | [] => []
  | item :: rest => indentedAt level item :: indentedItems level rest

/-- The members of an object, each as `"name": value`. -/
def indentedMembers (level : Nat) : List (String × Json) → List String
  | [] => []
  | (name, value) :: rest =>
    (string name ++ ": " ++ indentedAt level value) :: indentedMembers level rest

end

/-- The indented form. -/
def indented (value : Json) : String :=
  indentedAt 0 value

end Json

end GridWalk.Text
