import CallForest.Text.Decimal
import CallForest.Tree.Walk

/-!
# Call trees as text and as JSON

The text form has one line per node. The JSON form is an array of objects with the keys `depth`,
`name` and `path`, one member to a line, each level of nesting indented by two spaces, and a newline
at the end. In a JSON string only the quote, the backslash and the characters below U+0020 are
escaped.
-/

namespace CallForest

/-- The forms in which a call tree is written. -/
inductive TreeFormat where
  | text
  | json
  deriving DecidableEq, Repr

namespace TreeFormat

/-- The extension of a file that holds a tree in this form. -/
def extension? : TreeFormat → Option String
  | text => none
  | json => some "json"

end TreeFormat

namespace Export

/-- The text form. -/
def text (lines : List TreeLine) : String :=
  String.join (lines.map fun l => l.text ++ "\n")

/-- A hexadecimal digit, in lower case. -/
def hexDigit (n : Nat) : Char :=
  if n < 10 then Char.ofNat (48 + n) else Char.ofNat (87 + n)

/-- A character inside a JSON string. -/
def jsonChar (c : Char) : List Char :=
  if c = '"' then ['\\', '"']
  else if c = '\\' then ['\\', '\\']
  else if c = '\n' then ['\\', 'n']
  else if c = '\r' then ['\\', 'r']
  else if c = '\t' then ['\\', 't']
  else if c.toNat = 8 then ['\\', 'b']
  else if c.toNat = 12 then ['\\', 'f']
  else if c.toNat < 32 then
    ['\\', 'u', '0', '0', hexDigit (c.toNat / 16), hexDigit (c.toNat % 16)]
  else [c]

/-- A JSON string. -/
def jsonString (s : String) : List Char :=
  '"' :: (s.toList.flatMap jsonChar ++ ['"'])

/-- A tree line as a JSON object, its first brace behind the indentation of an array member. -/
def jsonLine (l : TreeLine) : List Char :=
  "  \x7b\n    \"depth\": ".toList ++ Text.decimal l.depth ++
    ",\n    \"name\": ".toList ++ jsonString l.name ++
    ",\n    \"path\": ".toList ++ jsonString l.path ++ "\n  \x7d".toList

/-- Array members, with a comma and a newline between neighbours. -/
def jsonMembers : List TreeLine → List Char
  | [] => []
  | [l] => jsonLine l
  | l :: m :: ls => jsonLine l ++ ",\n".toList ++ jsonMembers (m :: ls)

/-- The JSON form. -/
def json (lines : List TreeLine) : String :=
  String.ofList
    (if lines.isEmpty then "[]\n".toList
     else "[\n".toList ++ jsonMembers lines ++ "\n]\n".toList)

end Export

/-- A call tree in the given form. -/
def TreeFormat.export (format : TreeFormat) (lines : List TreeLine) : String :=
  match format with
  | .text => Export.text lines
  | .json => Export.json lines

end CallForest
