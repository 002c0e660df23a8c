import CallForest.Toml.Scalar

/-!
# TOML documents

A document is read line by line: entries go into the table of the last header. The readers of nested
values are bounded by the length of the text, and values and dotted keys nest only to a fixed depth.
-/

namespace CallForest.Toml

/-- How deep values may nest, and how many names a dotted key may have. -/
def maxDepth : Nat := 79

mutual

/-- Reads a value. The first argument bounds the steps, the second the depth that is left. -/
def value : Nat → Nat → List Char → Option (Value × List Char)
  | 0, _, _ => none
  | steps + 1, depth, cs =>
    match cs with
    | [] => none
    | c :: rest =>
      if c = '"' ∨ c = '\'' then
        (string cs).map fun (s, rest) => (.string (String.ofList s), rest)
      else if c = '[' then
        match depth with
        | 0 => none
        | depth + 1 => (arrayFrom steps depth rest).map fun (vs, rest) => (.array vs, rest)
      else if c = '\x7b' then
        match depth with
        | 0 => none
        | depth + 1 =>
          (inlineFrom steps depth .opened true rest).map fun (t, rest) => (t.value, rest)
      else if c = 't' then (keyword? "true" cs).map fun rest => (.boolean true, rest)
      else if c = 'f' then (keyword? "false" cs).map fun rest => (.boolean false, rest)
      else if c = 'i' ∨ c = 'n' then specialFloat cs
      else if c = '+' ∨ c = '-' ∨ c.isDigit then numeric cs
      else none

/-- Reads the values of an array on. -/
def arrayFrom : Nat → Nat → List Char → Option (List Value × List Char)
  | 0, _, _ => none
  | steps + 1, depth, cs =>
    match skipSpace cs.length cs with
    | ']' :: rest => some ([], rest)
    | cs => do
      let (v, rest) ← value steps depth cs
      match skipSpace rest.length rest with
      | ']' :: rest => return ([v], rest)
      | ',' :: rest =>
        let (vs, rest) ← arrayFrom steps depth rest
        return (v :: vs, rest)
      | _ => none

/-- Reads the entries of a table in braces on. The flag tells whether the table may end here. -/
def inlineFrom : Nat → Nat → Table → Bool → List Char → Option (Table × List Char)
  | 0, _, _, _, _ => none
  | steps + 1, depth, t, mayEnd, cs =>
    match mayEnd, skipBlanks cs with
    | true, '\x7d' :: rest => some (t, rest)
    | _, cs => do
      let (path, key, v, rest) ← entry steps depth cs
      let t ← t.insert path key v
      match skipBlanks rest with
      | '\x7d' :: rest => return (t, rest)
      | ',' :: rest => inlineFrom steps depth t false rest
      | _ => none

/-- Reads a key and its value: the names before the last dot, the last name, and the value. -/
def entry : Nat → Nat → List Char → Option (List String × String × Value × List Char)
  | 0, _, _ => none
  | steps + 1, depth, cs => do
    let (names, rest) ← dottedKey maxDepth cs
    let key ← names.getLast?
    match skipBlanks rest with
    | '=' :: rest =>
      let (v, rest) ← value steps depth (skipBlanks rest)
      return (names.dropLast, key, v, rest)
    | _ => none

end

/-- A document that is being read: its root table, and the path of the last header. -/
structure Draft where
  root : Table
  header : List String

/-- Enters a value into the table of the last header. -/
def Draft.insert (d : Draft) (path : List String) (key : String) (v : Value) : Option Draft :=
  (Table.alter false (fun t => t.insert path key v) d.header d.root).map fun root =>
    { d with root := root }

/-- Reads a header up to its closing brackets: its names, and the rest behind them. -/
def header (closing : String) (cs : List Char) : Option (List String × List Char) := do
  let (names, rest) ← dottedKey maxDepth cs
  let rest ← closing.toList.isPrefixOf? rest
  return (names, ← endLine rest)

/-- Reads a document on. The first argument bounds the number of lines. -/
def documentFrom : Nat → Draft → List Char → Option Table
  | 0, _, _ => none
  | lines + 1, d, cs =>
    match skipBlanks cs with
    | [] => some d.root
    | '#' :: rest => do documentFrom lines d (← endLine ('#' :: rest))
    | '[' :: '[' :: rest => do
      let (names, rest) ← header "]]" rest
      let root ← d.root.openRow names.dropLast (← names.getLast?)
      documentFrom lines ⟨root, names⟩ rest
    | '[' :: rest => do
      let (names, rest) ← header "]" rest
      let root ← d.root.openHeader names.dropLast (← names.getLast?)
      documentFrom lines ⟨root, names⟩ rest
    | cs =>
      match lineEnd? cs with
      | some rest => documentFrom lines d rest
      | none => do
        let (path, key, v, rest) ← entry (4 * cs.length + 4) maxDepth cs
        documentFrom lines (← d.insert path key v) (← endLine rest)

/-- Drops the byte order mark in front of a text. -/
def dropMark : List Char → List Char
  | c :: cs => if c.toNat = 0xFEFF then cs else c :: cs
  | [] => []

/-- Reads a document; none if the text is no TOML. -/
def parse (text : String) : Option Value :=
  let cs := dropMark text.toList
  (documentFrom (cs.length + 1) ⟨.opened, []⟩ cs).map Table.value

end CallForest.Toml
