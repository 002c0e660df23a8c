import CallForest.Program.Numeral

/-!
# Variables of scripts

A variable has a value or, in the extended language, values with keys: numbers in a list, texts in a
table. It may be marked: as seen by programs, as never to be changed, and with letters that tell
what is done to values that it is given.

Variables are found by a number that their names come to; where all of them are listed they stand in
the order of those numbers.
-/

namespace CallForest.Shell

/-- Values with keys. -/
inductive Elements where
  /-- The keys rise. -/
  | list (items : List (Nat × Octets))
  /-- The latest key stands first. -/
  | table (items : List (Octets × Octets))

/-- A variable; it may have no value and yet be marked. -/
structure Variable where
  name : String
  value : Option Octets
  elements : Option Elements
  exported : Bool
  readOnly : Bool
  /-- `i` for calculations, `l`, `u` and `c` for small, large and first large letters, `n` for the
  name of another variable, `t` for nothing; a question mark if it has had no values yet. -/
  marks : List Char

/-- The number that decimal digits come to. -/
def keyNumber (key : Octets) : Nat := (Numeral.digitsFrom 10 0 key).1

/-- The number of 32 bits that the bytes of a text come to, each of which is mixed with the product
of those before and a prime. -/
def mixed (s : Octets) : Nat :=
  s.foldl (fun n c => Nat.xor (n * 16777619 % 4294967296) c.toNat) 2166136261

/-- How many places there are for keys. -/
def mixedPlaces : Nat := 1024

/-- The place of a key, which decides on the order in which tables and the variables of the extended
language are shown. -/
def mixedPlace (key : Octets) : Nat := mixed key % mixedPlaces

/-- The place of a name among thirty-nine, which decides on the order in which the variables and
aliases of the plain language are shown. -/
def summedPlace (name : String) : Nat :=
  let codes := name.toList.map Char.toNat
  codes.foldl (· + ·) (16 * codes.headD 0) % 39

namespace Elements

/-- The items with their keys as texts, in the order in which they are shown. -/
def items : Elements → List (Octets × Octets)
  | list items => items.map fun i => (Text.decimal i.1, i.2)
  | table items => items.mergeSort fun a b => mixedPlace a.1 ≤ mixedPlace b.1

/-- Whether the keys are texts. -/
def isTable : Elements → Bool
  | list _ => false
  | table _ => true

/-- The value of a key. -/
def get? (e : Elements) (key : Octets) : Option Octets :=
  match e with
  | list items => items.lookup (keyNumber key)
  | table items => items.lookup key

/-- Puts a value among those of numbers. -/
def insertAt (n : Nat) (value : Octets) : List (Nat × Octets) → List (Nat × Octets)
  | [] => [(n, value)]
  | (k, old) :: rest =>
    if k < n then (k, old) :: insertAt n value rest
    else if k = n then (n, value) :: rest
    else (n, value) :: (k, old) :: rest

/-- Gives a key a value. -/
def set (e : Elements) (key value : Octets) : Elements :=
  match e with
  | list items => .list (insertAt (keyNumber key) value items)
  | table items =>
    if items.any (·.1 = key) then
      .table (items.map fun i => if i.1 = key then (key, value) else i)
    else .table ((key, value) :: items)

/-- Takes a key away. -/
def erase (e : Elements) (key : Octets) : Elements :=
  match e with
  | list items => .list (items.filter fun i => i.1 ≠ keyNumber key)
  | table items => .table (items.filter fun i => i.1 ≠ key)

/-- The key behind the last one of a list. -/
def nextKey : Elements → Nat
  | list items => (items.getLast?.map fun i => i.1 + 1).getD 0
  | table _ => 0

/-- The list of values, from zero on. -/
def ofValues (values : List Octets) : Elements :=
  .list (values.zipIdx.map fun v => (v.2, v.1))

end Elements

namespace Variable

/-- A variable without a value. -/
def unset (name : String) : Variable := ⟨name, none, none, false, false, []⟩

/-- A variable that programs see. -/
def forPrograms (name : String) (value : Octets) : Variable :=
  ⟨name, some value, none, true, false, []⟩

/-- The value of a variable; that of the first key if it has several. -/
def text? (v : Variable) : Option Octets :=
  match v.elements with
  | none => v.value
  | some e => e.get? ['0']

/-- The values of a variable with their keys. -/
def items (v : Variable) : List (Octets × Octets) :=
  match v.elements, v.value with
  | some e, _ => e.items
  | none, some s => [(['0'], s)]
  | none, none => []

/-- Puts a mark on a variable or takes it away. -/
def withMark (v : Variable) (mark : Char) (value : Bool) : Variable :=
  let others := v.marks.filter (· ≠ mark)
  { v with marks := if value then others ++ [mark] else others }

/-- Gives a variable a value; of several, the first key gets it. -/
def withText (v : Variable) (s : Octets) : Variable :=
  match v.elements with
  | none => { v with value := some s }
  | some e => { v.withMark '?' false with elements := some (e.set ['0'] s) }

/-- The values of a variable as a list, or as the table that it is. -/
def elementsOrNew (v : Variable) : Elements :=
  match v.elements, v.value with
  | some e, _ => e
  | none, some s => .list [(0, s)]
  | none, none => .list []

/-- Gives a key of a variable a value. -/
def withElement (v : Variable) (key value : Octets) : Variable :=
  { v.withMark '?' false with value := none, elements := some (v.elementsOrNew.set key value) }

/-- A value with its letters as the variable wants them. -/
def lettered (v : Variable) (s : Octets) : Octets :=
  if v.marks.contains 'l' then s.map Char.toLower
  else if v.marks.contains 'u' then s.map Char.toUpper
  else if v.marks.contains 'c' then
    match s with
    | [] => []
    | c :: cs => c.toUpper :: cs.map Char.toLower
  else s

end Variable

end CallForest.Shell
