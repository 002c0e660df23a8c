/-!
# TOML values

The values of a TOML document, and the tables in which a document builds them. A table that a
longer header or a dotted key brought about can still be given its own header, or further dotted
keys, within the rules of the format; a value that is complete cannot be extended.
-/

namespace CallForest.Toml

/-- A value. Floats and date-times are kept as they are written. -/
inductive Value where
  | string (s : String)
  | integer (n : Int)
  | boolean (b : Bool)
  | float (text : String)
  | dateTime (text : String)
  | array (items : List Value)
  | table (entries : List (String × Value))

/-- What a key of a table under construction leads to. -/
inductive Item where
  /-- A complete value. -/
  | leaf (v : Value)
  /-- A table; `implicit` if nothing but its contents has defined it, `dotted` if dotted keys
  have. -/
  | table (implicit dotted : Bool) (entries : List (String × Item))
  /-- An array of tables, each with its entries. -/
  | tables (rows : List (List (String × Item)))

/-- A table under construction. -/
structure Table where
  implicit : Bool
  dotted : Bool
  entries : List (String × Item)

namespace Table

/-- The table that a header or a document opens. -/
def opened : Table := ⟨false, false, []⟩

/-- The table as an item. -/
def item (t : Table) : Item := .table t.implicit t.dotted t.entries

/-- What a key leads to. -/
def find? (key : String) (t : Table) : Option Item :=
  (t.entries.find? fun e => e.1 = key).map Prod.snd

/-- Sets what a key leads to; a new key comes last. -/
def set (key : String) (i : Item) (t : Table) : Table :=
  if t.entries.any fun e => e.1 = key then
    { t with entries := t.entries.map fun e => if e.1 = key then (key, i) else e }
  else { t with entries := t.entries ++ [(key, i)] }

/-- Changes the table at the end of a path, making the tables on the way that are missing. In an
array of tables the path goes through the last one. Dotted keys may not reach into a table that has
a header. -/
def alter (dotted : Bool) (change : Table → Option Table) : List String → Table → Option Table
  | [], t => change t
  | key :: path, t =>
    match t.find? key with
    | none => (alter dotted change path ⟨true, dotted, []⟩).map fun sub => t.set key sub.item
    | some (.leaf _) => none
    | some (.table implicit isDotted entries) =>
      if dotted && !implicit then none
      else
        (alter dotted change path ⟨implicit, isDotted, entries⟩).map fun sub => t.set key sub.item
    | some (.tables rows) =>
      match rows.getLast? with
      | none => none
      | some last =>
        (alter dotted change path ⟨false, false, last⟩).map fun sub =>
          t.set key (.tables (rows.dropLast ++ [sub.entries]))

/-- Enters a value under a dotted key. Keys with dots and keys without may not meet in one table,
and no key is entered twice. -/
def insert (path : List String) (key : String) (v : Value) : Table → Option Table :=
  alter true (fun t =>
    if t.dotted == path.isEmpty then none
    else
      match t.find? key with
      | some _ => none
      | none => some (t.set key (.leaf v))) path

/-- Opens the table of a header. -/
def openHeader (path : List String) (key : String) : Table → Option Table :=
  alter false (fun t =>
    match t.find? key with
    | none => some (t.set key opened.item)
    | some (.table true false entries) => some (t.set key (.table false false entries))
    | some _ => none) path

/-- Opens one more table of an array of tables. -/
def openRow (path : List String) (key : String) : Table → Option Table :=
  alter false (fun t =>
    match t.find? key with
    | none => some (t.set key (.tables [[]]))
    | some (.tables rows) => some (t.set key (.tables (rows ++ [[]])))
    | some _ => none) path

end Table

mutual

/-- The value of an item. -/
def Item.value : Item → Value
  | .leaf v => v
  | .table _ _ entries => .table (Item.entryValues entries)
  | .tables rows => .array (Item.rowValues rows)

/-- The values of entries. -/
def Item.entryValues : List (String × Item) → List (String × Value)
  | [] => []
  | (key, i) :: rest => (key, i.value) :: Item.entryValues rest

/-- The values of tables in an array. -/
def Item.rowValues : List (List (String × Item)) → List Value
  | [] => []
  | entries :: rest => .table (Item.entryValues entries) :: Item.rowValues rest

end

/-- The value of a finished table. -/
def Table.value (t : Table) : Value := t.item.value

end CallForest.Toml
