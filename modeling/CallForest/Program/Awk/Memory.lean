import CallForest.Program.Awk.Splitting

/-!
# What a script remembers

Variables are those of the whole script or of the function that is running. A name stands for a
value or for a table; what has not been used yet may become either. The record is rebuilt from its
fields when it is looked at after one of them has changed.
-/

namespace CallForest.Awk

/-- What a name stands for. -/
inductive Cell where
  | value (v : Value)
  | table (number : Nat)
  /-- It has not been used; the number is that of the table it becomes, if that is settled. -/
  | fresh (number : Option Nat)

/-- What is open, by its name: a file or a command. -/
structure Stream where
  isCommand : Bool
  name : Octets
  /-- What is still to be read of it or to be given to it. -/
  content : Octets

/-- What a script remembers. -/
structure Memory where
  globals : List (String × Cell)
  locals : List (String × Cell)
  tables : Array Table
  record : Octets
  isStale : Bool
  fields : List Value
  /-- What is printed but not written yet, the last first. -/
  printed : List Octets
  /-- Why something could not be written. -/
  outputProblem : Option OsError
  inputs : List Stream
  outputs : List Stream
  /-- What is left of the input at hand. -/
  input : Option Octets
  /-- The next argument that names an input, and whether one has done so. -/
  argument : Nat
  hasInput : Bool
  /-- The rules whose ranges have begun. -/
  begun : List Nat
  seed : Nat
  lastSeed : Value
  /-- The code with which the script ends. -/
  code : Nat

namespace Memory

/-! ## Variables -/

/-- What a name stands for. -/
def cell (m : Memory) (name : String) : Cell :=
  ((m.locals.lookup name).or (m.globals.lookup name)).getD (.fresh none)

/-- Lets a name stand for something. -/
def setCell (m : Memory) (name : String) (c : Cell) : Memory :=
  let replaced (all : List (String × Cell)) : List (String × Cell) :=
    if all.any fun e => e.1 = name then all.map fun e => if e.1 = name then (name, c) else e
    else (name, c) :: all
  if m.locals.any fun e => e.1 = name then { m with locals := replaced m.locals }
  else { m with globals := replaced m.globals }

/-- The value of a variable of the whole script. -/
def global (m : Memory) (name : String) : Value :=
  match m.globals.lookup name with
  | some (.value v) => v
  | _ => .nothing

/-- How numbers are turned into texts. -/
def format (m : Memory) : Octets := (m.global "CONVFMT").toText "%.6g".toList

/-- A value as a text. -/
def text (m : Memory) (v : Value) : Octets :=
  match v with
  | .text s | .read s => s
  | v => v.toText m.format

/-- The text of a variable of the whole script. -/
def globalText (m : Memory) (name : String) : Octets := m.text (m.global name)

/-- Gives a variable of the whole script a value. -/
def setGlobal (m : Memory) (name : String) (v : Value) : Memory :=
  { m with globals := (name, .value v) :: m.globals.filter fun e => e.1 ≠ name }

/-- The number of the table that a name stands for, which it does from then on. -/
def tableOf (m : Memory) (name : String) : Nat × Memory :=
  match m.cell name with
  | .table n => (n, m)
  | .fresh (some n) => (n, m.setCell name (.table n))
  | _ =>
    let n := m.tables.size
    (n, { m with tables := m.tables.push [] }.setCell name (.table n))

/-- What is passed to a function for a name. -/
def passed (m : Memory) (name : String) : Cell × Memory :=
  match m.cell name with
  | .fresh none =>
    let n := m.tables.size
    let m := { m with tables := m.tables.push [] }
    (.fresh (some n), m.setCell name (.fresh (some n)))
  | c => (c, m)

/-- The table of a number. -/
def table (m : Memory) (n : Nat) : Table := (m.tables[n]?).getD []

/-- Changes the table of a number. -/
def setTable (m : Memory) (n : Nat) (t : Table) : Memory :=
  { m with tables := m.tables.setIfInBounds n t }

/-! ## The record -/

/-- The fields of a text. -/
def fieldsOf (m : Memory) (s : Octets) : List Octets :=
  (FieldSeparator.ofText (m.globalText "FS")).parts s

/-- Takes a text as the record. -/
def setRecord (m : Memory) (s : Octets) : Memory :=
  { m with record := s, isStale := false, fields := (m.fieldsOf s).map .read }

/-- The record, rebuilt if a field has changed. -/
def currentRecord (m : Memory) : Octets × Memory :=
  if m.isStale then
    let s := (m.globalText "OFS").intercalate (m.fields.map m.text)
    (s, { m with record := s, isStale := false })
  else (m.record, m)

/-- The field of a number; the record itself has the number zero. -/
def field (m : Memory) (n : Nat) : Value × Memory :=
  if n = 0 then
    let (s, m) := m.currentRecord
    (.read s, m)
  else ((m.fields[n - 1]?).getD .nothing, m)

/-- Lets the record have so many fields. -/
def setFieldCount (m : Memory) (n : Nat) : Memory :=
  { m with
    fields := m.fields.take n ++ List.replicate (n - m.fields.length) (.text [])
    isStale := true }

/-- Gives a field a value. -/
def setField (m : Memory) (n : Nat) (v : Value) : Memory :=
  if n = 0 then m.setRecord (m.text v)
  else
    let m := if m.fields.length < n then m.setFieldCount n else m
    { m with fields := m.fields.set (n - 1) v, isStale := true }

/-- The value that a name stands for. -/
def value (m : Memory) (name : String) : Value :=
  if name = "NF" then .ofNat m.fields.length
  else
    match m.cell name with
    | .value v => v
    | _ => .nothing

/-- Gives a name a value. -/
def setValue (m : Memory) (name : String) (v : Value) : Memory :=
  if name = "NF" then m.setFieldCount (clamped v.toNumber).toNat else m.setCell name (.value v)

/-- Counts a record. -/
def counted (m : Memory) (ofFile : Bool) : Memory :=
  let next (name : String) (m : Memory) : Memory :=
    m.setGlobal name (.number ((m.global name).toNumber + 1.0))
  if ofFile then next "FNR" (next "NR" m) else next "NR" m

/-! ## Beginnings -/

/-- What is remembered before anything is done, with the arguments of the script and the
environment. -/
def start (args : List Octets) (environment : List (String × Octets)) : Memory :=
  let arguments : Table := args.zipIdx.map fun (s, n) => (Text.decimal n, .read s)
  let surroundings : Table := environment.map fun (n, s) => (n.toList, .read s)
  let texts : List (String × String) :=
    [("FS", " "), ("OFS", " "), ("ORS", "\n"), ("RS", "\n"), ("SUBSEP", "\x1c"),
      ("CONVFMT", "%.6g"), ("OFMT", "%.6g"), ("FILENAME", "")]
  let counts : List (String × Float) :=
    [("NR", 0.0), ("FNR", 0.0), ("RSTART", 0.0), ("RLENGTH", -1.0),
      ("ARGC", Float.ofNat args.length)]
  { globals :=
      [("ARGV", Cell.table 0), ("ENVIRON", Cell.table 1)] ++
        (texts.map fun (n, s) => (n, Cell.value (.text s.toList))) ++
        counts.map fun (n, x) => (n, Cell.value (.number x))
    locals := []
    tables := #[arguments, surroundings]
    record := []
    isStale := false
    fields := []
    printed := []
    outputProblem := none
    inputs := []
    outputs := []
    input := none
    argument := 1
    hasInput := false
    begun := []
    seed := 1
    lastSeed := .nothing
    code := 0 }

end Memory

end CallForest.Awk
