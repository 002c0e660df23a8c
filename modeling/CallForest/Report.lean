import CallForest.Graph.Node
import CallForest.Text.Lines
import CallForest.Text.Decimal

/-!
# Complexity reports

A report has one row of comma-separated fields for each function: the count of statements first, the
cyclomatic number second, and the function's name eighth. A field may stand in double quotes, in
which a quote is written twice. A row whose first field is the word `NLOC` is a heading. Every other
row that is not blank comes to exactly one entry: a measurement, or a note that it cannot be read.
-/

namespace CallForest.Report

/-- The metrics of a named function. -/
structure Measurement where
  name : String
  metrics : Complexity
  deriving DecidableEq, Repr

/-- What a row comes to. -/
inductive Entry where
  | measured (m : Measurement)
  | unreadable (lineNo : Nat) (row : String)
  deriving DecidableEq, Repr

/-- Where the reader of a row stands: outside quotes, inside them, or behind a quote that either
closes them or is the first half of a quote written twice. -/
inductive Quoting where
  | outside
  | inside
  | afterQuote
  deriving DecidableEq, Repr

/-- Reads the fields of a row on, `field` being the one in progress, its last character first. -/
def fieldsFrom (field : List Char) : Quoting → List Char → List (List Char)
  | _, [] => [field.reverse]
  | .inside, c :: cs =>
    if c = '"' then fieldsFrom field .afterQuote cs else fieldsFrom (c :: field) .inside cs
  | .outside, c :: cs =>
    if c = '"' then fieldsFrom field .inside cs
    else if c = ',' then field.reverse :: fieldsFrom [] .outside cs
    else fieldsFrom (c :: field) .outside cs
  | .afterQuote, c :: cs =>
    if c = '"' then fieldsFrom ('"' :: field) .inside cs
    else if c = ',' then field.reverse :: fieldsFrom [] .outside cs
    else fieldsFrom (c :: field) .outside cs

/-- The fields of a row. -/
def fields (row : List Char) : List (List Char) :=
  fieldsFrom [] .outside row

/-- An ASCII letter in lower case; any other character as it is. -/
def lowerAscii (c : Char) : Char :=
  if 'A' ≤ c ∧ c ≤ 'Z' then Char.ofNat (c.toNat + 32) else c

/-- Whether a row with that first field is a heading. -/
def isHeading (first : List Char) : Bool :=
  (Text.trim first).map lowerAscii == ['n', 'l', 'o', 'c']

/-- The measurement in the fields of a row. -/
def measurement? (fs : List (List Char)) : Option Measurement := do
  let statements ← Text.word32? (Text.trim (← fs[0]?))
  let cyclomatic ← Text.word32? (Text.trim (← fs[1]?))
  let name ← fs[7]?
  if name.isEmpty then none else some ⟨String.ofList name, ⟨cyclomatic, statements⟩⟩

/-- What a row comes to. -/
def readRow (lineNo : Nat) (row : List Char) : Option Entry :=
  if row.all Text.isBlank then none
  else
    let fs := fields row
    if isHeading (fs.headD []) then none
    else
      match measurement? fs with
      | some m => some (.measured m)
      | none => some (.unreadable lineNo (String.ofList row))

/-- What the rows of a report come to, in order. -/
def entries (report : String) : List Entry :=
  (Text.numbered (Text.lines report.toList)).filterMap fun (lineNo, row) => readRow lineNo row

/-- The measurement of an entry, if it is one. -/
def Entry.measurement? : Entry → Option Measurement
  | .measured m => some m
  | .unreadable .. => none

/-- The measurements of a report, in order. -/
def measurements (report : String) : List Measurement :=
  (entries report).filterMap Entry.measurement?

end CallForest.Report
