import CallForest.Text.Lines
import CallForest.Text.Decimal

/-!
# Cross-reference listings

Each line of a cross-reference listing names a function; a `*` as its second word marks a
definition, which goes on with `file:line` and the signature. Every definition mark comes to exactly
one finding: a definition, or a note on what is missing. Other lines are references and come to
none.
-/

namespace CallForest.Xref

/-- A function definition of a cross-reference listing. -/
structure Definition where
  name : String
  line : UInt32
  signature : String
  deriving DecidableEq, Repr

/-- What a line with a definition mark comes to. -/
inductive Finding where
  | definition (d : Definition)
  /-- The location has no line number. -/
  | noLineNumber (lineNo : Nat) (location : String)
  /-- There is no location. -/
  | noLocation (lineNo : Nat) (text : String)
  deriving DecidableEq, Repr

/-- What stands behind the last colon, if there is a colon. -/
def afterLastColon? (location : List Char) : Option (List Char) :=
  if ':' ∈ location then some (location.reverse.takeWhile (· ≠ ':')).reverse else none

/-- The line number of a location. -/
def lineNumber? (location : List Char) : Option UInt32 :=
  (afterLastColon? location).bind Text.word32?

/-- What a line comes to. -/
def readLine (lineNo : Nat) (line : List Char) : Option Finding :=
  match Text.words line with
  | name :: ['*'] :: location :: signature =>
    match lineNumber? location with
    | some n =>
      some (.definition ⟨String.ofList name, n, String.ofList (Text.joinWords signature)⟩)
    | none => some (.noLineNumber lineNo (String.ofList location))
  | [_, ['*']] => some (.noLocation lineNo (String.ofList line))
  | _ => none

/-- What the lines of a listing come to, in order. -/
def findings (listing : String) : List Finding :=
  (Text.numbered (Text.lines listing.toList)).filterMap fun (lineNo, line) => readLine lineNo line

/-- The definition of a finding, if it is one. -/
def Finding.definition? : Finding → Option Definition
  | .definition d => some d
  | _ => none

/-- The definitions of a listing, in order. -/
def definitions (listing : String) : List Definition :=
  (findings listing).filterMap Finding.definition?

end CallForest.Xref
