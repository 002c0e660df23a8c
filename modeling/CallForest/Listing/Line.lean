import CallForest.Text.Lines

/-!
# Lines of a call listing

A call listing shows the calls of one source file, a function on each line. Nesting is expressed by
the spaces in front alone, four to a level:

    main() <int main (void) at app.c:10>:
        setup() <void setup (void) at app.c:3>:
            printf()

The first word of a line is the function's name, with `()` behind it unless it is a macro; whatever
follows it is annotation.
-/

namespace CallForest

/-- Why a line of a listing cannot be read. -/
inductive LineError where
  /-- There is no name. -/
  | empty (lineNo : Nat)
  /-- The name stands behind white space other than spaces. -/
  | badIndent (lineNo : Nat)
  /-- The spaces make no whole number of levels. -/
  | misaligned (lineNo indent : Nat)
  deriving DecidableEq, Repr

namespace Listing

/-- Spaces to a level. -/
def indentUnit : Nat := 4

/-- A line of a listing: its number, the spaces in front, and the function's name. -/
structure Line where
  lineNo : Nat
  indent : Nat
  name : String
  deriving DecidableEq, Repr

/-- The nesting level of a line; roots have level 0. -/
def Line.level (l : Line) : Nat :=
  l.indent / indentUnit

/-- The records of a listing. -/
def records (listing : String) : List (List Char) :=
  Text.records listing.toList

/-- Without one `()` at the end. -/
def dropCallMark (token : List Char) : List Char :=
  if ['(', ')'].isSuffixOf token then token.dropLast.dropLast else token

/-- The number of spaces in front, and the rest. -/
def splitIndent : List Char → Nat × List Char
  | ' ' :: cs => let (n, rest) := splitIndent cs; (n + 1, rest)
  | cs => (0, cs)

/-- The first word, if there is one. -/
def firstWord? (cs : List Char) : Option (List Char) :=
  match (Text.trimStart cs).takeWhile fun c => !Text.isBlank c with
  | [] => none
  | c :: w => some (c :: w)

/-- Whether white space comes first. -/
def startsBlank : List Char → Bool
  | [] => false
  | c :: _ => Text.isBlank c

/-- Reads a line. A missing name is found first, then white space that is no space in front of the
name, and last a number of spaces that is no multiple of the unit. -/
def Line.parse (lineNo : Nat) (raw : List Char) : Except LineError Line :=
  let (indent, body) := splitIndent (Text.dropReturn raw)
  match firstWord? body with
  | none => .error (.empty lineNo)
  | some token =>
    let name := dropCallMark token
    if name.isEmpty then .error (.empty lineNo)
    else if startsBlank body then .error (.badIndent lineNo)
    else if indent % indentUnit ≠ 0 then .error (.misaligned lineNo indent)
    else .ok ⟨lineNo, indent, String.ofList name⟩

end Listing

/-- The text of an unreadable line's error. -/
def LineError.message : LineError → String
  | .empty lineNo => s!"line {lineNo}: no function token"
  | .badIndent lineNo => s!"line {lineNo}: indentation must be spaces only"
  | .misaligned lineNo indent =>
    s!"line {lineNo}: indentation of {indent} spaces is not a multiple of {Listing.indentUnit}"

end CallForest
