import CallForest.Shell.Pattern

/-!
# Fields

What words are split into. Text that is not quoted is split at separators as it is added; text with
quotes around it is there even if it is empty.
-/

namespace CallForest.Shell

/-- The fields of a word that are complete, the last first, and the one in progress, reversed. -/
structure Fields where
  complete : List Marked
  current : Option Marked
  /-- Whether quoted text without characters stands in the field in progress. -/
  hasEmptyQuotes : Bool
  /-- Whether the last field was ended by blanks alone. -/
  afterBlanks : Bool
  /-- The characters that separate fields; none if the word is not split. -/
  separators : Option Octets

namespace Fields

/-- No fields yet. -/
def empty (separators : Option Octets) : Fields := ⟨[], none, false, false, separators⟩

/-- Whether a field is in progress. -/
def isOpen (f : Fields) : Bool := f.current.isSome || f.hasEmptyQuotes

/-- Adds text to the field in progress. -/
def add (f : Fields) (m : Marked) : Fields :=
  if m.isEmpty then f
  else { f with current := some (m.reverse ++ f.current.getD []), afterBlanks := false }

/-- Adds quoted text; the field is there even if the text is empty. -/
def addQuoted (f : Fields) (s : Octets) : Fields :=
  if s.isEmpty then { f with hasEmptyQuotes := true, afterBlanks := false }
  else f.add (Marked.ofText s true)

/-- Ends the field in progress. -/
def cut (f : Fields) : Fields :=
  if f.isOpen then
    { f with
      complete := (f.current.getD []).reverse :: f.complete
      current := none
      hasEmptyQuotes := false }
  else f

/-- Adds a character that may separate fields. A separator that is no blank ends a field even if the
field is empty; blanks around it belong to it. -/
def spreadChar (separators : Octets) (f : Fields) (c : Char) : Fields :=
  if c ∉ separators then f.add [(c, false)]
  else if c = ' ' ∨ c = '\t' ∨ c = '\n' then
    if f.isOpen then { f.cut with afterBlanks := true } else f
  else if f.isOpen then { f.cut with afterBlanks := false }
  else if f.afterBlanks then { f with afterBlanks := false }
  else { f with complete := [] :: f.complete }

/-- Adds text that is not quoted. -/
def spread (f : Fields) (s : Octets) : Fields :=
  match f.separators with
  | none => f.add (Marked.ofText s false)
  | some separators =>
    if s.any separators.contains then s.foldl (spreadChar separators) f
    else f.add (Marked.ofText s false)

/-- Adds a text. -/
def addText (f : Fields) (quoted : Bool) (s : Octets) : Fields :=
  if quoted then f.addQuoted s else f.spread s

/-- Adds texts, each but the first as a new field. -/
def addEach (quoted : Bool) (f : Fields) : List Octets → Fields
  | [] => f
  | s :: ss => ss.foldl (fun f s => f.cut.addText quoted s) (f.addText quoted s)

/-- The fields, in order. -/
def toList (f : Fields) : List Marked := f.cut.complete.reverse

/-- The fields of a word that is not split, as one text. -/
def joined (f : Fields) : Marked :=
  match f.toList with
  | [] => []
  | m :: ms => ms.foldl (fun all m => all ++ (' ', true) :: m) m

end Fields

end CallForest.Shell
