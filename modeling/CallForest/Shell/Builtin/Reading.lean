import CallForest.Shell.Builtin.Declaration
import CallForest.Shell.Builtin.Variable

/-!
# Reading lines into variables

The command `read` takes a line from the input and splits it like words are split; the last variable
takes all that is left.

The commands `read` and `mapfile` of the extended shell read from any descriptor, up to any
character or so many of them, and can put what they read into a list.
-/

namespace CallForest.Shell

/-- A line that is read: its characters, each with a mark if a backslash stood before it; whether a
newline ended it, and whether a backslash made that newline be left out, so that the next line
belongs to it. -/
structure ReadLine where
  text : Marked
  ended : Bool
  joins : Bool

/-- The line that a text shows; `done` is what is seen already, reversed. Unless it is `raw`, a
backslash marks the next character. -/
def readLineFrom (raw : Bool) (done : Marked) : Octets → ReadLine
  | [] => ⟨done.reverse, false, false⟩
  | '\n' :: _ => ⟨done.reverse, true, false⟩
  | '\\' :: c :: cs =>
    if raw then readLineFrom raw (('\\', false) :: done) (c :: cs)
    else if c = '\n' then ⟨done.reverse, false, true⟩
    else readLineFrom raw ((c, true) :: done) cs
  | c :: cs =>
    if !raw && c = '\\' then ⟨done.reverse, false, false⟩
    else if c.toNat = 0 then readLineFrom raw done cs
    else readLineFrom raw ((c, false) :: done) cs

/-- How many lines are joined at most. -/
def maxJoined : Nat := 10000

/-- Reads a line with those that belong to it behind a descriptor. The last argument bounds their
number. -/
def takeReadLine (raw : Bool) (descriptor : Nat) : Nat → Run ReadLine
  | 0 => return ⟨[], false, false⟩
  | count + 1 => do
    let (s, st) := (← get).takeLine descriptor
    set st
    let line := readLineFrom raw [] s
    if line.joins then
      let next ← takeReadLine raw descriptor count
      return { next with text := line.text ++ next.text }
    else return line

namespace Marked

/-- Whether a marked character is a blank that separates fields. -/
def isBlankIn (separators : Octets) (c : Char × Bool) : Bool :=
  !c.2 && c.1 ∈ separators && (c.1 == ' ' || c.1 == '\t' || c.1 == '\n')

/-- Whether a marked character separates fields. -/
def isSeparatorIn (separators : Octets) (c : Char × Bool) : Bool := !c.2 && c.1 ∈ separators

/-- The first field of a text, and what is behind what ends it. -/
def firstField (separators : Octets) (m : Marked) : Marked × Marked :=
  let field := m.takeWhile fun c => !isSeparatorIn separators c
  let rest := (m.drop field.length).dropWhile (isBlankIn separators)
  match rest with
  | c :: cs =>
    if isSeparatorIn separators c then (field, cs.dropWhile (isBlankIn separators))
    else (field, rest)
  | [] => (field, [])

/-- What the last of several variables takes: all that is left, without blanks at its end. What ends
a field is left out too if nothing is behind it. -/
def lastField (separators : Octets) (m : Marked) : Marked :=
  match m.firstField separators with
  | (field, []) => field
  | _ => (m.reverse.dropWhile (isBlankIn separators)).reverse

/-- Splits a text for as many variables as there are; the last takes the rest. -/
def fieldsFor (separators : Octets) : Nat → Marked → List Octets
  | 0, _ => []
  | 1, m => [Marked.text (m.lastField separators)]
  | n + 2, m =>
    let (field, rest) := m.firstField separators
    Marked.text field :: fieldsFor separators (n + 1) rest

end Marked

/-- Reads a line of the input into variables. The status is 1 if the input ends before. -/
def Builtin.read : Builtin := fun args => do
  let (given, names) ← Builtin.options "r" "p" args
  if names.isEmpty then Run.abort "arg count".toList
  let names ← names.mapM Builtin.variableName
  let line ← takeReadLine (given.any fun o => o.1 = 'r') 0 maxJoined
  let separators := (← get).separators
  let text := line.text.dropWhile (Marked.isBlankIn separators)
  for (name, value) in names.zip (Marked.fieldsFor separators names.length text) do
    Run.assign name value
  Run.finish (if line.ended then 0 else 1)

/-! ## Reading in the extended shell -/

/-- A text that is read: its characters, each with a mark if a backslash stood before it; whether it
came to its end, and what is behind it. -/
structure Taken where
  text : Marked
  ended : Bool
  rest : Octets

/-- Reads up to a character, or as many characters as are wanted; `done` is what is read already,
reversed. Unless it is `raw`, a backslash marks the next character. -/
def takeUpTo (raw : Bool) (delimiter : Option Char) : Option Nat → Marked → Octets → Taken
  | some 0, done, rest => ⟨done.reverse, true, rest⟩
  | _, done, [] => ⟨done.reverse, false, []⟩
  | limit, done, c :: cs =>
    if !raw && c = '\\' then
      match cs with
      | [] => ⟨done.reverse, false, []⟩
      | '\n' :: cs => takeUpTo raw delimiter limit done cs
      | c :: cs => takeUpTo raw delimiter (limit.map (· - 1)) ((c, true) :: done) cs
    else if some c = delimiter then ⟨done.reverse, true, cs⟩
    else if c.toNat = 0 then takeUpTo raw delimiter limit done cs
    else takeUpTo raw delimiter (limit.map (· - 1)) ((c, false) :: done) cs

/-- The fields of a text without an end to their number. -/
def Marked.allFields (separators : Octets) : Nat → Marked → List Octets
  | 0, _ => []
  | _, [] => []
  | steps + 1, m =>
    let (field, rest) := m.firstField separators
    Marked.text field :: allFields separators steps rest

namespace Builtin

/-- The descriptor of an option; that of the input if it is not given. -/
def givenDescriptor (given : List (Char × Octets)) : Run Nat := do
  match given.reverse.lookup 'u' with
  | none => return 0
  | some s =>
    if s.isEmpty || !s.all Char.isDigit then
      Run.refuse 1 (s ++ ": invalid file descriptor specification".toList)
      throw .fault
    else
      let n := keyNumber s
      if ((← get).openFile? n).isNone then
        Run.refuse 1 (s ++ ": invalid file descriptor: Bad file descriptor".toList)
        throw .fault
      else return n

/-- The number that is given with an option. -/
def givenNumber (given : List (Char × Octets)) (option : Char) (problem : String) :
    Run (Option Nat) := do
  match given.reverse.lookup option with
  | none => return none
  | some s =>
    if s.isEmpty || !s.all Char.isDigit then
      Run.refuse 1 (s ++ ": ".toList ++ problem.toList)
      throw .fault
    else return some (keyNumber s)

/-- Why nothing can be read behind a descriptor, if so. -/
def readProblem? (st : State) (descriptor : Nat) : Option OsError :=
  match st.openFile? descriptor with
  | none => some .badDescriptor
  | some (_, file) =>
    if !file.readable then some .badDescriptor
    else if file.target = .directory then some .isDirectory
    else none

/-- Reads a text behind a descriptor. -/
def take (raw : Bool) (delimiter : Option Char) (limit : Option Nat) (descriptor : Nat) :
    Run (Marked × Bool) := do
  if delimiter = some '\n' && limit.isNone then
    let line ← takeReadLine raw descriptor maxJoined
    return (line.text, line.ended)
  else
    let st ← get
    let taken := takeUpTo raw delimiter limit [] (st.unread descriptor)
    let st := st.readUpTo descriptor taken.rest
    set (if taken.ended then st else st.drained descriptor)
    return (taken.text, taken.ended)

/-- Reads a text of the input into variables, or into a list. The status is 1 if the input ends
before the text does. -/
def readInto : Builtin := fun args => do
  let (given, names) ← options "ers" "adinNptu" args
  let has (c : Char) : Bool := given.any fun o => o.1 = c
  let value? (c : Char) : Option Octets := given.reverse.lookup c
  if let some s := value? 't' then
    if s.isEmpty || !s.all (fun c => c.isDigit || c == '.') then
      return ← Run.refuse 1 (s ++ ": invalid timeout specification".toList)
  let exact ← givenNumber given 'N' "invalid number"
  let most ← givenNumber given 'n' "invalid number"
  let descriptor ← givenDescriptor given
  if let some name := names.find? fun n => (declared? n).isNone then
    notName name
    return ← Run.finish 1
  if value? 't' = some ['0'] then return ← Run.finish 0
  if let some e := readProblem? (← get) descriptor then
    return ← Run.refuse 1 ("read error: ".toList ++ Text.decimal descriptor ++ ": ".toList ++
      e.reason.toList)
  let delimiter : Option Char :=
    if exact.isSome then none
    else
      match value? 'd' with
      | none => some '\n'
      | some s => some (s.headD (Char.ofNat 0))
  let (text, ended) ← take (has 'r') delimiter (exact <|> most) descriptor
  let separators := (← get).separators
  let inner := if exact.isSome then text else text.dropWhile (Marked.isBlankIn separators)
  let assign (name value : Octets) : Run Unit := do
    if let some d := declared? name then
      unless ← Run.tryGive (← d.reference) value do throw .fault
  let status := if ended then 0 else 1
  match value? 'a' with
  | some list =>
    let values := Marked.allFields separators (inner.length + 1) inner
    Run.assignElements (String.ofList list) (.ofValues values)
  | none =>
    if names.isEmpty then assign "REPLY".toList (Marked.text text)
    else if exact.isSome then
      for (name, value) in names.zip [Marked.text text] do assign name value
      for name in names.drop 1 do assign name []
    else
      for (name, value) in names.zip (Marked.fieldsFor separators names.length inner) do
        assign name value
  Run.finish status

/-- The lines of a text, each with the character that ends it. The first argument bounds their
number. -/
def linesEndedBy (delimiter : Char) : Nat → Octets → List Octets
  | 0, _ => []
  | _, [] => []
  | steps + 1, s =>
    let front := s.takeWhile (· ≠ delimiter)
    let rest := s.drop front.length
    (front ++ rest.take 1) :: linesEndedBy delimiter steps (rest.drop 1)

/-- Reads the lines of the input into a list. -/
def mapfile : Builtin := fun args => do
  let (given, names) ← options "t" "dnOsucC" args
  let has (c : Char) : Bool := given.any fun o => o.1 = c
  let descriptor ← givenDescriptor given
  let count ← givenNumber given 'n' "invalid line count"
  let skipped ← givenNumber given 's' "invalid line count"
  let origin ← givenNumber given 'O' "invalid array origin"
  let name := names.headD "MAPFILE".toList
  if !isName name then
    notName name
    return ← Run.finish 1
  let delimiter := match given.reverse.lookup 'd' with
    | none => '\n'
    | some s => s.headD (Char.ofNat 0)
  let st ← get
  let text := st.unread descriptor
  let all := (linesEndedBy delimiter (text.length + 1) text).drop (skipped.getD 0)
  let wanted := match count with
    | none | some 0 => all
    | some n => all.take n
  let used := (skipped.getD 0, wanted.length)
  let behind := ((linesEndedBy delimiter (text.length + 1) text).drop (used.1 + used.2)).flatten
  set ((st.readUpTo descriptor behind).drained descriptor)
  let value (line : Octets) : Octets :=
    let line := if has 't' && line.getLast? = some delimiter then line.dropLast else line
    line.filter fun c => c.toNat ≠ 0
  let v := ((← get).binding? (String.ofList name)).getD (.unset (String.ofList name))
  let start : Elements := if origin.isSome then v.elementsOrNew else .list []
  let e := wanted.zipIdx.foldl (fun (e : Elements) line =>
    e.set (Text.decimal (origin.getD 0 + line.2)) (value line.1)) start
  Run.assignElements (String.ofList name) e
  Run.finish 0

end Builtin

end CallForest.Shell
