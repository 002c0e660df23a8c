import CallForest.Program.Numeral
import CallForest.Program.Options

/-!
# Inputs of programs

The files that a program reads, by the names it is given. A hyphen is the name of the program's own
input, which is read on from where it was left.
-/

namespace CallForest

/-- The names of the inputs of a program: its own input if it is given none. -/
def inputNames (operands : List Octets) : List Octets :=
  if operands.isEmpty then [['-']] else operands

/-- Whether a name is that of the program's own input. -/
def isOwnInput (name : Octets) : Bool :=
  name == ['-'] || name == "/dev/stdin".toList || name == "/dev/fd/0".toList

namespace Effect

/-- Reads the whole of an input. -/
def readAll (e : Effect) (name : Octets) : Except OsError (Octets × Effect) :=
  if isOwnInput name then
    match e.inputProblem with
    | none => .ok (e.unread, { e with unread := [] })
    | some x => .error x
  else
    let path := Octets.toText name
    let isEndless := match e.files.entry path with
      | .ok (.device .zero) => true
      | _ => false
    (e.files.read path).map fun bs =>
      (Octets.ofBytes bs, if isEndless then { e with continuation := .writes } else e)

/-- Leaves a rest of the program's own input, which it has not read to its end. From a file nothing
behind what was used is taken; else whole blocks are. -/
def leave (e : Effect) (i : Invocation) (block : Nat) (rest : Nat) : Effect :=
  let used := i.input.length - rest
  let taken := if i.inputIsFile then used else (used + block - 1) / block * block
  { e with unread := i.input.drop taken, early := true }

/-- Goes through inputs: `use` takes the content of each, and what cannot be read is complained of
by its name. -/
def eachInput (e : Effect) (program : Octets) (names : List Octets)
    (use : Octets → Octets → Effect → Effect) : Effect :=
  names.foldl (fun e name =>
    match e.readAll name with
    | .ok (content, e) => use name content e
    | .error x =>
      e.fail program 1 (QuotedName.ifNeeded name ++ ": ".toList ++ x.reason.toList)) e

end Effect

/-- The texts that a character ends; the last may lack it. -/
def endedBy (newline : Char) (s : Octets) : List Octets :=
  let pieces := s.splitOn newline
  if pieces.getLast? = some [] then pieces.dropLast else pieces

/-! ## Sizes -/

/-- Why a size cannot be read. -/
inductive SizeError where
  | malformed
  | tooLarge
  deriving DecidableEq, Repr

/-- The factor that the letters behind a number stand for. -/
def sizeFactor? (s : Octets) : Option Nat :=
  let power (letter : Char) : Option Nat :=
    match letter with
    | 'k' | 'K' => some 1
    | 'm' | 'M' => some 2
    | 'G' => some 3
    | 'T' => some 4
    | 'P' => some 5
    | 'E' => some 6
    | 'Z' => some 7
    | 'Y' => some 8
    | _ => none
  match s with
  | [] => some 1
  | ['b'] => some 512
  | [c] | [c, 'i', 'B'] => (power c).map (Nat.pow 1024)
  | [c, 'B'] => (power c).map (Nat.pow 1000)
  | _ => none

/-- The size that a text shows: a number that may have a factor behind it. -/
def size? (s : Octets) : Except SizeError Nat :=
  let s := s.dropWhile Numeral.isBlank
  let s := match s with
    | '+' :: c :: cs => if c.isDigit then c :: cs else '+' :: c :: cs
    | s => s
  let digits := s.takeWhile Char.isDigit
  let factor := s.drop digits.length
  if digits.isEmpty && factor.isEmpty then .error .malformed
  else
    match sizeFactor? factor with
    | none => .error .malformed
    | some f =>
      let n := if digits.isEmpty then f else (Numeral.digitsFrom 10 0 digits).1 * f
      if n < Nat.pow 2 64 then .ok n else .error .tooLarge

/-- What is said of a text that shows no size. -/
def SizeError.message (e : SizeError) (what : String) (s : Octets) : Octets :=
  what.toList ++ ": ".toList ++ QuotedName.ofArgument s ++
    (match e with
      | .malformed => []
      | .tooLarge => ": Value too large for defined data type".toList)

end CallForest
