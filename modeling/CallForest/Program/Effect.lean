import CallForest.Bytes.Octets
import CallForest.Files.FileSystem

/-!
# Programs

A program is a function of its arguments, its input and the file system. Its effect is what it
wrote, in order, what it left of its input, and the file system that it left.
-/

namespace CallForest

/-- What a program is started with. -/
structure Invocation where
  name : Octets
  args : List Octets
  input : Octets
  /-- Why the input cannot be read, if it cannot. -/
  inputProblem : Option OsError
  /-- Whether the input is a file, so that its size is known and reading can be undone. -/
  inputIsFile : Bool
  /-- The numbers of the files that the input and the output are, if they are files. -/
  inputFile : Option Nat
  outputFile : Option Nat
  environment : List (String × Octets)
  files : FileSystem
  /-- How much a program prints that never ends. -/
  patience : Nat

/-- How a program goes on when it has done all that matters. -/
inductive Continuation where
  | ends
  /-- It waits for what never comes. -/
  | waits
  /-- It writes on, as long as somebody reads that. -/
  | writes
  deriving DecidableEq, Repr

/-- What a program has done. -/
structure Effect where
  code : Nat
  /-- What it wrote, the last first; the flag tells that a text went to the error output. -/
  written : List (Bool × Octets)
  unread : Octets
  /-- Why the input cannot be read, if it cannot. -/
  inputProblem : Option OsError
  /-- Whether it ended before it saw the end of its input. -/
  early : Bool
  files : FileSystem
  continuation : Continuation

/-- A program. -/
abbrev Program := Invocation → Effect

namespace Invocation

/-- The effect of having done nothing yet. -/
def start (i : Invocation) : Effect := ⟨0, [], i.input, i.inputProblem, false, i.files, .ends⟩

end Invocation

namespace Effect

/-- Prints a text. -/
def print (e : Effect) (s : Octets) : Effect :=
  if s.isEmpty then e else { e with written := (false, s) :: e.written }

/-- Writes a text to the error output. -/
def complain (e : Effect) (s : Octets) : Effect :=
  { e with written := (true, s) :: e.written }

/-- Writes what is complained of before anything is printed. -/
def complaintsFirst (e : Effect) : Effect :=
  { e with written := (e.written.filter fun w => !w.1) ++ e.written.filter Prod.fst }

/-- Ends with at least that code. -/
def withCode (e : Effect) (code : Nat) : Effect := { e with code := max code e.code }

/-- Fails with a line of error text behind the program's name. -/
def fail (e : Effect) (name : Octets) (code : Nat) (text : Octets) : Effect :=
  (e.complain (name ++ ": ".toList ++ text ++ ['\n'])).withCode code

/-- Changes the file system by an operation, and fails if that does; `text` tells what could not be
done. -/
def change (e : Effect) (name : Octets) (text : Octets)
    (operation : FileSystem → FileSystem × Except OsError Unit) : Effect :=
  match operation e.files with
  | (files, .ok ()) => { e with files := files }
  | (files, .error x) =>
    { e with files := files }.fail name 1 (text ++ ": ".toList ++ x.reason.toList)

end Effect

/-! ## Names in messages -/

namespace QuotedName

/-- Whether a character can be shown as it is. -/
def isShown (c : Char) : Bool := 32 ≤ c.toNat && c.toNat ≤ 126

/-- The text of a byte that cannot be shown. -/
def escaped (c : Char) : Octets :=
  match c with
  | '\n' => ['\\', 'n']
  | '\t' => ['\\', 't']
  | '\r' => ['\\', 'r']
  | c =>
    if c.toNat = 7 then ['\\', 'a']
    else if c.toNat = 8 then ['\\', 'b']
    else if c.toNat = 11 then ['\\', 'v']
    else if c.toNat = 12 then ['\\', 'f']
    else
      let digit (n : Nat) : Char := Char.ofNat (48 + n % 8)
      ['\\', digit (c.toNat / 64), digit (c.toNat / 8), digit c.toNat]

/-- The rest of a quoted name; `escaping` tells that the last character could not be shown. -/
def body : Bool → Octets → Octets
  | _, [] => ['\'']
  | escaping, c :: cs =>
    if c = '\'' then ['\'', '\\', '\'', '\''] ++ body false cs
    else if isShown c then (if escaping then ['\'', '\''] else []) ++ c :: body false cs
    else (if escaping then [] else ['\'', '$', '\'']) ++ escaped c ++ body true cs

/-- Whether a character makes quotes necessary, colons included. -/
def isCritical (c : Char) : Bool :=
  !isShown c || c ∈ " !\"$&'()*;<=>?[\\^|:".toList || c == Char.ofNat 96

/-- A name in quotes. A name with a quote in it begins as if it stood behind itself: characters that
cannot be shown are marked by what the last one was. -/
def always (s : Octets) : Octets :=
  if !s.contains '\'' then '\'' :: body false s
  else if s.all fun c => isShown c && c ∉ "\"$\\!".toList && c ≠ Char.ofNat 96 then
    '"' :: s ++ ['"']
  else '\'' :: body (s.getLast?.any fun c => !isShown c) s

/-- An argument in quotes: quotes and backslashes in it get a backslash in front. -/
def ofArgument (s : Octets) : Octets :=
  let shown (c : Char) : Octets :=
    if c = '\'' ∨ c = '\\' then ['\\', c] else if isShown c then [c] else escaped c
  '\'' :: s.flatMap shown ++ ['\'']

/-- A name, in quotes if it could be misread without. -/
def ifNeeded (s : Octets) : Octets :=
  let starts := s.head?.any (· ∈ ['#', '~'])
  if s.isEmpty || starts || s.any isCritical then always s else s

end QuotedName

end CallForest
