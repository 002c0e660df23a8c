import CallForest.Program.Input

/-!
# Conditions

`test` tells whether a condition on texts, numbers or files holds. Its arguments are read one after
another; what follows an argument decides whether it is an operator.
-/

namespace CallForest

namespace Condition

/-- What an argument can be besides an operand. -/
inductive Symbol where
  | unary
  | binary
  | both
  | either
  | not
  | opening
  | closing
  deriving DecidableEq, Repr

/-- The operators in front of one operand. -/
def unaryNames : List String :=
  ["-r", "-w", "-x", "-e", "-f", "-d", "-c", "-b", "-p", "-u", "-g", "-k", "-s", "-t", "-z", "-n",
    "-h", "-O", "-G", "-L"]

/-- The operators between two operands. -/
def binaryNames : List String :=
  ["=", "!=", "<", ">", "-eq", "-ne", "-gt", "-ge", "-le", "-lt", "-nt", "-ot", "-ef"]

/-- The arguments that can be operators. -/
def symbol? (s : Octets) : Option Symbol :=
  if unaryNames.contains (String.ofList s) then some .unary
  else if binaryNames.contains (String.ofList s) then some .binary
  else if s = ['-', 'a'] then some .both
  else if s = ['-', 'o'] then some .either
  else if s = ['!'] then some .not
  else if s = ['('] then some .opening
  else if s = [')'] then some .closing
  else none

/-- Whether an argument that could be a unary operator is an operand because of what follows it. -/
def isOperand : List Octets → Bool
  | [] => true
  | [_] => false
  | s :: _ => symbol? s = some .binary

/-- What the first of the arguments is: none if there is none or if it is an operand. -/
def lexed : List Octets → Option Symbol
  | [] => none
  | s :: rest =>
    match symbol? s with
    | some .unary => if isOperand rest then none else some .unary
    | some .opening => if rest.isEmpty then none else some .opening
    | other => other

/-- A result and the arguments from the last one that it used on, or what is wrong. -/
abbrev Outcome := Except Octets (Bool × List Octets)

/-- The number that an argument shows. -/
def number (s : Octets) : Except Octets Int :=
  match Numeral.decimal? s with
  | some n =>
    if n.natAbs < Nat.pow 2 63 then .ok n else .error ("Illegal number: ".toList ++ s)
  | none => .error ("Illegal number: ".toList ++ s)

/-- Whether a unary condition holds. -/
def unaryHolds (files : FileSystem) (operator operand : Octets) : Except Octets Bool :=
  let path := Octets.toText operand
  let entry := files.entry path
  let isLink := (files.readLink? path).isSome
  let hasBits (bits : Mode) : Bool :=
    match entry with
    | .ok e => Mode.hasAny (files.modeOf e) bits
    | .error _ => false
  let entryIs (p : Entry → Bool) : Bool :=
    match entry with
    | .ok e => p e
    | .error _ => false
  match String.ofList operator with
  | "-z" => .ok operand.isEmpty
  | "-n" => .ok (!operand.isEmpty)
  | "-t" => (number operand).map fun _ => false
  | "-f" => .ok (entryIs Entry.isRegular)
  | "-d" => .ok (entryIs Entry.isDirectory)
  | "-c" =>
    .ok (entryIs fun e =>
      match e with
      | .device _ => true
      | _ => false)
  | "-x" => .ok (hasBits Mode.running)
  | "-s" => .ok (entryIs fun e => files.sizeOf e != 0)
  | "-u" => .ok (hasBits 0o4000)
  | "-g" => .ok (hasBits 0o2000)
  | "-k" => .ok (hasBits 0o1000)
  | "-h" | "-L" => .ok isLink
  | "-b" | "-p" => .ok false
  | _ => .ok (entryIs fun _ => true)

/-- Whether a file has been changed after another one. -/
def isNewer (files : FileSystem) (a b : Octets) : Bool :=
  match files.entry (Octets.toText a), files.entry (Octets.toText b) with
  | .ok x, .ok y => files.modifiedAt y < files.modifiedAt x
  | _, _ => false

/-- Whether a binary condition holds. -/
def binaryHolds (files : FileSystem) (a operator b : Octets) : Except Octets Bool :=
  let compare (holds : Int → Int → Bool) : Except Octets Bool := do
    let m ← number a
    let n ← number b
    return holds m n
  let before (s t : Octets) : Bool := String.ofList s < String.ofList t
  match String.ofList operator with
  | "=" => .ok (a == b)
  | "!=" => .ok (a != b)
  | "<" => .ok (before a b)
  | ">" => .ok (before b a)
  | "-eq" => compare (· == ·)
  | "-ne" => compare (· != ·)
  | "-lt" => compare fun m n => decide (m < n)
  | "-le" => compare fun m n => decide (m ≤ n)
  | "-gt" => compare fun m n => decide (n < m)
  | "-ge" => compare fun m n => decide (n ≤ m)
  | "-ef" =>
    .ok (match files.resolve (Octets.toText a), files.resolve (Octets.toText b) with
      | .ok s, .ok t =>
        match s.entry.bind Entry.number?, t.entry.bind Entry.number? with
        | some m, some n => m == n
        | _, _ => s.entry.isSome && s.location == t.location
      | _, _ => false)
  | "-nt" => .ok (isNewer files a b)
  | "-ot" => .ok (isNewer files b a)
  | _ => .ok false

mutual

/-- Conditions joined by `-o`; `symbol` is what the first argument is taken for. -/
def disjunction (files : FileSystem) : Nat → Option Symbol → List Octets → Outcome
  | 0, _, args => .ok (false, args)
  | steps + 1, symbol, args => do
    let (holds, last) ← conjunction files steps symbol args
    match lexed last.tail with
    | some .either =>
      let next := last.tail.tail
      let (others, last) ← disjunction files steps (lexed next) next
      return (holds || others, last)
    | _ => return (holds, last)

/-- Conditions joined by `-a`. -/
def conjunction (files : FileSystem) : Nat → Option Symbol → List Octets → Outcome
  | 0, _, args => .ok (false, args)
  | steps + 1, symbol, args => do
    let (holds, last) ← negated files steps symbol args
    match lexed last.tail with
    | some .both =>
      let next := last.tail.tail
      let (others, last) ← conjunction files steps (lexed next) next
      return (holds && others, last)
    | _ => return (holds, last)

/-- A condition that may have `!` in front. -/
def negated (files : FileSystem) : Nat → Option Symbol → List Octets → Outcome
  | 0, _, args => .ok (false, args)
  | steps + 1, symbol, args =>
    if symbol = some .not then do
      let next := args.tail
      if next.isEmpty then return (true, args)
      else
        let (holds, last) ← negated files steps (lexed next) next
        return (!holds, last)
    else primary files steps symbol args

/-- A single condition. -/
def primary (files : FileSystem) : Nat → Option Symbol → List Octets → Outcome
  | 0, _, args => .ok (false, args)
  | steps + 1, symbol, args =>
    match symbol, args with
    | _, [] => .ok (false, [])
    | some .opening, _ :: inner =>
      if lexed inner = some .closing then .ok (false, inner)
      else do
        let (holds, last) ← disjunction files steps (lexed inner) inner
        if lexed last.tail = some .closing then return (holds, last.tail)
        else .error "closing paren expected".toList
    | some .unary, operator :: operand :: rest =>
      (unaryHolds files operator operand).map fun holds => (holds, operand :: rest)
    | some .unary, [operator] => .error (operator ++ ": argument expected".toList)
    | _, a :: rest =>
      match lexed rest, rest with
      | some .binary, operator :: b :: rest =>
        (binaryHolds files a operator b).map fun holds => (holds, b :: rest)
      | some .binary, [operator] => .error (operator ++ ": argument expected".toList)
      | _, _ => .ok (!a.isEmpty, a :: rest)

end

/-- Reads the arguments from the first one on, taken for a symbol, and looks for what is left. -/
def readAll (files : FileSystem) (symbol : Option Symbol) (args : List Octets) :
    Except Octets Bool := do
  let (holds, last) ← disjunction files (4 * args.length + 8) symbol args
  match last with
  | a :: _ :: _ => .error (a ++ ": unexpected operator".toList)
  | _ => return holds

/-- Whether the condition that arguments state holds. -/
def evaluate (files : FileSystem) (args : List Octets) : Except Octets Bool :=
  let rest (args : List Octets) : Except Octets Bool := readAll files (lexed args) args
  match args with
  | [] => .ok false
  | [a, b, c] =>
    if symbol? b = some .binary then readAll files none args
    else if a = ['('] ∧ c = [')'] then rest [b]
    else if a = ['!'] then readAll files (some .not) args
    else rest args
  | [a, b, c, d] =>
    if a = ['('] ∧ d = [')'] then rest [b, c]
    else if a = ['!'] then readAll files (some .not) args
    else rest args
  | _ => rest args

end Condition

/-- Whether a condition holds that arguments state; after a bracket another one has to end them. -/
def Condition.holds (files : FileSystem) (inBrackets : Bool) (args : List Octets) :
    Except Octets Bool :=
  if !inBrackets then evaluate files args
  else if args.getLast? = some [']'] then evaluate files args.dropLast
  else .error "missing ]".toList

end CallForest
