import CallForest.Program.Conditions

/-!
# Conditions by the number of their arguments

The program `test`, and the `test` of the extended shell: how many arguments there are decides what
they can mean, and only longer conditions are read one argument after another. The two differ in the
operators they know and in what they say.
-/

namespace CallForest

namespace Judgement

/-- What judges. -/
inductive Judge where
  | shell
  | program
  deriving DecidableEq, Repr

/-- What can be wrong with a condition. -/
inductive Problem where
  | notUnary (s : Octets)
  | notBinary (s : Octets)
  | notNumber (s : Octets)
  | missing (last : Octets)
  | noParenthesis (found : Option Octets)
  | extra (s : Octets)
  | noBracket
  deriving DecidableEq, Repr

/-- What is said of a problem. -/
def Problem.message (judge : Judge) (p : Problem) : Octets :=
  let quoted (s : Octets) : Octets := if judge = .program then QuotedName.ofArgument s else s
  match p, judge with
  | notUnary s, _ => quoted s ++ ": unary operator expected".toList
  | notBinary s, _ => quoted s ++ ": binary operator expected".toList
  | notNumber s, .shell => s ++ ": integer expression expected".toList
  | notNumber s, .program => "invalid integer ".toList ++ quoted s
  | missing _, .shell => "argument expected".toList
  | missing last, .program => "missing argument after ".toList ++ quoted last
  | noParenthesis none, .shell => Char.ofNat 96 :: ")' expected".toList
  | noParenthesis (some s), .shell => Char.ofNat 96 :: ")' expected, found ".toList ++ s
  | noParenthesis none, .program => "')' expected".toList
  | noParenthesis (some s), .program => "')' expected, found ".toList ++ quoted s
  | extra _, .shell => "too many arguments".toList
  | extra s, .program => "extra argument ".toList ++ quoted s
  | noBracket, .shell => "missing ".toList ++ Char.ofNat 96 :: "]'".toList
  | noBracket, .program => "missing ']'".toList

/-- What a judge knows beyond files: whether variables and settings of a name are set. -/
structure Knowledge where
  judge : Judge
  files : FileSystem
  isSet : Octets → Bool
  isOn : Octets → Bool

/-- Whether an argument asks something of one operand. -/
def isUnary (judge : Judge) (s : Octets) : Bool :=
  match s with
  | ['-', c] =>
    (match judge with
      | .shell => "abcdefghknoprstuvwxzGLNORS"
      | .program => "bcdefghknprstuwxzGLNOS").toList.contains c
  | _ => false

/-- Whether an argument compares two operands. -/
def isBinary (judge : Judge) (s : Octets) : Bool :=
  let name := String.ofList s
  name ∈ ["=", "!=", "==", "-eq", "-ne", "-lt", "-le", "-gt", "-ge", "-nt", "-ot", "-ef"] ||
    (judge = .shell && name ∈ ["<", ">"])

/-- Whether a unary condition holds. -/
def unaryHolds (k : Knowledge) (operator operand : Octets) : Except Problem Bool :=
  match operator with
  | ['-', 'v'] => .ok (k.isSet operand)
  | ['-', 'o'] => .ok (k.isOn operand)
  | ['-', 'R'] => .ok false
  | ['-', 'S'] | ['-', 'b'] | ['-', 'p'] => .ok false
  | ['-', 'a'] => .ok (k.files.exists? (Octets.toText operand))
  | ['-', 'N'] => .ok false
  | ['-', 't'] =>
    if (Numeral.decimal? operand).isSome then .ok false
    else if k.judge = .program then .error (.notNumber operand) else .ok false
  | operator =>
    match Condition.unaryHolds k.files operator operand with
    | .ok holds => .ok holds
    | .error _ => .ok false

/-- The number that an argument shows. -/
def number (s : Octets) : Except Problem Int :=
  match Numeral.decimal? s with
  | some n => .ok n
  | none => .error (.notNumber s)

/-- Whether a binary condition holds. -/
def binaryHolds (k : Knowledge) (a operator b : Octets) : Except Problem Bool :=
  let compares := ["-eq", "-ne", "-lt", "-le", "-gt", "-ge"].contains (String.ofList operator)
  let problem? : Option Problem :=
    if !compares then none
    else
      match number a, number b with
      | .error p, _ => some p
      | _, .error p => some p
      | _, _ => none
  match problem? with
  | some p => .error p
  | none =>
    let operator := if operator = ['=', '='] then ['='] else operator
    match Condition.binaryHolds k.files a operator b with
    | .ok holds => .ok holds
    | .error _ => .ok false

/-- Whether one argument is a condition that holds: it is one unless it is empty. -/
def oneHolds (s : Octets) : Bool := !s.isEmpty

/-- Whether a condition of two arguments holds. -/
def twoHolds (k : Knowledge) (a b : Octets) : Except Problem Bool :=
  if a = ['!'] then .ok (!oneHolds b)
  else if isUnary k.judge a then unaryHolds k a b
  else if k.judge = .shell || (a.head? = some '-' && a.length = 2) then .error (.notUnary a)
  else .error (.missing b)

/-- Whether a condition of three arguments holds. -/
def threeHolds (k : Knowledge) (a b c : Octets) : Except Problem Bool :=
  if isBinary k.judge b then binaryHolds k a b c
  else if b = ['-', 'a'] then .ok (oneHolds a && oneHolds c)
  else if b = ['-', 'o'] then .ok (oneHolds a || oneHolds c)
  else if a = ['!'] then (twoHolds k b c).map fun holds => !holds
  else if a = ['('] ∧ c = [')'] then .ok (oneHolds b)
  else .error (.notBinary b)

/-- A result and the arguments behind what it used, or what is wrong. -/
abbrev Outcome := Except Problem (Bool × List Octets)

mutual

/-- Conditions joined by `-o`. `last` is the last of all arguments. -/
def disjunction (k : Knowledge) (last : Octets) : Nat → List Octets → Outcome
  | 0, args => .ok (false, args)
  | steps + 1, args => do
    let (holds, rest) ← conjunction k last steps args
    match rest with
    | ['-', 'o'] :: more =>
      let (others, rest) ← disjunction k last steps more
      return (holds || others, rest)
    | rest => return (holds, rest)

/-- Conditions joined by `-a`. -/
def conjunction (k : Knowledge) (last : Octets) : Nat → List Octets → Outcome
  | 0, args => .ok (false, args)
  | steps + 1, args => do
    let (holds, rest) ← term k last steps args
    match rest with
    | ['-', 'a'] :: more =>
      let (others, rest) ← conjunction k last steps more
      return (holds && others, rest)
    | rest => return (holds, rest)

/-- A single condition, which may have `!` in front. -/
def term (k : Knowledge) (last : Octets) : Nat → List Octets → Outcome
  | 0, args => .ok (false, args)
  | steps + 1, args =>
    match args with
    | [] => .error (.missing last)
    | ['!'] :: rest => do
      let (holds, rest) ← term k last steps rest
      return (!holds, rest)
    | a :: rest =>
      if a = ['('] ∧ !(rest.head?.any (isBinary k.judge) && 2 ≤ rest.length) then do
        if rest.isEmpty then .error (.missing last)
        let (holds, rest) ← disjunction k last steps rest
        match rest with
        | [')'] :: more => return (holds, more)
        | found :: _ => .error (.noParenthesis (some found))
        | [] => .error (.noParenthesis none)
      else
        match rest with
        | operator :: b :: more =>
          if isBinary k.judge operator then
            (binaryHolds k a operator b).map fun holds => (holds, more)
          else if isUnary k.judge a then
            (unaryHolds k a operator).map fun holds => (holds, b :: more)
          else .ok (oneHolds a, rest)
        | [b] =>
          if isUnary k.judge a then (unaryHolds k a b).map fun holds => (holds, [])
          else .ok (oneHolds a, rest)
        | [] => .ok (oneHolds a, [])

end

/-- Whether the condition holds that arguments state. -/
def evaluate (k : Knowledge) (args : List Octets) : Except Problem Bool :=
  let read (args : List Octets) : Except Problem Bool := do
    let (holds, rest) ← disjunction k (args.getLastD []) (4 * args.length + 8) args
    match rest with
    | [] => return holds
    | s :: _ => .error (.extra s)
  match args with
  | [] => .ok false
  | [a] => .ok (oneHolds a)
  | [a, b] => twoHolds k a b
  | [a, b, c] => threeHolds k a b c
  | [a, b, c, d] =>
    if a = ['!'] then (threeHolds k b c d).map fun holds => !holds
    else if a = ['('] ∧ d = [')'] then twoHolds k b c
    else read args
  | args => read args

/-- Whether a condition holds that arguments state; after a bracket another one has to end them. -/
def holds (k : Knowledge) (inBrackets : Bool) (args : List Octets) : Except Problem Bool :=
  if !inBrackets then evaluate k args
  else if args.getLast? = some [']'] then evaluate k args.dropLast
  else .error .noBracket

end Judgement

/-- Tells by its exit code whether a condition holds. -/
def testProgram : Program := fun i =>
  let k : Judgement.Knowledge := ⟨.program, i.files, fun _ => false, fun _ => false⟩
  match Judgement.holds k (i.name.getLast? == some '[') i.args with
  | .ok holds => { i.start with code := if holds then 0 else 1 }
  | .error problem => i.start.fail i.name 2 (problem.message .program)

end CallForest
