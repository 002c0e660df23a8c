import CallForest.Program.Regex

/-!
# Programs on words

Programs that work on their arguments: parts of paths, values of expressions, and what is known of
the machine and the environment.
-/

namespace CallForest

/-- Ends a program with what is said of its operands. -/
def refuseOperands (i : Invocation) (code : Nat) (text : Octets) : Effect :=
  (i.start.fail i.name code text).complain (OptionTable.hint i.name)

/-! ## Paths -/

/-- A path without the slashes at its end. -/
def withoutSlashes (s : Octets) : Octets := (s.reverse.dropWhile (· == '/')).reverse

/-- The last name on a path. -/
def lastName (s : Octets) : Octets :=
  let t := withoutSlashes s
  if t.isEmpty then s.take 1 else (t.reverse.takeWhile (· ≠ '/')).reverse

/-- A name without an ending, unless it is nothing else. -/
def withoutEnding (ending name : Octets) : Octets :=
  if ending.isSuffixOf name && ending.length < name.length then
    name.take (name.length - ending.length)
  else name

/-- Prints the last names on paths. -/
def basenameProgram : Program := fun i =>
  let table : OptionTable :=
    ⟨[('a', .never), ('s', .always), ('z', .never)],
      [("multiple", 'a', .never), ("suffix", 's', .always), ("zero", 'z', .never)], true⟩
  table.run "basename" 1 (fun _ => none) i fun given operands =>
    let several := isGiven given 'a' || isGiven given 's'
    let newline := if isGiven given 'z' then [Char.ofNat 0] else ['\n']
    match operands with
    | [] => refuseOperands i 1 "missing operand".toList
    | path :: rest =>
      if several then
        let ending := (givenValue? given 's').getD []
        i.start.print (operands.flatMap fun p => withoutEnding ending (lastName p) ++ newline)
      else
        match rest with
        | _ :: extra :: _ =>
          refuseOperands i 1 ("extra operand ".toList ++ QuotedName.ofArgument extra)
        | rest => i.start.print (withoutEnding (rest.headD []) (lastName path) ++ newline)

/-- Prints paths without their last names. -/
def dirnameProgram : Program := fun i =>
  let table := OptionTable.ofLetters "z" [("zero", 'z')]
  table.run "dirname" 1 (fun _ => none) i fun given operands =>
    let newline := if isGiven given 'z' then [Char.ofNat 0] else ['\n']
    if operands.isEmpty then refuseOperands i 1 "missing operand".toList
    else
      i.start.print (operands.flatMap fun p =>
        let t := withoutSlashes p
        let above := (t.reverse.dropWhile (· ≠ '/')).reverse
        let shown :=
          if t.isEmpty then if p.isEmpty then ['.'] else ['/']
          else if above.isEmpty then ['.']
          else if (withoutSlashes above).isEmpty then ['/']
          else withoutSlashes above
        shown ++ newline)

/-! ## Expressions -/

namespace Expression

/-- What is wrong with an expression, with the exit code. -/
abbrev Outcome := Except Octets (Octets × List Octets)

/-- The number that a value shows. -/
def number? (s : Octets) : Option Int :=
  match s with
  | '-' :: c :: cs =>
    if (c :: cs).all Char.isDigit then some (-(Numeral.digitsFrom 10 0 (c :: cs)).1) else none
  | c :: cs =>
    if (c :: cs).all Char.isDigit then some ((Numeral.digitsFrom 10 0 (c :: cs)).1 : Int) else none
  | [] => none

/-- A number as a value. -/
def shown (n : Int) : Octets :=
  (if n < 0 then ['-'] else []) ++ Text.decimal n.natAbs

/-- Whether a value counts as nothing. -/
def isNull (s : Octets) : Bool := s.isEmpty || number? s == some 0

/-- The operators of a level, the weakest first. -/
def operatorsOf : Nat → List String
  | 0 => ["|"]
  | 1 => ["&"]
  | 2 => ["<", "<=", "=", "==", "!=", ">=", ">"]
  | 3 => ["+", "-"]
  | 4 => ["*", "/", "%"]
  | _ => [":"]

/-- What a match of a pattern at the beginning of a text comes to: the text of its group if it has
one, and otherwise its length. -/
def matched (text pattern : Octets) : Except Octets Octets :=
  match Regex.ofText ⟨true, false, false⟩ pattern with
  | .error e => .error e.message.toList
  | .ok r =>
    let hasGroup := (pattern.zip pattern.tail).any fun p => p == ('\\', '(')
    match r.matchAt? false text (.ofText text) with
    | some p => .ok (if hasGroup then p.groupText text 1 else Text.decimal p.offset)
    | none => .ok (if hasGroup then [] else ['0'])

/-- The value of an operator between two values. -/
def apply (operator : String) (a b : Octets) : Except Octets Octets :=
  let arithmetic (f : Int → Int → Except Octets Int) : Except Octets Octets :=
    match number? a, number? b with
    | some m, some n => (f m n).map shown
    | _, _ => .error "non-integer argument".toList
  let comparison (holds : Ordering → Bool) : Except Octets Octets :=
    let o := match number? a, number? b with
      | some m, some n => compare m n
      | _, _ => compare (String.ofList a) (String.ofList b)
    .ok (if holds o then ['1'] else ['0'])
  match operator with
  | "|" => .ok (if !isNull a then a else if !isNull b then b else ['0'])
  | "&" => .ok (if isNull a || isNull b then ['0'] else a)
  | "<" => comparison (· == .lt)
  | "<=" => comparison (· != .gt)
  | "=" | "==" => comparison (· == .eq)
  | "!=" => comparison (· != .eq)
  | ">=" => comparison (· != .lt)
  | ">" => comparison (· == .gt)
  | "+" => arithmetic fun m n => .ok (m + n)
  | "-" => arithmetic fun m n => .ok (m - n)
  | "*" => arithmetic fun m n => .ok (m * n)
  | "/" => arithmetic fun m n =>
    if n = 0 then .error "division by zero".toList else .ok (Int.tdiv m n)
  | "%" => arithmetic fun m n =>
    if n = 0 then .error "division by zero".toList else .ok (Int.tmod m n)
  | _ => matched a b

mutual

/-- Reads an expression of a level and gives its value. -/
def level : Nat → Nat → List Octets → Outcome
  | 0, _, _ => .error "syntax error".toList
  | steps + 1, n, args => do
    let (value, rest) ← if n ≤ 5 then level steps (n + 1) args else primary steps args
    if n ≤ 5 then more steps n value rest else return (value, rest)

/-- Applies the operators of a level that follow a value. -/
def more : Nat → Nat → Octets → List Octets → Outcome
  | 0, _, value, rest => .ok (value, rest)
  | steps + 1, n, value, rest =>
    match rest with
    | operator :: others =>
      if String.ofList operator ∈ operatorsOf n then
        if others.isEmpty then
          .error ("syntax error: missing argument after ".toList ++ QuotedName.ofArgument operator)
        else do
          let (second, others) ← level steps (n + 1) others
          let value ← apply (String.ofList operator) value second
          more steps n value others
      else .ok (value, rest)
    | [] => .ok (value, [])

/-- Reads a value, a function of values, or an expression in parentheses. -/
def primary : Nat → List Octets → Outcome
  | 0, _ => .error "syntax error".toList
  | _ + 1, [] => .error "syntax error".toList
  | steps + 1, a :: rest =>
    let missing : Outcome :=
      .error ("syntax error: missing argument after ".toList ++
        QuotedName.ofArgument (rest.getLastD a))
    let argument (rest : List Octets) : Outcome :=
      if rest.isEmpty then missing else primary steps rest
    match String.ofList a with
    | "(" =>
      if rest.isEmpty then missing
      else do
        let (value, others) ← level steps 0 rest
        match others with
        | [')'] :: others => return (value, others)
        | other :: _ =>
          throw ("syntax error: expecting ')' instead of ".toList ++ QuotedName.ofArgument other)
        | [] =>
          throw ("syntax error: expecting ')' after ".toList ++
            QuotedName.ofArgument (rest.getLastD a))
    | ")" => .error "syntax error: unexpected ')'".toList
    | "+" =>
      match rest with
      | s :: others => .ok (s, others)
      | [] => missing
    | "length" => do
      let (s, others) ← argument rest
      return (Text.decimal s.length, others)
    | "substr" => do
      let (s, others) ← argument rest
      let (position, others) ← argument others
      let (count, others) ← argument others
      match number? position, number? count with
      | some p, some c =>
        return (if p ≤ 0 ∨ c ≤ 0 then [] else (s.drop (p.toNat - 1)).take c.toNat, others)
      | _, _ => return ([], others)
    | "index" => do
      let (s, others) ← argument rest
      let (chars, others) ← argument others
      return (Text.decimal (((s.findIdx? (· ∈ chars)).map (· + 1)).getD 0), others)
    | "match" => do
      let (s, others) ← argument rest
      let (pattern, others) ← argument others
      return (← matched s pattern, others)
    | _ => .ok (a, rest)

end

end Expression

/-- Prints the value of an expression. -/
def exprProgram : Program := fun i =>
  let args := match i.args with
    | ['-', '-'] :: args => args
    | args => args
  if args.isEmpty then refuseOperands i 2 "missing operand".toList
  else
    match Expression.level (8 * args.length + 16) 0 args with
    | .error problem => i.start.fail i.name 2 problem
    | .ok (_, extra :: _) =>
      i.start.fail i.name 2
        ("syntax error: unexpected argument ".toList ++ QuotedName.ofArgument extra)
    | .ok (value, []) =>
      (i.start.print (value ++ ['\n'])).withCode (if Expression.isNull value then 1 else 0)

/-! ## What is known -/

/-- Prints variables of the environment. -/
def printenvProgram : Program := fun i =>
  let table := { OptionTable.ofLetters "0" [("null", '0')] with operandsEnd := true }
  table.run "printenv" 2 (fun _ => none) i fun given names =>
    let newline := if isGiven given '0' then [Char.ofNat 0] else ['\n']
    if names.isEmpty then
      i.start.print (i.environment.flatMap fun v => v.1.toList ++ '=' :: v.2 ++ newline)
    else
      names.foldl (fun e name =>
        match i.environment.lookup (String.ofList name) with
        | some value => e.print (value ++ newline)
        | none => e.withCode 1) i.start

/-- What the machine tells of itself, by the letters of options. The last two of them are not
known. -/
def machineFacts : List (Char × String) :=
  [('s', "Linux"), ('n', "localhost"), ('r', "6.1.0"), ('v', "#1 SMP"), ('m', "x86_64"),
    ('p', "unknown"), ('i', "unknown"), ('o', "GNU/Linux")]

/-- Prints what the machine tells of itself. -/
def unameProgram : Program := fun i =>
  let table := OptionTable.ofLetters "asnrvmpio"
    [("all", 'a'), ("kernel-name", 's'), ("sysname", 's'), ("nodename", 'n'),
      ("kernel-release", 'r'), ("release", 'r'), ("kernel-version", 'v'), ("machine", 'm'),
      ("processor", 'p'), ("hardware-platform", 'i'), ("operating-system", 'o')]
  table.run "uname" 1 (fun _ => none) i fun given operands =>
    match operands with
    | extra :: _ => refuseOperands i 1 ("extra operand ".toList ++ QuotedName.ofArgument extra)
    | [] =>
      let shown := machineFacts.filter fun (c, fact) =>
        if isGiven given 'a' then fact ≠ "unknown"
        else isGiven given c || (given.isEmpty && c = 's')
      i.start.print ([' '].intercalate (shown.map fun f => f.2.toList) ++ ['\n'])

/-- Prints the working directory. -/
def pwdProgram : Program := fun i =>
  i.start.print (Octets.ofText (FileSystem.pathOf i.files.workingDirectory) ++ ['\n'])

/-- Prints a fixed line. -/
def fixedProgram (line : String) : Program := fun i => i.start.print (line.toList ++ ['\n'])

/-- Ends with a code; under the only argument `--version` prints its name. -/
def endingProgram (title : String) (code : Nat) : Program := fun i =>
  match i.args with
  | [arg] =>
    if arg = "--version".toList then
      { i.start.print ((title ++ " 9.1\n").toList) with code := code }
    else { i.start with code := code }
  | _ => { i.start with code := code }

end CallForest
