import CallForest.Program.Effect

/-!
# Options of programs

Options are single letters behind a hyphen, several of which may stand together, or words behind two
hyphens, which may be cut short as long as they stay unambiguous. They may stand among the operands;
two hyphens alone end them.
-/

namespace CallForest

/-- Whether an option has a value. -/
inductive ValueKind where
  | never
  | always
  | optional
  deriving DecidableEq, Repr

/-- The options of a program. Words stand for letters. -/
structure OptionTable where
  letters : List (Char × ValueKind)
  words : List (String × Char × ValueKind)
  /-- Whether the first operand ends the options. -/
  operandsEnd : Bool

/-- An option that is given, with its value. -/
abbrev GivenOption := Char × Octets

namespace OptionTable

/-- The options of letters that have no values. -/
def ofLetters (letters : String) (words : List (String × Char)) : OptionTable :=
  ⟨letters.toList.map fun c => (c, .never), words.map fun w => (w.1, w.2, .never), false⟩

/-- What is said of options in general behind the problem with one. -/
def hint (name : Octets) : Octets :=
  "Try '".toList ++ name ++ " --help' for more information.\n".toList

/-- The words that an option may mean. -/
def meant (t : OptionTable) (word : Octets) : List (String × Char × ValueKind) :=
  match t.words.find? fun w => w.1.toList = word with
  | some w => [w]
  | none => t.words.filter fun w => word.isPrefixOf w.1.toList

/-- Reads the letters behind a hyphen: the options they are, and whether the last takes the next
argument as its value, or what is wrong with one of them. -/
def readLetters (t : OptionTable) : Octets → List GivenOption × Except Octets (Option Char)
  | [] => ([], .ok none)
  | c :: cs =>
    match t.letters.lookup c with
    | none => ([], .error ("invalid option -- '".toList ++ [c, '\'']))
    | some .never =>
      let (given, awaiting) := t.readLetters cs
      ((c, []) :: given, awaiting)
    | some .optional => ([(c, cs)], .ok none)
    | some .always => if cs.isEmpty then ([], .ok (some c)) else ([(c, cs)], .ok none)

/-- Reads a word behind two hyphens: its letter and value, or its letter alone if the next argument
is its value. -/
def readWord (t : OptionTable) (arg : Octets) : Except Octets (Char × Option Octets) :=
  let word := arg.takeWhile (· ≠ '=')
  let value := if word.length < arg.length then some (arg.drop (word.length + 1)) else none
  let shown := "'--".toList ++ word ++ ['\'']
  match t.meant word with
  | [] => .error ("unrecognized option '--".toList ++ arg ++ ['\''])
  | (full, c, kind) :: others =>
    let name := "'--".toList ++ full.toList ++ ['\'']
    if others.any fun o => o.2.1 ≠ c then
      .error ("option ".toList ++ shown ++ " is ambiguous; possibilities:".toList ++
        (((full, c, kind) :: others).flatMap fun o => " '--".toList ++ o.1.toList ++ ['\'']))
    else
      match kind, value with
      | .never, some _ => .error ("option ".toList ++ name ++ " doesn't allow an argument".toList)
      | .always, none => .ok (c, none)
      | _, value => .ok (c, some (value.getD []))

/-- Reads arguments: the options in order, and then the operands or what is wrong with an option.
`awaiting` is the letter of an option whose value is the next argument, with what is said if there
is none. -/
def readFrom (t : OptionTable) :
    Option (Char × Octets) → List Octets → List GivenOption × Except Octets (List Octets)
  | none, [] => ([], .ok [])
  | some (_, problem), [] => ([], .error problem)
  | some (c, _), value :: args =>
    let (given, operands) := t.readFrom none args
    ((c, value) :: given, operands)
  | none, arg :: args =>
    match arg with
    | ['-', '-'] => ([], .ok args)
    | '-' :: '-' :: word =>
      match t.readWord word with
      | .error e => ([], .error e)
      | .ok (c, some value) =>
        let (given, operands) := t.readFrom none args
        ((c, value) :: given, operands)
      | .ok (c, none) =>
        let full := ((t.meant word).head?.map fun w => w.1.toList).getD word
        t.readFrom (some (c, "option '--".toList ++ full ++ "' requires an argument".toList)) args
    | '-' :: c :: cs =>
      match t.readLetters (c :: cs) with
      | (letters, .error e) => (letters, .error e)
      | (letters, .ok awaiting) =>
        let (given, operands) := t.readFrom
          (awaiting.map fun c => (c, "option requires an argument -- '".toList ++ [c, '\''])) args
        (letters ++ given, operands)
    | operand =>
      if t.operandsEnd then ([], .ok (operand :: args))
      else
        let (given, operands) := t.readFrom none args
        (given, operands.map fun o => operand :: o)

/-- The letter that stands for the option `--version`. -/
def versionLetter : Char := Char.ofNat 1

/-- A text with what is said of options in general behind it. -/
def withHint (name text : Octets) : Octets := text ++ '\n' :: (hint name).dropLast

/-- What a program does with its options and operands, if what is said of options in general is the
text `hint`. An option that there is not, or that `problem?` finds fault with, ends it with a code;
the option `--version` prints the name of the program and ends it. -/
def runHinting (t : OptionTable) (title : String) (code : Nat)
    (problem? : GivenOption → Option Octets) (hint : Octets) (i : Invocation)
    (body : List GivenOption → List Octets → Effect) : Effect :=
  let table := { t with words := t.words ++ [("version", versionLetter, ValueKind.never)] }
  let (given, operands) := table.readFrom none i.args
  match given.find? fun o => o.1 = versionLetter || (problem? o).isSome, operands with
  | some o, _ =>
    match problem? o with
    | some text => i.start.fail i.name code text
    | none => i.start.print ((title ++ " 9.1\n").toList)
  | none, .error e => (i.start.fail i.name code e).complain hint
  | none, .ok operands => body given operands

/-- What a program does with its options and operands. -/
def run (t : OptionTable) (title : String) (code : Nat) (problem? : GivenOption → Option Octets)
    (i : Invocation) (body : List GivenOption → List Octets → Effect) : Effect :=
  t.runHinting title code problem? (hint i.name) i body

end OptionTable

/-- The words that the value of an option may be: groups of those that mean the same, of which the
first stands for the others. The name is what the option is called in messages. -/
structure Choice where
  name : String
  groups : List (List String)

namespace Choice

/-- The word that stands for a value, which may be cut short as long as it stays unambiguous, or
what is wrong with the value. -/
def read (c : Choice) (value : Octets) : Except Octets String :=
  let shown (w : String) : Octets := '\'' :: w.toList ++ ['\'']
  let refuse (what : String) : Except Octets String :=
    .error (what.toList ++ " argument ".toList ++ QuotedName.ofArgument value ++ " for '".toList ++
      c.name.toList ++ "'\nValid arguments are:".toList ++
      c.groups.flatMap fun g => "\n  - ".toList ++ [',', ' '].intercalate (g.map shown))
  match c.groups.find? fun g => g.any (·.toList == value) with
  | some g => .ok (g.headD "")
  | none =>
    match c.groups.filter fun g => g.any fun w => value.isPrefixOf w.toList with
    | [g] => .ok (g.headD "")
    | [] => refuse "invalid"
    | _ => refuse "ambiguous"

/-- What is wrong with a value that has to be one of the words, with what is said of options in
general behind it. -/
def problem? (c : Choice) (program value : Octets) : Option Octets :=
  match c.read value with
  | .ok _ => none
  | .error text => some (OptionTable.withHint program text)

/-- The word that stands for the last value of an option that is given. -/
def given? (c : Choice) (given : List GivenOption) (letter : Char) : Option String :=
  match given.reverse.find? fun o => o.1 = letter with
  | some o => (c.read o.2).toOption
  | none => none

end Choice

/-- Whether an option is given. -/
def isGiven (given : List GivenOption) (c : Char) : Bool := given.any fun o => o.1 = c

/-- The last value of an option that is given. -/
def givenValue? (given : List GivenOption) (c : Char) : Option Octets :=
  (given.reverse.find? fun o => o.1 = c).map Prod.snd

end CallForest
