import CallForest.Program.Regex

/-!
# Scripts that edit lines

A script is a list of commands, each a letter with what belongs to it, and in front of it the lines
that it is for. `Script.read` reads one; a fault in it has a place, which is told by how much of the
script was not read by then.
-/

namespace CallForest

namespace Sed

/-- Which lines are meant. -/
inductive Address where
  | line (n : Nat)
  | last
  /-- The lines that fit an expression; none stands for the one that was used last. -/
  | fits (r : Option Regex) (ignoreCase : Bool)
  /-- Every so many lines from one on. -/
  | every (first step : Nat)
  /-- So many lines behind the first. -/
  | further (n : Nat)
  /-- The next line whose number is a multiple. -/
  | multiple (n : Nat)

/-- A part of what is put in the place of a match. -/
inductive Part where
  | text (s : Octets)
  | group (n : Nat)
  /-- What is to become of the letters that follow: `U` and `L` put them into upper or lower case up
  to `E`, `u` and `l` only the first. -/
  | letterCase (c : Char)

/-- What the letters behind a substitution ask for. -/
structure SubstitutionFlags where
  ignoreCase : Bool
  byLine : Bool
  number : Option Nat
  all : Bool
  prints : Bool
  /-- The file that the result is added to. -/
  file : Option Octets

/-- A substitution. -/
structure Substitution where
  /-- What is looked for; none for the expression that was used last. -/
  pattern : Option Regex
  parts : List Part
  flags : SubstitutionFlags

/-- When a branch is taken: always, or depending on whether a substitution was made. -/
inductive BranchKind where
  | always
  | ifSubstituted
  | unlessSubstituted

/-- What a command does. -/
inductive Action where
  | openBlock
  | closeBlock
  /-- A command without arguments, by its letter. -/
  | simple (c : Char)
  /-- Shows the line with all of its characters visible, in pieces of that width. -/
  | list (width : Option Nat)
  | append (text : Octets)
  | insert (text : Octets)
  | change (text : Octets)
  | appendFile (path : Octets)
  | appendLine (path : Octets)
  | write (path : Octets)
  | writeFirst (path : Octets)
  | substitute (s : Substitution)
  | exchange (first second : Octets)
  | label (name : Octets)
  | branch (kind : BranchKind) (label : Octets)
  | quit (prints : Bool) (code : Nat)

/-- A command with the lines it is for. -/
structure Instruction where
  first : Option Address
  second : Option Address
  negated : Bool
  action : Action

/-- A script. -/
abbrev Script := List Instruction

/-! ## Faults -/

/-- Where a fault is: where so much is left, in front of everything, or nowhere in particular. -/
inductive FaultPlace where
  | left (n : Nat)
  | front
  | nowhere

/-- A fault of a script. -/
structure Fault where
  text : String
  place : FaultPlace

/-- A fault found where so much is left. -/
def Fault.at (text : String) (left : Octets) : Fault := ⟨text, .left left.length⟩

/-- Something in the quotes that messages have. -/
def quoted (s : String) : String := String.singleton (Char.ofNat 96) ++ s ++ "'"

/-! ## Texts -/

/-- A text without the blanks in front of it. -/
def skipBlanks (s : Octets) : Octets := s.dropWhile fun c => c == ' ' || c == '\t'

/-- What a letter and what follows it behind a backslash stand for, and the rest, if they stand for
a character by its name or its number. -/
def escaped? (s : Octets) : Option (Char × Octets) :=
  let numbered (base width : Nat) (letter : Char) (cs : Octets) : Char × Octets :=
    let digits := (cs.take width).takeWhile fun c => (Numeral.digitIn? base c).isSome
    if digits.isEmpty then (letter, cs)
    else (Char.ofNat ((Numeral.digitsFrom base 0 digits).1 % 256), cs.drop digits.length)
  match s with
  | 'a' :: cs => some (Char.ofNat 7, cs)
  | 'f' :: cs => some (Char.ofNat 12, cs)
  | 'n' :: cs => some ('\n', cs)
  | 'r' :: cs => some ('\r', cs)
  | 't' :: cs => some ('\t', cs)
  | 'v' :: cs => some (Char.ofNat 11, cs)
  | 'c' :: c :: cs => some (Char.ofNat (c.toUpper.toNat ^^^ 64), cs)
  | 'd' :: cs => some (numbered 10 3 'd' cs)
  | 'o' :: cs => some (numbered 8 3 'o' cs)
  | 'x' :: cs => some (numbered 16 2 'x' cs)
  | _ => none

/-- An expression with the characters in it that have a name or a number. The first argument bounds
the number of steps. -/
def withEscapes : Nat → Octets → Octets
  | 0, _ => []
  | _ + 1, [] => []
  | steps + 1, '\\' :: cs =>
    match escaped? cs, cs with
    | some ('\\', rest), _ => '\\' :: '\\' :: withEscapes steps rest
    | some (c, rest), _ => c :: withEscapes steps rest
    | none, c :: rest => '\\' :: c :: withEscapes steps rest
    | none, [] => ['\\']
  | steps + 1, c :: cs => c :: withEscapes steps cs

/-- The characters that are meant by a text. The first argument bounds the number of steps. -/
def plain : Nat → Octets → Octets
  | 0, _ => []
  | _ + 1, [] => []
  | steps + 1, '\\' :: cs =>
    match escaped? cs, cs with
    | some (c, rest), _ => c :: plain steps rest
    | none, c :: rest => c :: plain steps rest
    | none, [] => ['\\']
  | steps + 1, c :: cs => c :: plain steps cs

/-- What of a bracket in an expression stands in front of its first element that can end it. -/
def bracketFront : Octets → Octets
  | '^' :: ']' :: _ => ['^', ']']
  | '^' :: _ => ['^']
  | ']' :: _ => [']']
  | _ => []

/-- The rest of the name of a class in a bracket, up to the bracket that ends it. -/
def classFront : Octets → Octets
  | ':' :: cs =>
    let name := cs.takeWhile Char.isAlpha
    if [':', ']'].isPrefixOf (cs.drop name.length) then ':' :: name ++ [':', ']'] else []
  | _ => []

/-- Reads a text up to a delimiter that has no backslash in front; such a backslash is dropped. In
an expression, brackets keep delimiters; `inside` tells that one is open. If the line ends before,
the result is what is left there. The first argument bounds the number of steps. -/
def delimited (delimiter : Char) (isExpression : Bool) : Nat → (inside : Bool) → Octets →
    Except Octets (Octets × Octets)
  | 0, _, s => .error s
  | _ + 1, _, [] => .error []
  | steps + 1, inside, c :: cs =>
    if c = delimiter && c ≠ '\n' && !inside then .ok ([], cs)
    else if c = '\n' then .error (c :: cs)
    else if c = '\\' then
      match cs with
      | [] => .error []
      | d :: rest =>
        let keeps := d ≠ '\n' && (d ≠ delimiter || (!isExpression && d = '&'))
        (delimited delimiter isExpression steps inside rest).map fun (s, rest) =>
          (if keeps then '\\' :: d :: s else d :: s, rest)
    else
      let front :=
        if !isExpression || c ≠ '[' then [] else if inside then classFront cs else bracketFront cs
      let inside := if c = '[' then isExpression else inside && c ≠ ']'
      (delimited delimiter isExpression steps inside (cs.drop front.length)).map fun (s, rest) =>
        (c :: front ++ s, rest)

/-- Reads the lines of a text on: all up to an end of line that has no backslash in front. The first
argument bounds the number of steps. -/
def textLines : Nat → Octets → Octets × Octets
  | 0, s => (['\n'], s)
  | _ + 1, [] | _ + 1, ['\\'] => (['\n'], [])
  | _ + 1, '\n' :: cs => (['\n'], cs)
  | steps + 1, '\\' :: c :: cs =>
    let (d, rest) := (escaped? (c :: cs)).getD (c, cs)
    let (text, rest) := textLines steps rest
    (d :: text, rest)
  | steps + 1, c :: cs =>
    let (text, rest) := textLines steps cs
    (c :: text, rest)

/-- Reads the text of a command that prints one, and what stands behind. The text is on the line of
the command, or on the next if a backslash ends that. -/
def readText (s : Octets) : Octets × Octets :=
  match skipBlanks s with
  | '\\' :: cs =>
    match skipBlanks cs, cs with
    | [], _ => ([], [])
    | '\n' :: rest, _ => textLines (rest.length + 1) rest
    | _, c :: rest =>
      let (text, rest) := textLines (rest.length + 1) rest
      (c :: text, rest)
    | _, [] => ([], [])
  | s => textLines (s.length + 1) s

/-- Reads the name of a label. -/
def readLabel (s : Octets) : Octets × Octets :=
  let s := skipBlanks s
  let name := s.takeWhile fun c => !Numeral.isBlank c && c ≠ ';' && c ≠ '\x7d'
  (name, s.drop name.length)

/-- Reads the name of a file, which takes the rest of the line. -/
def readName (s : Octets) : Except Fault (Octets × Octets) :=
  let s := skipBlanks s
  let name := s.takeWhile (· ≠ '\n')
  let rest := s.drop (name.length + 1)
  if name.isEmpty then .error (.at "missing filename in r/R/w/W commands" rest)
  else .ok (name, rest)

/-- Reads the end of a command. -/
def readEnd (s : Octets) : Except Fault Octets :=
  match skipBlanks s with
  | [] => .ok []
  | c :: cs =>
    if c = '\x7d' ∨ c = '#' then .ok (c :: cs)
    else if c = ';' ∨ c = '\n' then .ok cs
    else .error (.at "extra characters after command" cs)

/-- Reads a number, which may have no digits. -/
def readNumber (s : Octets) : Nat × Octets :=
  let digits := s.takeWhile Char.isDigit
  ((Numeral.digitsFrom 10 0 digits).1, s.drop digits.length)

/-! ## Expressions and addresses -/

/-- Reads an expression that is used for so many groups; an empty one stands for the last that was
used. A fault is found where so much is left. -/
def readPattern (extended byLine ignoreCase : Bool) (groups : Nat) (s left : Octets) :
    Except Fault (Option Regex) :=
  if s.isEmpty then
    if byLine || ignoreCase then .error (.at "cannot specify modifiers on empty regexp" left)
    else .ok none
  else
    match Regex.ofText ⟨!extended, false, byLine⟩ (withEscapes (s.length + 1) s) with
    | .error .bareClass => .error ⟨Regex.Problem.bareClass.message, .nowhere⟩
    | .error e => .error (.at e.message left)
    | .ok r =>
      if r.groupCount < groups then
        .error (.at ("invalid reference \\" ++ String.ofList (Text.decimal groups) ++ " on " ++
          quoted "s" ++ " command's RHS") left)
      else .ok (some r)

/-- Reads the letters behind the expression of an address: whether it ignores the case of letters,
and whether it goes by lines. -/
def readAddressFlags (ignoreCase byLine : Bool) : Octets → Bool × Bool × Octets
  | 'I' :: cs => readAddressFlags true byLine cs
  | 'M' :: cs => readAddressFlags ignoreCase true cs
  | ' ' :: cs | '\t' :: cs => readAddressFlags ignoreCase byLine cs
  | s => (ignoreCase, byLine, s)

/-- Reads an address, if one stands here. -/
def readAddress (extended : Bool) (s : Octets) : Except Fault (Option Address × Octets) :=
  match s with
  | '$' :: cs => .ok (some .last, cs)
  | '/' :: cs => pattern '/' cs
  | ['\\'] => .error (.at "unterminated address regex" [])
  | '\\' :: d :: cs => pattern d cs
  | '+' :: cs =>
    let (n, rest) := readNumber (skipBlanks cs)
    .ok (some (.further n), rest)
  | '~' :: cs =>
    let (n, rest) := readNumber (skipBlanks cs)
    .ok (some (.multiple n), rest)
  | c :: _ =>
    if c.isDigit then
      let (n, rest) := readNumber s
      match skipBlanks rest with
      | '~' :: cs =>
        let (step, rest) := readNumber (skipBlanks cs)
        .ok (some (if step = 0 then .line n else .every n step), rest)
      | rest => .ok (some (.line n), rest)
    else .ok (none, s)
  | [] => .ok (none, s)
where
  /-- Reads an expression up to its delimiter, and the letters behind it. -/
  pattern (d : Char) (cs : Octets) : Except Fault (Option Address × Octets) :=
    match delimited d true (cs.length + 1) false cs with
    | .error left => .error (.at "unterminated address regex" left)
    | .ok (p, rest) =>
      let (ignoreCase, byLine, rest) := readAddressFlags false false rest
      (readPattern extended byLine ignoreCase 0 p rest).map fun r =>
        (some (.fits r ignoreCase), rest)

/-! ## Substitutions -/

/-- The parts of what is put in the place of a match. The first argument bounds the number of
steps. -/
def readParts : Nat → Octets → List Part
  | 0, _ => []
  | _ + 1, [] => []
  | steps + 1, '\\' :: c :: cs =>
    if c.isDigit then .group (c.toNat - 48) :: readParts steps cs
    else if c ∈ ['U', 'L', 'E', 'u', 'l'] then .letterCase c :: readParts steps cs
    else
      let (d, rest) := (escaped? (c :: cs)).getD (c, cs)
      .text [d] :: readParts steps rest
  | steps + 1, '&' :: cs => .group 0 :: readParts steps cs
  | steps + 1, c :: cs => .text [c] :: readParts steps cs

/-- The highest number of a group in parts. -/
def groupsOf (parts : List Part) : Nat :=
  parts.foldl (fun n p =>
    match p with
    | .group m => max n m
    | _ => n) 0

/-- Reads the letters behind a substitution on. The first argument bounds the number of steps. -/
def readFlags : Nat → SubstitutionFlags → Octets → Except Fault (SubstitutionFlags × Octets)
  | 0, f, s => .ok (f, s)
  | _ + 1, f, [] => .ok (f, [])
  | steps + 1, f, c :: cs =>
    let several (what : String) : Fault :=
      .at ("multiple " ++ what ++ " options to " ++ quoted "s" ++ " command") cs
    match c with
    | ';' | '\n' => .ok (f, cs)
    | '\x7d' | '#' => .ok (f, c :: cs)
    | ' ' | '\t' | 'e' => readFlags steps f cs
    | 'i' | 'I' => readFlags steps { f with ignoreCase := true } cs
    | 'm' | 'M' => readFlags steps { f with byLine := true } cs
    | 'g' =>
      if f.all then .error (several (quoted "g")) else readFlags steps { f with all := true } cs
    | 'p' =>
      if f.prints then .error (several (quoted "p"))
      else readFlags steps { f with prints := true } cs
    | 'w' => (readName cs).map fun (name, rest) => ({ f with file := some name }, rest)
    | c =>
      if !c.isDigit then .error (.at ("unknown option to " ++ quoted "s") cs)
      else if f.number.isSome then .error (several "number")
      else
        let (n, rest) := readNumber (c :: cs)
        if n = 0 then
          .error (.at ("number option to " ++ quoted "s" ++ " command may not be zero") rest)
        else readFlags steps { f with number := some n } rest

/-- Reads two texts that delimiters end; the first character is the delimiter. -/
def readPair (letter : String) (isExpression : Bool) (s : Octets) :
    Except Fault (Octets × Octets × Octets) :=
  let unterminated (left : Octets) : Fault :=
    .at ("unterminated " ++ quoted letter ++ " command") left
  match s with
  | [] => .error (unterminated [])
  | d :: cs =>
    match delimited d isExpression (cs.length + 1) false cs with
    | .error left => .error (unterminated left)
    | .ok (first, rest) =>
      match delimited d false (rest.length + 1) false rest with
      | .error left => .error (unterminated left)
      | .ok (second, rest) => .ok (first, second, rest)

/-- Reads a substitution behind its letter. -/
def readSubstitution (extended : Bool) (s : Octets) : Except Fault (Substitution × Octets) := do
  let (pattern, replacement, rest) ← readPair "s" true s
  let (flags, rest) ← readFlags (rest.length + 1) ⟨false, false, none, false, false, none⟩ rest
  let parts := readParts (replacement.length + 1) replacement
  let r ← readPattern extended flags.byLine flags.ignoreCase (groupsOf parts) pattern rest
  return (⟨r, parts, flags⟩, rest)

/-! ## Commands -/

/-- Whether a version that a script asks for is at hand. -/
def isKnownVersion (version : Octets) : Bool :=
  let number? (n : Octets) : Option Nat :=
    if n.all Char.isDigit then some (readNumber n).1 else none
  match (version.splitOn '.').map number? with
  | some major :: more => !version.isEmpty &&
    (major < 4 || (major = 4 && more.head?.all fun minor => minor.any (· ≤ 9)))
  | _ => false

/-- Reads the action of a command; `several` tells that two addresses stand in front of it. -/
def readAction (extended several : Bool) (c : Char) (s : Octets) :
    Except Fault (Action × Octets) :=
  let text (make : Octets → Action) : Except Fault (Action × Octets) :=
    if (skipBlanks s).isEmpty then
      .error (.at ("expected \\ after " ++ quoted "a" ++ ", " ++ quoted "c" ++ " or " ++ quoted "i")
        [])
    else
      let (t, rest) := readText s
      .ok (make t, rest)
  let named (make : Octets → Action) : Except Fault (Action × Octets) :=
    (readName s).map fun (name, rest) => (make name, rest)
  let branch (kind : BranchKind) : Except Fault (Action × Octets) :=
    let (label, rest) := readLabel s
    .ok (.branch kind label, rest)
  let quit (prints : Bool) : Except Fault (Action × Octets) :=
    if several then .error (.at "command only uses one address" s)
    else
      let (code, rest) := readNumber (skipBlanks s)
      (readEnd rest).map fun rest => (.quit prints code, rest)
  match c with
  | '\x7b' => .ok (.openBlock, s)
  | '\x7d' => (readEnd s).map fun rest => (.closeBlock, rest)
  | 's' => (readSubstitution extended s).map fun (x, rest) => (.substitute x, rest)
  | 'y' => do
    let (a, b, rest) ← readPair "y" false s
    let a := plain (a.length + 1) a
    let b := plain (b.length + 1) b
    if a.length ≠ b.length then
      throw (.at ("strings for " ++ quoted "y" ++ " command are different lengths") rest)
    return (.exchange a b, ← readEnd rest)
  | 'a' => text .append
  | 'i' => text .insert
  | 'c' => text .change
  | ':' =>
    let (label, rest) := readLabel s
    if label.isEmpty then .error (.at "\":\" lacks a label" rest) else .ok (.label label, rest)
  | 'b' => branch .always
  | 't' => branch .ifSubstituted
  | 'T' => branch .unlessSubstituted
  | 'r' => named .appendFile
  | 'R' => named .appendLine
  | 'w' => named .write
  | 'W' => named .writeFirst
  | 'q' => quit true
  | 'Q' => quit false
  | 'l' =>
    let rest := skipBlanks s
    let (n, behind) := readNumber rest
    let width := if behind.length < rest.length then some n else none
    (readEnd behind).map fun rest => (.list width, rest)
  | 'v' =>
    let (version, rest) := readLabel s
    if version.isEmpty || isKnownVersion version then .ok (.simple 'v', rest)
    else .error (.at "expected newer version of sed" rest)
  | '=' | 'd' | 'D' | 'g' | 'G' | 'h' | 'H' | 'n' | 'N' | 'p' | 'P' | 'x' | 'z' =>
    (readEnd s).map fun rest => (.simple c, rest)
  | c => .error (.at ("unknown command: " ++ quoted (String.singleton c)) s)

/-- Reads the addresses in front of a command. -/
def readAddresses (extended : Bool) (s : Octets) :
    Except Fault (Option Address × Option Address × Octets) := do
  let (first, rest) ← readAddress extended s
  if first.isNone then return (none, none, s)
  match first with
  | some (.further _) | some (.multiple _) =>
    throw (.at "invalid usage of +N or ~N as first address" rest)
  | _ => pure ()
  let (second, rest) ← match skipBlanks rest with
    | ',' :: cs =>
      match ← readAddress extended (skipBlanks cs) with
      | (none, rest) => .error (.at ("unexpected " ++ quoted ",") (rest.drop 1))
      | found => pure found
    | rest => pure (none, rest)
  let rest := skipBlanks rest
  match first, second with
  | some (.line 0), some (.fits ..) => pure ()
  | some (.line 0), _ => throw (.at "invalid usage of line address 0" (rest.drop 1))
  | _, _ => pure ()
  return (first, second, rest)

/-- Reads a script on; `depth` tells how many blocks have begun. The first argument bounds the
number of commands. -/
def readFrom (extended : Bool) : Nat → (depth : Nat) → Octets → Except Fault Script
  | 0, _, _ => .ok []
  | steps + 1, depth, s => do
    let s := s.dropWhile fun c => Numeral.isBlank c || c == ';'
    match s with
    | [] => if depth = 0 then return [] else throw ⟨"unmatched " ++ quoted "\x7b", .front⟩
    | '#' :: cs => readFrom extended steps depth (cs.dropWhile (· ≠ '\n'))
    | s =>
      let (first, second, s) ← readAddresses extended s
      let (negated, s) := match s with
        | '!' :: cs => (true, skipBlanks cs)
        | cs => (false, cs)
      match s with
      | [] => throw (.at "missing command" [])
      | c :: cs =>
        if c = '!' then throw (.at ("multiple " ++ quoted "!" ++ "s") cs)
        if c = '#' then throw (.at "comments don't accept any addresses" cs)
        if c = '\x7d' && depth = 0 then throw (.at ("unexpected " ++ quoted "\x7d") cs)
        if c = '\x7d' && first.isSome then
          throw (.at (quoted "\x7d" ++ " doesn't want any addresses") cs)
        if c = ':' && first.isSome then throw (.at ": doesn't want any addresses" cs)
        let (action, rest) ← readAction extended second.isSome c cs
        let depth := if c = '\x7b' then depth + 1 else if c = '\x7d' then depth - 1 else depth
        return ⟨first, second, negated, action⟩ :: (← readFrom extended steps depth rest)

namespace Script

/-- Reads a script. -/
def read (extended : Bool) (s : Octets) : Except Fault Script :=
  readFrom extended (s.length + 1) 0 s

/-- The label that a command of a script goes to although there is none. -/
def missingLabel? (script : Script) : Option Octets :=
  let labels := script.filterMap fun i => match i.action with
    | .label l => some l
    | _ => none
  script.findSome? fun i => match i.action with
    | .branch _ l => if !l.isEmpty && !labels.contains l then some l else none
    | _ => none

/-- The files that a script writes to. -/
def outputFiles (script : Script) : List Octets :=
  (script.filterMap fun i => match i.action with
    | .write path | .writeFirst path => some path
    | .substitute s => s.flags.file
    | _ => none).filter fun path => path ≠ "/dev/stdout".toList && path ≠ "/dev/stderr".toList

end Script

end Sed

end CallForest
