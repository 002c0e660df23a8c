import CallForest.Program.Numeral
import CallForest.Shell.Reader

/-!
# Tokens of shell scripts

The reader that cuts a script into tokens: words, reserved words, operators, newlines. A word may
hold commands of its own between parentheses or backquotes; the functions here take the reader of
commands as an argument. Where a function counts steps, its first argument bounds them.
-/

namespace CallForest.Shell

/-! ## Words -/

/-- Whether a character ends an unquoted word. -/
def endsWord (c : Char) : Bool :=
  c == ' ' || c == '\t' || c == '\n' || c == ';' || c == '&' || c == '|' || c == '<' || c == '>' ||
    c == '(' || c == ')'

/-- The backquote. -/
def backquote : Char := Char.ofNat 96

/-- Whether a character means something beside itself in some place of a word. -/
def isActive (c : Char) : Bool :=
  c == '\\' || c == '\'' || c == '"' || c == '$' || c == backquote || c == '\x7d'

/-- Whether a character is the name of a parameter by itself. -/
def isSpecialName (c : Char) : Bool :=
  c.isDigit || c ∈ ['#', '?', '$', '@', '*', '!', '-']

/-- Where quoted text stands. -/
inductive Quoting where
  | doubleQuotes
  /-- A document that ends with the text; quotes are characters in it. -/
  | document
  deriving DecidableEq, Repr

/-- Takes the text up to a single quote. -/
def singleQuoted : Parse Octets := do
  let line := (← get).line
  let s := (← get).rest.takeWhile (· ≠ '\'')
  if s.length = (← get).rest.length then
    Parse.skip s.length
    Parse.unclosed '\'' line
  else
    Parse.skip (s.length + 1)
    return s

/-- Digits of a base in front of a text, at most so many, as a number, with what is behind. -/
def escapedNumber (base most : Nat) (cs : Octets) : Nat × Octets :=
  let digits := (cs.take most).takeWhile fun c => (Numeral.digitIn? base c).isSome
  ((Numeral.digitsFrom base 0 digits).1, cs.drop digits.length)

/-- The character of a number, as bytes; one that is no byte is shown by its number. -/
def escapedCharacter (letter : Char) (width n : Nat) : Octets :=
  if n < 128 then [Char.ofNat n]
  else
    let digits := Numeral.inBase true 16 n
    '\\' :: letter :: List.replicate (width - digits.length) '0' ++ digits

/-- What stands for a character behind a backslash in text between a dollar sign with a quote and a
quote: the bytes, and what is behind. -/
def escapedText (cs : Octets) : Octets × Octets :=
  let byte (n : Nat) (rest : Octets) : Octets × Octets := ([Char.ofNat (n % 256)], rest)
  match cs with
  | [] => (['\\'], [])
  | c :: rest =>
    match c with
    | 'a' => byte 7 rest
    | 'b' => byte 8 rest
    | 'e' | 'E' => byte 27 rest
    | 'f' => byte 12 rest
    | 'n' => byte 10 rest
    | 'r' => byte 13 rest
    | 't' => byte 9 rest
    | 'v' => byte 11 rest
    | '\\' | '\'' | '"' | '?' => ([c], rest)
    | 'x' =>
      match escapedNumber 16 2 rest with
      | (n, behind) => if behind.length = rest.length then (['\\', 'x'], rest) else byte n behind
    | 'u' | 'U' =>
      let width := if c = 'u' then 4 else 8
      match escapedNumber 16 width rest with
      | (n, behind) =>
        if behind.length = rest.length then (['\\', c], rest)
        else (escapedCharacter (if n < 65536 then 'u' else 'U') (if n < 65536 then 4 else 8) n,
          behind)
    | 'c' =>
      match rest with
      | d :: behind => byte (d.toUpper.toNat % 32) behind
      | [] => (['\\', 'c'], [])
    | c =>
      if '0' ≤ c ∧ c ≤ '7' then
        let (n, behind) := escapedNumber 8 3 (c :: rest)
        byte n behind
      else (['\\', c], rest)

/-- Takes the text up to a single quote, in which backslashes stand for characters. `done` is what
has been taken, reversed. -/
def escapeQuoted (line : Nat) : Nat → Octets → Parse Octets
  | 0, _ => Parse.unclosed '\'' line
  | steps + 1, done => do
    match (← get).rest with
    | [] => Parse.unclosed '\'' line
    | '\'' :: _ =>
      Parse.skip 1
      return done.reverse.takeWhile (·.toNat ≠ 0)
    | '\\' :: cs =>
      let (text, behind) := escapedText cs
      Parse.skip (cs.length + 1 - behind.length)
      escapeQuoted line steps (text.reverse ++ done)
    | c :: _ =>
      Parse.skip 1
      escapeQuoted line steps (c :: done)

/-- Takes the script between backquotes, backslashes in front of special characters removed. The
flag tells whether the quotes stand in double quotes. -/
def backquoted (inQuotes : Bool) : Nat → Octets → Parse Octets
  | 0, _ => do Parse.unclosed backquote (← get).line
  | steps + 1, done => do
    match (← get).rest with
    | [] => Parse.unclosed backquote (← get).line
    | '\\' :: '\n' :: _ =>
      Parse.skip 2
      backquoted inQuotes steps done
    | '\\' :: c :: _ =>
      Parse.skip 2
      if c = '\\' ∨ c = backquote ∨ c = '$' ∨ (c = '"' ∧ inQuotes) then
        backquoted inQuotes steps (c :: done)
      else backquoted inQuotes steps (c :: '\\' :: done)
    | c :: _ =>
      Parse.skip 1
      if c = backquote then return done.reverse
      else backquoted inQuotes steps (c :: done)

/-- Takes the name of a parameter behind an opening brace, and whether its length is asked for. -/
def bracedName (cs : Octets) : Option (Octets × Bool × Octets) :=
  let plain (cs : Octets) : Option (Octets × Octets) :=
    match cs with
    | [] => none
    | c :: rest =>
      if c.isDigit then
        let name := cs.takeWhile Char.isDigit
        some (name, cs.drop name.length)
      else if isNameStart c then
        let name := cs.takeWhile isNameChar
        some (name, cs.drop name.length)
      else if isSpecialName c then some ([c], rest)
      else none
  match cs with
  | '#' :: c :: d :: rest =>
    if isNameChar c || (c != '\x7d' && d == '\x7d') then
      (plain (c :: d :: rest)).map fun (name, rest) => (name, true, rest)
    else some (['#'], false, c :: d :: rest)
  | cs => (plain cs).map fun (name, rest) => (name, false, rest)

/-- Takes what is to be done to the value of a parameter between braces. -/
def bracedOperation (lengthAsked : Bool) (cs : Octets) : Operation × Octets :=
  let filled (emptyToo : Bool) (c : Char) : Option Operation :=
    match c with
    | '-' => some (.orElse emptyToo)
    | '=' => some (.assign emptyToo)
    | '+' => some (.alternative emptyToo)
    | '?' => some (.demand emptyToo)
    | _ => none
  match lengthAsked, cs with
  | true, '\x7d' :: _ => (.length, cs)
  | true, _ => (.unknown, cs)
  | false, '\x7d' :: _ => (.value, cs)
  | false, '#' :: '#' :: rest => (.withoutFront true, rest)
  | false, '#' :: rest => (.withoutFront false, rest)
  | false, '%' :: '%' :: rest => (.withoutEnd true, rest)
  | false, '%' :: rest => (.withoutEnd false, rest)
  | false, ':' :: c :: rest =>
    match filled true c with
    | some o => (o, rest)
    | none => (.unknown, c :: rest)
  | false, c :: rest =>
    match filled false c with
    | some o => (o, rest)
    | none => (.unknown, cs)
  | false, [] => (.unknown, [])

/-- Takes the name of a parameter behind an opening brace and what is to be done to its value. -/
def bracedParameter (cs : Octets) : Octets × Operation × Octets :=
  match bracedName cs with
  | some (name, lengthAsked, rest) => (name, bracedOperation lengthAsked rest)
  | none => ([], .unknown, cs)

/-- Whether an operation has a pattern behind it, in which quotes count even inside of quotes. -/
def Operation.takesPattern : Operation → Bool
  | withoutFront _ | withoutEnd _ => true
  | _ => false

/-- Skips blanks, joined lines and a comment. -/
def skipBlanks : Nat → Parse Unit
  | 0 => return
  | steps + 1 => do
    match (← get).rest with
    | ' ' :: _ | '\t' :: _ =>
      Parse.skip 1
      skipBlanks steps
    | '\\' :: '\n' :: _ =>
      Parse.skip 2
      skipBlanks steps
    | '#' :: cs =>
      Parse.skip ((cs.takeWhile (· ≠ '\n')).length + 1)
      skipBlanks steps
    | _ => return

/-- Whether a word that is reversed is the name and the sign of an assignment and nothing more. -/
def isAssignmentFront : Word → Bool
  | [.text s false] =>
    let name := s.takeWhile isNameChar
    isName name && (s.drop name.length = ['='] || s.drop name.length = ['+', '='])
  | _ => false

/-- Whether a word that is reversed ends in a character behind which a parenthesis groups parts of a
pattern. -/
def isGroupFront : Word → Bool
  | .text s false :: _ => s.getLast?.any fun c => c ∈ ['?', '*', '+', '@', '!']
  | _ => false

/-- The rest of a key between brackets that has blanks in it, if a word that is reversed ends within
such brackets and the sign of an assignment is behind them. -/
def keyRest? (w : Word) (cs : Octets) : Option Octets :=
  match w with
  | [.text s false] =>
    let name := s.takeWhile isNameChar
    let key := cs.takeWhile (· ≠ ']')
    let isOpen := (name.isEmpty || isName name) && (s.drop name.length).head? == some '[' &&
      !s.contains ']'
    let isPlain := key.all fun c => c ≠ '\n' && !isActive c
    let isAssigned := match cs.drop key.length with
      | ']' :: '=' :: _ | ']' :: '+' :: '=' :: _ => true
      | _ => false
    if isOpen && isPlain && isAssigned then some key else none
  | _ => none

/-- A parameter of the extended language behind its opening brace: whether it is the one that
another one names, its name, whether its length is asked for, and what is left. -/
structure ParameterFront where
  indirect : Bool
  name : Octets
  lengthAsked : Bool
  rest : Octets

/-- Takes the front of a parameter of the extended language. -/
def parameterFront (cs : Octets) : ParameterFront :=
  let plain (indirect : Bool) (cs : Octets) : ParameterFront :=
    match bracedName cs with
    | some (name, lengthAsked, rest) => ⟨indirect, name, lengthAsked, rest⟩
    | none => ⟨indirect, [], false, cs⟩
  match cs with
  | '!' :: c :: rest =>
    if isNameChar c || (c == '#' && rest.head? == some '\x7d') then plain true (c :: rest)
    else plain false cs
  | cs => plain false cs

/-- What is asked of a parameter, the characters that end its words in order, and what is left. The
flags tell whether the parameter is named by another one, and whether it is all of a list. -/
def requestOf (indirect isAll : Bool) (cs : Octets) : Request × List (List Char) × Octets :=
  let brace := '\x7d'
  let one (r : Request) (rest : Octets) : Request × List (List Char) × Octets :=
    (r, [[brace]], rest)
  match cs with
  | '@' :: '\x7d' :: rest =>
    if indirect then (.names, [], brace :: rest) else (.basic .unknown, [[brace]], rest)
  | '*' :: '\x7d' :: rest =>
    if indirect then (.names, [], brace :: rest) else (.basic .unknown, [[brace]], rest)
  | '@' :: c :: '\x7d' :: rest => (.form c, [], brace :: rest)
  | '^' :: '^' :: rest => one (.letters .upper true) rest
  | '^' :: rest => one (.letters .upper false) rest
  | ',' :: ',' :: rest => one (.letters .lower true) rest
  | ',' :: rest => one (.letters .lower false) rest
  | '~' :: '~' :: rest => one (.letters .other true) rest
  | '~' :: rest => one (.letters .other false) rest
  | '/' :: '/' :: rest => (.replace .anywhere true, [['/', brace], [brace]], rest)
  | '/' :: '#' :: rest => (.replace .front false, [['/', brace], [brace]], rest)
  | '/' :: '%' :: rest => (.replace .back false, [['/', brace], [brace]], rest)
  | '/' :: rest => (.replace .anywhere false, [['/', brace], [brace]], rest)
  | ':' :: c :: rest =>
    if c ∈ ['-', '=', '?', '+'] then
      let (o, rest) := bracedOperation false cs
      one (.basic o) rest
    else (.part, [[':', brace], [brace]], c :: rest)
  | '\x7d' :: _ => if indirect && isAll then (.keys, [], cs) else (.basic .value, [], cs)
  | cs =>
    let (o, rest) := bracedOperation false cs
    one (.basic o) rest

mutual

/-- Reads an unquoted word on; `w` holds its pieces so far, reversed. Where `asMark` is set the word
marks the end of a document, and dollar signs and backquotes are characters. -/
def readPlain (commands : CommandReader) (asMark : Bool) : Nat → Word → Parse Word
  | 0, w => return w
  | steps + 1, w => do
    let r ← get
    match r.rest with
    | [] => return w
    | c :: cs =>
      if endsWord c then
        if r.dialect = .plain then return w
        else
          match ← readWithin commands steps w c cs with
          | none => return w
          | some w => readPlain commands asMark steps w
      else if c = '\\' then
        match cs with
        | [] =>
          Parse.skip 1
          return Word.push ['\\'] true w
        | '\n' :: _ =>
          Parse.skip 2
          readPlain commands asMark steps w
        | d :: _ =>
          Parse.skip 2
          readPlain commands asMark steps (Word.push [d] true w)
      else if c = '\'' then
        Parse.skip 1
        let s ← singleQuoted
        readPlain commands asMark steps (.text s true :: w)
      else if c = '"' then
        Parse.skip 1
        let w ← readQuoted commands .doubleQuotes r.line steps (.text [] true :: w)
        readPlain commands asMark steps w
      else if (c = '$' ∨ c = backquote) ∧ !asMark then
        let w ← readSubstitution commands false steps w
        readPlain commands asMark steps w
      else
        let run := cs.takeWhile fun d => !endsWord d && !isActive d
        Parse.skip (run.length + 1)
        readPlain commands asMark steps (Word.push (c :: run) false w)
termination_by structural n => n

/-- Reads on at a character that ends words in the plain language, if it does not in the extended
one: there a list of values, a group of patterns or a process may begin. -/
def readWithin (commands : CommandReader) : Nat → Word → Char → Octets → Parse (Option Word)
  | 0, _, _, _ => return none
  | steps + 1, w, c, cs => do
    if (c = '<' ∨ c = '>') ∧ cs.head? = some '(' then
      Parse.skip 2
      let script ← commands true
      return some (.process script (c == '<') :: w)
    else if c = '(' ∧ isAssignmentFront w then
      let line := (← get).line
      Parse.skip 1
      let items ← readItems commands line steps []
      return some (.items items :: w)
    else if let some key := keyRest? w (c :: cs) then
      Parse.skip key.length
      return some (Word.push key false w)
    else if c = '(' ∧ (← get).groups ∧ isGroupFront w then
      Parse.skip 1
      let w ← readGroup commands false 1 steps (Word.push ['('] false w)
      return some w
    else return none
termination_by structural n => n

/-- Reads the values of a list on, through the parenthesis that ends it. -/
def readItems (commands : CommandReader) (line : Nat) : Nat → List Word → Parse (List Word)
  | 0, items => return items.reverse
  | steps + 1, items => do
    skipBlanks ((← get).rest.length + 1)
    match (← get).rest with
    | [] => Parse.unclosed '(' line
    | '\n' :: _ =>
      Parse.skip 1
      readItems commands line steps items
    | ')' :: _ =>
      Parse.skip 1
      return items.reverse
    | c :: _ =>
      Parse.beginToken
      if endsWord c then
        Parse.skip 1
        Parse.unexpected (.operator (String.singleton c))
      else
        let w ← readPlain commands false steps []
        readItems commands line steps (w.reverse :: items)
termination_by structural n => n

/-- Reads text on in which only quotes and substitutions count. With `atBlank` it ends at a blank
that no parentheses are around, else behind the parenthesis that closes the first one. -/
def readGroup (commands : CommandReader) (atBlank : Bool) : Nat → Nat → Word → Parse Word
  | _, 0, w => return w
  | depth, steps + 1, w => do
    let r ← get
    match r.rest with
    | [] => if atBlank then return w else Parse.unclosed '(' r.line
    | c :: cs =>
      if atBlank ∧ depth = 0 ∧ (c = ' ' ∨ c = '\t' ∨ c = '\n') then return w
      else if c = '\\' then
        Parse.skip 2
        readGroup commands atBlank depth steps (Word.push (cs.take 1) true w)
      else if c = '\'' then
        Parse.skip 1
        let s ← singleQuoted
        readGroup commands atBlank depth steps (.text s true :: w)
      else if c = '"' then
        Parse.skip 1
        let w ← readQuoted commands .doubleQuotes r.line steps (.text [] true :: w)
        readGroup commands atBlank depth steps w
      else if c = '$' ∨ c = backquote then
        let w ← readSubstitution commands false steps w
        readGroup commands atBlank depth steps w
      else
        Parse.skip 1
        let w := Word.push [c] false w
        if c = '(' then readGroup commands atBlank (depth + 1) steps w
        else if c = ')' then
          if depth ≤ 1 ∧ !atBlank then return w
          else readGroup commands atBlank (depth - 1) steps w
        else readGroup commands atBlank depth steps w
termination_by structural _ n => n

/-- Reads quoted text on, through the quote that ends it. -/
def readQuoted (commands : CommandReader) (quoting : Quoting) (line : Nat) : Nat → Word → Parse Word
  | 0, w => return w
  | steps + 1, w => do
    match (← get).rest with
    | [] => if quoting = .document then return w else Parse.unclosed '"' line
    | c :: cs =>
      if c = '"' ∧ quoting = .doubleQuotes then
        Parse.skip 1
        return w
      else if c = '\\' then
        match cs with
        | [] =>
          Parse.skip 1
          readQuoted commands quoting line steps (Word.push ['\\'] true w)
        | '\n' :: _ =>
          Parse.skip 2
          readQuoted commands quoting line steps w
        | d :: _ =>
          Parse.skip 2
          if d = '$' ∨ d = backquote ∨ d = '\\' ∨ (d = '"' ∧ quoting = .doubleQuotes) then
            readQuoted commands quoting line steps (Word.push [d] true w)
          else readQuoted commands quoting line steps (Word.push ['\\', d] true w)
      else if c = '$' ∨ c = backquote then
        let w ← readSubstitution commands true steps w
        readQuoted commands quoting line steps w
      else
        let run := cs.takeWhile fun d => !isActive d
        Parse.skip (run.length + 1)
        readQuoted commands quoting line steps (Word.push (c :: run) true w)
termination_by structural n => n

/-- Reads what begins with a dollar sign or a backquote. -/
def readSubstitution (commands : CommandReader) (quoted : Bool) : Nat → Word → Parse Word
  | 0, w => return w
  | steps + 1, w => do
    match (← get).rest with
    | '$' :: '(' :: '(' :: _ =>
      let line := (← get).line
      Parse.orElse
        (do
          Parse.skip 3
          let expression ← readArithmetic commands line steps 0 []
          return .arithmetic expression.reverse quoted :: w)
        (do
          Parse.skip 2
          let script ← commands true
          return .output script quoted :: w)
    | '$' :: '(' :: _ =>
      Parse.skip 2
      let script ← commands true
      return .output script quoted :: w
    | '$' :: '\x7b' :: _ =>
      let r ← get
      Parse.skip 2
      if r.dialect = .plain then readBraced commands quoted r.line steps w
      else readExtended commands quoted r.line r.rest steps w
    | '$' :: '[' :: _ =>
      if ← Parse.isExtended then
        let line := (← get).line
        Parse.skip 2
        let expression ← readPart commands line [']'] steps []
        Parse.skip 1
        return .arithmetic expression.reverse quoted :: w
      else
        Parse.skip 1
        return Word.push ['$'] quoted w
    | '$' :: c :: cs =>
      if (c = '\'' ∨ c = '"') ∧ !quoted ∧ (← Parse.isExtended) then
        let line := (← get).line
        Parse.skip (if c = '"' then 1 else 2)
        if c = '"' then return w
        else
          let s ← escapeQuoted line (cs.length + 1) []
          return .text s true :: w
      else if isNameStart c then
        let name := c :: cs.takeWhile isNameChar
        Parse.skip (name.length + 1)
        return .parameter (String.ofList name) .value [] quoted :: w
      else if isSpecialName c then
        Parse.skip 2
        return .parameter (String.singleton c) .value [] quoted :: w
      else
        Parse.skip 1
        return Word.push ['$'] quoted w
    | '$' :: [] =>
      Parse.skip 1
      return Word.push ['$'] quoted w
    | c :: cs =>
      Parse.skip 1
      if c = backquote then
        let line := (← get).line
        let script ← backquoted quoted (cs.length + 1) []
        let line := if ← Parse.isExtended then line else 1
        let script ← Parse.within script line (commands false)
        return .output script quoted :: w
      else return Word.push [c] quoted w
    | [] => return w
termination_by structural n => n

/-- Reads a parameter behind its opening brace, which stands on a line. -/
def readBraced (commands : CommandReader) (quoted : Bool) (line : Nat) : Nat → Word → Parse Word
  | 0, w => return w
  | steps + 1, w => do
    let (name, operation, rest) := bracedParameter (← get).rest
    Parse.skip ((← get).rest.length - rest.length)
    let word ← readBracedWord commands (quoted && !operation.takesPattern) false line steps []
    return .parameter (String.ofList name) operation word.reverse quoted :: w
termination_by structural n => n

/-- Reads a parameter of the extended language behind its opening brace. `whole` is what was left
in front of it. -/
def readExtended (commands : CommandReader) (quoted : Bool) (line : Nat) (whole : Octets) :
    Nat → Word → Parse Word
  | 0, w => return w
  | steps + 1, w => do
    let front := parameterFront (← get).rest
    Parse.skip ((← get).rest.length - front.rest.length)
    let index : Option Word ← (do
      if front.rest.head? = some '[' ∧ isName front.name then
        Parse.skip 1
        let index ← readPart commands line [']'] steps []
        Parse.skip 1
        return some index.reverse
      else return none)
    let isAll := match index.bind Word.literal? with
      | some s => s = "@" || s = "*"
      | none => false
    let behind := (← get).rest
    let (request, stops, rest) :=
      if front.lengthAsked then
        let (o, rest) := bracedOperation true behind
        (Request.basic o, if o = .unknown then [['\x7d']] else [], rest)
      else requestOf front.indirect isAll behind
    Parse.skip (behind.length - rest.length)
    let words ← match request with
      | .basic .value => pure []
      | .basic o => do
        if stops.isEmpty then pure []
        else
          let word ← readBracedWord commands (quoted && !o.takesPattern) false line steps []
          modify fun r => { r with rest := '\x7d' :: r.rest }
          pure [word.reverse]
      | request => do
        if request = .replace .anywhere true ∧ (← get).rest.head? = some '/' then
          Parse.skip 1
          readParts commands line steps (Word.push ['/'] true []) stops
        else readParts commands line steps [] stops
    if (← get).rest.isEmpty then Parse.unclosed '\x7b' line
    Parse.skip 1
    let name := String.ofList front.name
    let left := (← get).rest.length
    return (match request, front.indirect, index with
      | .basic .unknown, _, _ =>
        .parameter name .unknown [.text (whole.take (whole.length - left)) true] quoted
      | .basic o, false, none => .parameter name o (words.headD []) quoted
      | request, indirect, index => .element name index indirect request words quoted) :: w
termination_by structural n => n

/-- Reads the words of what is asked of a parameter, the first of which is begun; each ends at one
of its own characters, and the last at the closing brace. -/
def readParts (commands : CommandReader) (line : Nat) :
    Nat → Word → List (List Char) → Parse (List Word)
  | 0, _, _ => return []
  | _ + 1, _, [] => return []
  | steps + 1, begun, stops :: more => do
    let w ← readPart commands line stops steps begun
    if (← get).rest.head? = some '\x7d' ∨ more.isEmpty then return [w.reverse]
    else
      Parse.skip 1
      let words ← readParts commands line steps [] more
      return w.reverse :: words
termination_by structural n => n

/-- Reads a word up to a character that ends it. -/
def readPart (commands : CommandReader) (line : Nat) (stops : List Char) : Nat → Word → Parse Word
  | 0, w => return w
  | steps + 1, w => do
    let r ← get
    match r.rest with
    | [] => Parse.unclosed '\x7b' line
    | c :: cs =>
      if stops.contains c then return w
      else if c = '\\' then
        Parse.skip 2
        readPart commands line stops steps (Word.push (cs.take 1) true w)
      else if c = '\'' then
        Parse.skip 1
        let s ← singleQuoted
        readPart commands line stops steps (.text s true :: w)
      else if c = '"' then
        Parse.skip 1
        let w ← readQuoted commands .doubleQuotes r.line steps (.text [] true :: w)
        readPart commands line stops steps w
      else if c = '$' ∨ c = backquote then
        let w ← readSubstitution commands false steps w
        readPart commands line stops steps w
      else if c = '[' ∧ stops = [']'] then
        Parse.skip 1
        let w ← readPart commands line stops steps (Word.push ['['] false w)
        Parse.skip 1
        readPart commands line stops steps (Word.push [']'] false w)
      else
        Parse.skip 1
        readPart commands line stops steps (Word.push [c] false w)
termination_by structural n => n

/-- Reads the word of a parameter on, through the closing brace. In double quotes, a double quote
begins or ends a part in which a brace is a character, which `inner` tells. -/
def readBracedWord (commands : CommandReader) (quoted inner : Bool) (line : Nat) :
    Nat → Word → Parse Word
  | 0, w => return w
  | steps + 1, w => do
    match (← get).rest with
    | [] => Parse.unclosed '\x7b' line
    | c :: cs =>
      if c = '\x7d' ∧ !inner then
        Parse.skip 1
        return w
      else if c = '\\' then
        match cs with
        | [] =>
          Parse.skip 1
          readBracedWord commands quoted inner line steps (Word.push ['\\'] true w)
        | '\n' :: _ =>
          Parse.skip 2
          readBracedWord commands quoted inner line steps w
        | d :: _ =>
          Parse.skip 2
          if !quoted ∨ d ∈ ['$', '\\', '"', '\x7d', backquote] then
            readBracedWord commands quoted inner line steps (Word.push [d] true w)
          else readBracedWord commands quoted inner line steps (Word.push ['\\', d] true w)
      else if c = '\'' ∧ !quoted then
        Parse.skip 1
        let s ← singleQuoted
        readBracedWord commands quoted inner line steps (.text s true :: w)
      else if c = '"' then
        Parse.skip 1
        if quoted then readBracedWord commands quoted (!inner) line steps (.text [] true :: w)
        else
          let w ← readQuoted commands .doubleQuotes line steps (.text [] true :: w)
          readBracedWord commands quoted inner line steps w
      else if c = '$' ∨ c = backquote then
        let w ← readSubstitution commands quoted steps w
        readBracedWord commands quoted inner line steps w
      else
        let run := cs.takeWhile fun d => !isActive d
        Parse.skip (run.length + 1)
        readBracedWord commands quoted inner line steps (Word.push (c :: run) quoted w)
termination_by structural n => n

/-- Reads arithmetic on, through the two parentheses that close it; `depth` counts the open ones
within. -/
def readArithmetic (commands : CommandReader) (line : Nat) : Nat → Nat → Word → Parse Word
  | 0, _, w => return w
  | steps + 1, depth, w => do
    match (← get).rest with
    | [] => Parse.unclosed '(' line
    | ')' :: cs =>
      if 0 < depth then
        Parse.skip 1
        readArithmetic commands line steps (depth - 1) (Word.push [')'] true w)
      else if cs.head? = some ')' then
        Parse.skip 2
        return w
      else if ← Parse.isExtended then Parse.fail (.calculation [])
      else
        Parse.skip 1
        readArithmetic commands line steps 0 (Word.push [')'] true w)
    | '(' :: _ =>
      Parse.skip 1
      readArithmetic commands line steps (depth + 1) (Word.push ['('] true w)
    | '"' :: _ =>
      Parse.skip 1
      readArithmetic commands line steps depth w
    | '\\' :: '\n' :: _ =>
      Parse.skip 2
      readArithmetic commands line steps depth w
    | c :: cs =>
      if c = '$' ∨ c = backquote then
        let w ← readSubstitution commands true steps w
        readArithmetic commands line steps depth w
      else
        let run := cs.takeWhile fun d => !isActive d && d ≠ '(' && d ≠ ')'
        Parse.skip (run.length + 1)
        readArithmetic commands line steps depth (Word.push (c :: run) true w)
termination_by structural n => n

end

/-! ## Documents -/

/-- Takes the lines of a document up to its mark: its text and what stands behind the mark, if it
stands there. The first argument bounds the number of lines. -/
def documentText (mark : Octets) (withoutTabs : Bool) : Nat → Octets → Octets × Option Octets
  | 0, rest => ([], some rest)
  | _ + 1, [] => ([], none)
  | lines + 1, rest =>
    let whole := rest.takeWhile (· ≠ '\n')
    let line := if withoutTabs then whole.dropWhile (· = '\t') else whole
    let behind := rest.drop (whole.length + 1)
    if line = mark then ([], some behind)
    else
      let (text, behind) := documentText mark withoutTabs lines behind
      (line ++ (if whole.length < rest.length then ['\n'] else []) ++ text, behind)

/-- Reads the documents that are awaited; the bound is one for the words in them. -/
def readDocuments (commands : CommandReader) (steps : Nat) : List AwaitedDocument → Parse Unit
  | [] => modify fun r => { r with awaited := [] }
  | d :: ds => do
    let line := (← get).line
    let rest := (← get).rest
    let (text, behind) := documentText d.mark d.withoutTabs (rest.length + 1) rest
    let word ←
      if d.quoted then pure [.text text true]
      else Parse.within text line (readQuoted commands .document line steps [.text [] true])
    Parse.skip (rest.length - (behind.getD []).length)
    modify fun r => { r with documents := (d.number, word.reverse) :: r.documents }
    if behind.isNone then
      modify fun r => { r with unmarked := ⟨d.mark, line - 1, r.line - 1⟩ :: r.unmarked }
    readDocuments commands steps ds

/-! ## Tokens -/

/-- The operators that are no redirections, longer ones before their beginnings. -/
def operators : List String := ["&&", "||", ";;", ";", "&", "|", "(", ")"]

/-- The operators of redirections, longer ones before their beginnings. -/
def redirectionOperators : List String := ["<<-", "<<", "<&", "<>", "<", ">>", ">&", ">|", ">"]

/-- The operators of a language that are no redirections. -/
def operatorsOf : Dialect → List String
  | .plain => operators
  | .extended => [";;&", ";&", "|&"] ++ operators

/-- The operators of redirections of a language. -/
def redirectionOperatorsOf : Dialect → List String
  | .plain => redirectionOperators
  | .extended => ["&>>", "&>", "<<<"] ++ redirectionOperators

/-- The operator of a list that a text begins with. -/
def operatorOf (all : List String) (cs : Octets) : Option String :=
  all.find? fun o => o.toList.isPrefixOf cs

/-- Whether a word of the extended language begins where a redirection does. -/
def beginsProcess (dialect : Dialect) : Octets → Bool
  | c :: '(' :: _ => dialect = .extended && (c == '<' || c == '>')
  | _ => false

/-- The number of the descriptor that is named in front of a redirection. -/
def namedDescriptor? (dialect : Dialect) : Word → Option Nat
  | [.text s false] =>
    if s.all Char.isDigit && (s.length = 1 || dialect = .extended) && s.length ≤ 9 then
      some (Numeral.digitsFrom 10 0 s).1
    else none
  | _ => none

/-- Reads a token. The bound is one for the steps within a word. -/
def readToken (commands : CommandReader) (asMark : Bool) (steps : Nat) : Parse Token := do
  skipBlanks ((← get).rest.length + 1)
  Parse.beginToken
  let r ← get
  let dialect := r.dialect
  match r.rest with
  | [] =>
    readDocuments commands steps r.awaited
    return .finish
  | '\n' :: _ =>
    Parse.skip 1
    readDocuments commands steps r.awaited
    return .newline
  | cs =>
    let isWord := beginsProcess dialect cs
    match if isWord then none else operatorOf (redirectionOperatorsOf dialect) cs,
      if isWord then none else operatorOf (operatorsOf dialect) cs with
    | some o, _ =>
      Parse.skip o.length
      return .redirection none o
    | none, some o =>
      Parse.skip o.length
      return .operator o
    | none, none =>
      let w ← readPlain commands asMark steps []
      let operator? := operatorOf (redirectionOperatorsOf dialect) (← get).rest
      match namedDescriptor? dialect w, operator? with
      | some d, some o =>
        if o.toList.head? = some '&' then return .word w.reverse
        else
          Parse.skip o.length
          return .redirection (some d) o
      | _, _ => return .word w.reverse

/-- The reserved words. -/
def keywords : List String :=
  ["!", "case", "do", "done", "elif", "else", "esac", "fi", "for", "if", "in", "then", "until",
    "while", "\x7b", "\x7d"]

/-- The reserved words that the extended language has besides. -/
def extendedKeywords : List String := ["[[", "function", "select", "time"]

/-- A token as it counts where reserved words are recognised. -/
def Token.recognised (dialect : Dialect) : Token → Token
  | .word w =>
    match Word.literal? w with
    | some s =>
      if s ∈ keywords || (dialect = .extended && s ∈ extendedKeywords) then .keyword s
      else .word w
    | none => .word w
  | t => t

/-- Where a token is read. -/
structure TokenPlace where
  /-- Whether reserved words are recognised. -/
  reserved : Bool
  /-- Whether it may stand on a later line. -/
  anyLine : Bool
  /-- Whether it may be an alias. -/
  aliased : Bool

/-- The alias that a token is, if one may stand here. Where reserved words are recognised they are
no aliases. -/
def Reader.alias? (r : Reader) (place : TokenPlace) (t : Token) : Option (String × Octets) :=
  match t with
  | .word w =>
    match Word.literal? w with
    | none => none
    | some s =>
      if (place.reserved && keywords.contains s) || r.inUse.any (·.name = s) then none
      else (r.aliases.lookup s).map fun value => (s, value)
  | _ => none

/-- Puts the text of an alias in front of what is left. -/
def Parse.putAlias (name : String) (value : Octets) : Parse Unit :=
  modify fun r => { r with
    rest := value ++ r.rest
    inUse := ⟨name, r.rest.length, value.getLast?.any fun c => c == ' ' || c == '\t'⟩ :: r.inUse }

/-- Takes the token that is held, or reads the next one. The first argument bounds the number of
newlines and aliases on the way. -/
def takeToken (commands : CommandReader) (steps : Nat) (place : TokenPlace) : Nat → Parse Token
  | 0 => return .finish
  | count + 1 => do
    match (← get).held with
    | some t =>
      modify fun r => { r with held := none }
      if t matches .newline && place.anyLine then takeToken commands steps place count
      else return t
    | none =>
      if (← get).aliases.isEmpty then
        let t ← readToken commands false steps
        if t matches .newline && place.anyLine then takeToken commands steps place count
        else return t
      else
        let before := (← get).rest.length
        let t ← readToken commands false steps
        let r ← get
        let left := r.rest.length
        let behindBlank := r.inUse.any fun u => u.endsInBlank && u.rest < before && left ≤ u.rest
        let r := { r with inUse := r.inUse.filter fun u => u.rest ≤ left }
        set r
        if t matches .newline && place.anyLine then takeToken commands steps place count
        else
          match if place.aliased || behindBlank then r.alias? place t else none with
          | some (name, value) =>
            Parse.putAlias name value
            takeToken commands steps { place with aliased := true } count
          | none => return t

/-- Takes the next token; `reserved` tells whether reserved words are recognised, and with them
aliases, and `anyLine` whether it may stand on a later line. -/
def nextToken (commands : CommandReader) (steps : Nat) (reserved anyLine : Bool) : Parse Token := do
  let t ← takeToken commands steps ⟨reserved, anyLine, reserved⟩ steps
  let dialect := (← get).dialect
  return if reserved then t.recognised dialect else t

/-- Takes the next token where an arm of a distinction may begin, with a pattern. -/
def nextOfArm (commands : CommandReader) (steps : Nat) : Parse Token := do
  let t ← takeToken commands steps ⟨true, true, false⟩ steps
  return t.recognised (← get).dialect

/-- Takes the next token where the words of a call may begin. -/
def nextOfCall (commands : CommandReader) (steps : Nat) (isFirst : Bool) : Parse Token :=
  takeToken commands steps ⟨false, false, isFirst⟩ steps

end CallForest.Shell
