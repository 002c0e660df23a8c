import CallForest.Program.Awk.Token

/-!
# Reading scripts

Expressions are read from the weakest operator to the strongest. Assignments stand with what they
change, so that they may be parts of what binds more strongly. A sign that prints to a file is no
comparison where something is printed.
-/

namespace CallForest.Awk

/-! ## Patterns of texts -/

/-- An expression for texts as it is written in scripts, in the extended way of writing. Escapes
stand for characters, also in brackets; braces stand for themselves. `inside` tells that a bracket
is open, and `isFirst` that it has just been opened. -/
def patternText : (inside isFirst : Bool) → Octets → Octets
  | _, _, [] => []
  | true, _, '\\' :: c :: cs =>
    let (s, _) := textEscape [c]
    let d := if s.length = 1 then s.headD c else c
    (if d ∈ "]\\^-".toList then ['[', '.', d, '.', ']'] else [d]) ++ patternText true false cs
  | true, isFirst, c :: cs =>
    if c = ']' && !isFirst then c :: patternText false false cs
    else if c = '^' && isFirst then c :: patternText true true cs
    else
      match c, cs with
      | '[', ':' :: rest =>
        '[' :: ':' :: patternClass rest
      | c, cs => c :: patternText true false cs
  | false, _, '\\' :: c :: cs =>
    let (s, _) := textEscape [c]
    (if s.length = 1 && c ∉ ['"', '\\', '/'] then s
      else if c.isAlphanum then [c]
      else if c = '/' || c = '"' then [c]
      else ['\\', c]) ++ patternText false false cs
  | false, _, c :: cs =>
    if c = '[' then c :: patternText true true cs
    else if c = '\x7b' then ['\\', c] ++ patternText false false cs
    else c :: patternText false false cs
where
  /-- The same behind the beginning of a class in a bracket. -/
  patternClass : Octets → Octets
    | ':' :: ']' :: cs => ':' :: ']' :: patternText true false cs
    | c :: cs => c :: patternClass cs
    | [] => []

/-- The expression that a text is written for. -/
def readPattern (s : Octets) : Except Octets Regex :=
  (Regex.ofText ⟨false, true, false⟩ (patternText false false s)).mapError fun e =>
    e.message.toList

/-! ## Reading -/

/-- What reads a part of a script. -/
abbrev Reader := StateT (List Lexeme) (Except Fault)

namespace Reader

/-- The next token. -/
def peek : Reader Token := do
  return ((← get).head?.map Lexeme.token).getD .finish

/-- Takes the next token. -/
def skip : Reader Unit := modify (·.drop 1)

/-- The next token is not what can stand there. -/
def refuse {α : Type} : Reader α := do
  let l := ((← get).head?).getD ⟨.finish, 1, []⟩
  let near : Octets := match l.token with
    | .newline => "end of line".toList
    | .finish => "end of file".toList
    | _ => l.shown
  throw ⟨l.line, "syntax error at or near ".toList ++ near⟩

/-- Whether a symbol is next. -/
def isNext (s : String) : Reader Bool := do
  match ← peek with
  | .symbol t => return s = t
  | .word t => return s = t
  | _ => return false

/-- Takes a symbol if it is next, and tells whether it was. -/
def accept (s : String) : Reader Bool := do
  if ← isNext s then
    skip
    return true
  else return false

/-- Takes a symbol, which has to be next. -/
def expect (s : String) : Reader Unit := do
  unless ← accept s do
    match ← peek with
    | .finish | .newline =>
      let l := ((← get).head?).getD ⟨.finish, 1, []⟩
      let place := match l.token with
        | .finish => "end of file"
        | _ => "end of line"
      throw ⟨l.line, ("missing " ++ s ++ " near " ++ place).toList⟩
    | _ => refuse

/-- Drops lexemes that end lines. -/
def withoutNewlines : List Lexeme → List Lexeme
  | l :: ls =>
    match l.token with
    | .newline => withoutNewlines ls
    | _ => l :: ls
  | [] => []

/-- Takes the ends of lines that are next. -/
def skipNewlines : Reader Unit := modify withoutNewlines

/-- Drops lexemes that end statements. -/
def withoutEnds : List Lexeme → List Lexeme
  | l :: ls =>
    match l.token with
    | .newline | .symbol ";" => withoutEnds ls
    | _ => l :: ls
  | [] => []

/-- Takes the ends of lines and statements that are next. -/
def skipEnds : Reader Unit := modify withoutEnds

/-- Takes what ends a statement. -/
def endStatement : Reader Unit := do
  match ← peek with
  | .newline | .symbol ";" => skip
  | .symbol "\x7d" | .finish => return
  | _ => refuse

/-- Does one thing or, if it fails, another from where it began. -/
def orElse {α : Type} (first second : Reader α) : Reader α := fun s =>
  match first s with
  | .ok r => .ok r
  | .error _ => second s

/-- A name that is next. -/
def takeName : Reader String := do
  match ← peek with
  | .name n _ =>
    skip
    return n
  | _ => refuse

end Reader

open Reader

/-! ## Expressions -/

/-- Whether something can be given a value. -/
def Expression.isPlace : Expression → Bool
  | .name _ | .item _ _ | .field _ => true
  | _ => false

/-- How an assignment joins the old value with the new one. -/
def assignment? (symbol : String) : Option (Option Arithmetic) :=
  match symbol with
  | "=" => some none
  | "+=" => some (some .add)
  | "-=" => some (some .subtract)
  | "*=" => some (some .multiply)
  | "/=" => some (some .divide)
  | "%=" => some (some .remainder)
  | "^=" => some (some .power)
  | _ => none

/-- The comparison that a symbol means. -/
def comparison? (symbol : String) : Option Comparison :=
  match symbol with
  | "<" => some .less
  | "<=" => some .atMost
  | "==" => some .equal
  | "!=" => some .different
  | ">" => some .more
  | ">=" => some .atLeast
  | _ => none

/-- Whether a token begins a value that can stand behind another. -/
def Token.startsValue : Token → Bool
  | .number _ | .text _ | .pattern _ | .name _ _ | .known _ => true
  | .symbol s => ["(", "$", "!", "++", "--"].contains s
  | _ => false

mutual

/-- Reads an expression. `printed` tells that a sign for more is none. -/
def expression (n : Nat) (printed : Bool) : Reader Expression :=
  match n with
  | 0 => refuse
  | n + 1 => do
    let condition ← alternative n printed
    if ← accept "?" then
      skipNewlines
      let a ← expression n printed
      skipNewlines
      expect ":"
      skipNewlines
      let b ← expression n printed
      return .choose condition a b
    else return condition
  termination_by structural n

/-- Reads expressions of which one holds. -/
def alternative (n : Nat) (printed : Bool) : Reader Expression :=
  match n with
  | 0 => refuse
  | n + 1 => do
    let a ← conjunction n printed
    if ← accept "||" then
      skipNewlines
      return .either a (← alternative n printed)
    else return a
  termination_by structural n

/-- Reads expressions that all hold. -/
def conjunction (n : Nat) (printed : Bool) : Reader Expression :=
  match n with
  | 0 => refuse
  | n + 1 => do
    let a ← membership n printed
    if ← accept "&&" then
      skipNewlines
      return .both a (← conjunction n printed)
    else return a
  termination_by structural n

/-- Reads an expression and the tables in which it is looked for. -/
def membership (n : Nat) (printed : Bool) : Reader Expression :=
  match n with
  | 0 => refuse
  | n + 1 => do
    let a ← fitting n printed
    memberships n a
  termination_by structural n

/-- Reads the tables in which something is looked for. -/
def memberships (n : Nat) (a : Expression) : Reader Expression :=
  match n with
  | 0 => refuse
  | n + 1 => do
    if ← accept "in" then
      let table ← takeName
      let keys := match a with
        | .group es => es
        | a => [a]
      memberships n (.member keys table)
    else return a
  termination_by structural n

/-- Reads an expression and the patterns that it is to fit. -/
def fitting (n : Nat) (printed : Bool) : Reader Expression :=
  match n with
  | 0 => refuse
  | n + 1 => do
    let a ← comparison n printed
    fittings n printed a
  termination_by structural n

/-- Reads the patterns that something is to fit. -/
def fittings (n : Nat) (printed : Bool) (a : Expression) : Reader Expression :=
  match n with
  | 0 => refuse
  | n + 1 => do
    if ← accept "~" then
      let b ← comparison n printed
      fittings n printed (.fits false a b)
    else if ← accept "!~" then
      let b ← comparison n printed
      fittings n printed (.fits true a b)
    else return a
  termination_by structural n

/-- Reads a value and what it is compared with. -/
def comparison (n : Nat) (printed : Bool) : Reader Expression :=
  match n with
  | 0 => refuse
  | n + 1 => do
    let a ← joined n
    match ← peek with
    | .symbol s =>
      match comparison? s with
      | some how =>
        if printed && s = ">" then return a
        else
          skip
          return .compare how a (← joined n)
      | none => return a
    | _ => return a
  termination_by structural n

/-- Reads values that stand behind each other. -/
def joined (n : Nat) : Reader Expression :=
  match n with
  | 0 => refuse
  | n + 1 => do
    let a ← sum n
    joinedOn n a
  termination_by structural n

/-- Reads the values behind a value. -/
def joinedOn (n : Nat) (a : Expression) : Reader Expression :=
  match n with
  | 0 => refuse
  | n + 1 => do
    if (← peek).startsValue then
      let b ← sum n
      joinedOn n (.concatenation a b)
    else return a
  termination_by structural n

/-- Reads a sum. -/
def sum (n : Nat) : Reader Expression :=
  match n with
  | 0 => refuse
  | n + 1 => do
    let a ← product n
    sumOn n a
  termination_by structural n

/-- Reads what is added to a value. -/
def sumOn (n : Nat) (a : Expression) : Reader Expression :=
  match n with
  | 0 => refuse
  | n + 1 => do
    if ← accept "+" then
      let b ← product n
      sumOn n (.arithmetic .add a b)
    else if ← accept "-" then
      let b ← product n
      sumOn n (.arithmetic .subtract a b)
    else return a
  termination_by structural n

/-- Reads a product. -/
def product (n : Nat) : Reader Expression :=
  match n with
  | 0 => refuse
  | n + 1 => do
    let a ← signed n
    productOn n a
  termination_by structural n

/-- Reads what a value is multiplied with or divided by. -/
def productOn (n : Nat) (a : Expression) : Reader Expression :=
  match n with
  | 0 => refuse
  | n + 1 => do
    if ← accept "*" then
      let b ← signed n
      productOn n (.arithmetic .multiply a b)
    else if ← accept "/" then
      let b ← signed n
      productOn n (.arithmetic .divide a b)
    else if ← accept "%" then
      let b ← signed n
      productOn n (.arithmetic .remainder a b)
    else return a
  termination_by structural n

/-- Reads a value that may have signs in front. -/
def signed (n : Nat) : Reader Expression :=
  match n with
  | 0 => refuse
  | n + 1 => do
    if ← accept "!" then return .negation (← signed n)
    else if ← accept "-" then return .negative (← signed n)
    else if ← accept "+" then return .positive (← signed n)
    else
      let a ← place n
      if ← accept "^" then return .arithmetic .power a (← signed n)
      else return a
  termination_by structural n

/-- Reads a value with what changes it. -/
def place (n : Nat) : Reader Expression :=
  match n with
  | 0 => refuse
  | n + 1 => do
    if ← accept "++" then return .step (← bare n) true 1.0
    else if ← accept "--" then return .step (← bare n) true (-1.0)
    else
      let a ← bare n
      if !a.isPlace then received n a
      else
        match ← peek with
        | .symbol "++" =>
          skip
          return .step a false 1.0
        | .symbol "--" =>
          skip
          return .step a false (-1.0)
        | .symbol s =>
          match assignment? s with
          | some join =>
            skip
            skipNewlines
            return .assign a join (← expression n false)
          | none => received n a
        | _ => received n a
  termination_by structural n

/-- Reads what takes the output of a command, if something does. -/
def received (n : Nat) (a : Expression) : Reader Expression :=
  match n with
  | 0 => refuse
  | n + 1 => do
    match (← get).map Lexeme.token with
    | .symbol "|" :: .word "getline" :: _ =>
      skip
      skip
      let target ← receiver n
      received n (.getline .command target (some a))
    | _ => return a
  termination_by structural n

/-- Reads what a record is put into, if something is named. -/
def receiver (n : Nat) : Reader (Option Expression) :=
  match n with
  | 0 => refuse
  | n + 1 => do
    match ← peek with
    | .name _ _ | .symbol "$" => return some (← bare n)
    | _ => return none
  termination_by structural n

/-- Reads a value without what changes it. -/
def bare (n : Nat) : Reader Expression :=
  match n with
  | 0 => refuse
  | n + 1 => do
    match ← peek with
    | .number x =>
      skip
      return .number x
    | .text s =>
      skip
      return .text s
    | .pattern s =>
      match readPattern s with
      | .ok r =>
        skip
        return .pattern r
      | .error text =>
        let line := ((← get).head?.map Lexeme.line).getD 1
        throw ⟨line, "regular expression compile failed (".toList ++ text ++ ")\n".toList ++ s⟩
    | .symbol "$" =>
      skip
      if ← accept "++" then return .field (.step (← bare n) true 1.0)
      else if ← accept "--" then return .field (.step (← bare n) true (-1.0))
      else if ← accept "-" then return .field (.negative (← bare n))
      else return .field (← bare n)
    | .symbol "(" =>
      skip
      let es ← list n false ")"
      match es with
      | [] => refuse
      | [e] => return .group [e]
      | es =>
        unless ← isNext "in" do refuse
        return .group es
    | .name f true =>
      skip
      skip
      return .call f (← list n false ")")
    | .name a false =>
      skip
      if ← accept "[" then return .item a (← list n false "]")
      else return .name a
    | .known f =>
      skip
      if ← accept "(" then return .known f (← list n false ")")
      else if f = "length" then return .known f []
      else refuse
    | .word "getline" =>
      skip
      let target ← receiver n
      if ← accept "<" then return .getline .file target (some (← bare n))
      else return .getline .main target none
    | _ => refuse
  termination_by structural n

/-- Reads expressions with commas between, up to a symbol, which is taken. -/
def list (n : Nat) (printed : Bool) (last : String) : Reader (List Expression) :=
  match n with
  | 0 => refuse
  | n + 1 => do
    skipNewlines
    if ← accept last then return []
    else
      let e ← expression n printed
      skipNewlines
      if ← accept "," then
        skipNewlines
        return e :: (← list n printed last)
      else
        expect last
        return [e]
  termination_by structural n

end

/-- Reads expressions with commas between. -/
def openList (n : Nat) : Nat → Reader (List Expression)
  | 0 => refuse
  | count + 1 => do
    let e ← expression n true
    if ← accept "," then
      skipNewlines
      return e :: (← openList n count)
    else return [e]

/-! ## Statements -/

/-- Whether what is printed ends here. -/
def endsPrinted : Token → Bool
  | .newline | .finish => true
  | .symbol s => [";", "\x7d", ">", ">>", "|"].contains s
  | _ => false

/-- Reads a statement that prints, behind its first word. -/
def printing (n : Nat) (isFormatted : Bool) : Reader Statement := do
  let inParentheses : Reader (List Expression) := do
    expect "("
    let es ← list n false ")"
    if endsPrinted (← peek) then return es else refuse
  let args ← if endsPrinted (← peek) then pure []
    else if ← isNext "(" then orElse inParentheses (openList n n)
    else openList n n
  let destination ←
    if ← accept ">" then pure (some (OutputKind.newFile, ← expression n true))
    else if ← accept ">>" then pure (some (OutputKind.fileEnd, ← expression n true))
    else if ← accept "|" then pure (some (OutputKind.command, ← expression n true))
    else pure none
  return .print isFormatted args destination

/-- Whether the other way of a condition follows. -/
def isElse : Reader Bool := do
  match withoutEnds (← get) with
  | ⟨.word "else", _, _⟩ :: _ => return true
  | _ => return false

/-- Reads a statement that another one can be part of. -/
def simple (n : Nat) : Reader Statement := do
  match ← peek with
  | .word "print" =>
    skip
    printing n false
  | .word "printf" =>
    skip
    printing n true
  | .word "delete" =>
    skip
    let table ← takeName
    if ← accept "[" then return .delete table (some (← list n false "]"))
    else return .delete table none
  | _ => return .expression (← expression n false)

mutual

/-- Reads a statement. -/
def statement (n : Nat) : Reader Statement :=
  match n with
  | 0 => refuse
  | n + 1 => do
    let value : Reader (Option Expression) := do
      match ← peek with
      | .newline | .finish | .symbol ";" | .symbol "\x7d" => return none
      | _ => return some (← expression n false)
    let ended (s : Statement) : Reader Statement := do
      endStatement
      return s
    match ← peek with
    | .symbol "\x7b" => return .block (← block n)
    | .symbol ";" =>
      skip
      return .block []
    | .word "if" =>
      skip
      expect "("
      let condition ← expression n false
      expect ")"
      skipNewlines
      let yes ← statement n
      let hasElse ← isElse
      if hasElse then
        skipEnds
        skip
        skipNewlines
        return .choose condition yes (← statement n)
      else return .choose condition yes (.block [])
    | .word "while" =>
      skip
      expect "("
      let condition ← expression n false
      expect ")"
      if ← accept ";" then return .loop condition (.block [])
      else
        skipNewlines
        return .loop condition (← statement n)
    | .word "do" =>
      skip
      skipNewlines
      let body ← statement n
      skipEnds
      expect "while"
      expect "("
      let condition ← expression n false
      expect ")"
      ended (.loopAfter body condition)
    | .word "for" =>
      skip
      expect "("
      forLoop n
    | .word "break" =>
      skip
      ended .leave
    | .word "continue" =>
      skip
      ended .goOn
    | .word "next" =>
      skip
      ended .next
    | .word "nextfile" =>
      skip
      ended .nextFile
    | .word "exit" =>
      skip
      ended (.exit (← value))
    | .word "return" =>
      skip
      ended (.giveBack (← value))
    | _ =>
      let s ← simple n
      ended s
  termination_by structural n

/-- Reads a loop behind its first parenthesis. -/
def forLoop (n : Nat) : Reader Statement :=
  match n with
  | 0 => refuse
  | n + 1 => do
    match (← get).map Lexeme.token with
    | .name a false :: .word "in" :: .name b _ :: .symbol ")" :: _ =>
      modify (·.drop 4)
      skipNewlines
      return .forEach a b (← statement n)
    | _ =>
      let first ← if ← isNext ";" then pure (Statement.block []) else simple n
      expect ";"
      skipNewlines
      let condition ← if ← isNext ";" then pure none else some <$> expression n false
      expect ";"
      skipNewlines
      let after ← if ← isNext ")" then pure (Statement.block []) else simple n
      expect ")"
      if ← accept ";" then return .block [first, .counting condition after (.block [])]
      else
        skipNewlines
        return .block [first, .counting condition after (← statement n)]
  termination_by structural n

/-- Reads statements in braces. -/
def block (n : Nat) : Reader (List Statement) :=
  match n with
  | 0 => refuse
  | n + 1 => do
    expect "\x7b"
    statements n
  termination_by structural n

/-- Reads statements up to the closing brace. -/
def statements (n : Nat) : Reader (List Statement) :=
  match n with
  | 0 => refuse
  | n + 1 => do
    skipEnds
    if ← accept "\x7d" then return []
    else
      match ← peek with
      | .finish => expect "\x7d"; return []
      | _ =>
        let s ← statement n
        return s :: (← statements n)
  termination_by structural n

end

/-! ## Scripts -/

/-- Reads names with commas between, up to the closing parenthesis. -/
def parameters : Nat → Reader (List String)
  | 0 => refuse
  | n + 1 => do
    if ← accept ")" then return []
    else
      let a ← takeName
      skipNewlines
      if ← accept "," then
        skipNewlines
        return a :: (← parameters n)
      else
        expect ")"
        return [a]

/-- Reads the rules and functions of a script. -/
def items (n : Nat) : Nat → Script → Reader Script
  | 0, s => return s
  | count + 1, s => do
    skipEnds
    let ruled (trigger : Trigger) (needsAction : Bool) : Reader Script := do
      if needsAction || (← isNext "\x7b") then
        let body ← block n
        return { s with rules := s.rules ++ [⟨trigger, some body⟩] }
      else
        endStatement
        return { s with rules := s.rules ++ [⟨trigger, none⟩] }
    match ← peek with
    | .finish => return s
    | .word "function" =>
      skip
      let name ← takeName
      expect "("
      let names ← parameters n
      skipNewlines
      let body ← block n
      items n count { s with functions := s.functions ++ [⟨name, names, body⟩] }
    | .word "BEGIN" =>
      skip
      items n count (← ruled .start true)
    | .word "END" =>
      skip
      items n count (← ruled .finish true)
    | .symbol "\x7b" => items n count (← ruled .always true)
    | _ =>
      let first ← expression n false
      if ← accept "," then
        skipNewlines
        let last ← expression n false
        items n count (← ruled (.between first last) false)
      else items n count (← ruled (.whenever first) false)

/-- Reads a script, in which all functions that are called have to be there. -/
def Script.read (s : Octets) : Except Fault Script := do
  let ts ← tokens s
  let n := 30 * ts.length + 100
  let (script, _) ← items n n ⟨[], []⟩ ts
  let last := (ts.getLast?.map Lexeme.line).getD 1
  let missing (l : Lexeme) : Option Fault :=
    match l.token with
    | .name f true =>
      if script.functions.any fun g => g.name = f then none
      else some ⟨last, ("function " ++ f ++ " never defined").toList⟩
    | _ => none
  match ts.findSome? missing with
  | some fault => throw fault
  | none => return script

end CallForest.Awk
