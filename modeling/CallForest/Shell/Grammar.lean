import CallForest.Shell.Token

/-!
# Grammar of shell scripts

The reader that finds the commands in the tokens of a script. A script is read line by line, since a
line is run before the next one is read: `readLine` gives the commands of the next line, which may
reach over several lines where a command is not complete. The first argument bounds the depth of
readers in each other.
-/

namespace CallForest.Shell

/-- Where a list of commands stands. -/
inductive ListPlace where
  /-- On a line of its own, which ends it. -/
  | line
  /-- Inside of another command, with a command to begin with. -/
  | body
  /-- Inside of another command; it may end here. -/
  | rest
  deriving DecidableEq, Repr

/-- Whether a token ends a list of commands inside of another command. -/
def Token.endsList : Token → Bool
  | .operator o => o == ")" || o == ";;" || o == ";&" || o == ";;&"
  | .keyword k => k ∈ ["do", "done", "elif", "else", "esac", "fi", "then", "\x7d"]
  | .finish => true
  | .word _ | .redirection _ _ | .newline => false

/-- One command after another, if there is one before it. -/
def Command.behind (first : Option Command) (second : Command) : Command :=
  match first with
  | none => second
  | some c => .sequence c second

/-- A command with redirections, if there are any. -/
def Command.withRedirects (line : Nat) (redirects : List Redirect) (body : Command) : Command :=
  if redirects.isEmpty then body else .redirected line redirects body

/-- A command whose error output goes where its output goes. -/
def Command.withErrorsPiped (c : Command) (line : Nat) : Command :=
  .redirected line [.duplicate 2 [.text ['1'] true]] c

/-- The special commands of the shell itself: functions cannot have their names. -/
def specialNames : List String :=
  [".", ":", "break", "continue", "eval", "exec", "exit", "export", "local", "readonly", "return",
    "set", "shift", "times", "trap", "unset"]

/-- Whether a redirection operator leads to the input. -/
def redirectsInput (operator : String) : Bool := operator.toList.head? == some '<'

/-- The redirection of a descriptor by an operator, a document aside. -/
def redirectOf (descriptor : Nat) (operator : String) (w : Word) : Redirect :=
  match operator with
  | "<" => .file descriptor .read w
  | "<>" => .file descriptor .readWrite w
  | ">>" => .file descriptor .append w
  | "<&" | ">&" => .duplicate descriptor w
  | ">|" => .file descriptor .writeOver w
  | "<<<" => .text descriptor w
  | "&>" => .outputs .write w
  | "&>>" => .outputs .append w
  | _ => .file descriptor .write w

/-- Whether a word may name a descriptor. -/
def namesDescriptor (w : Word) : Bool :=
  match w with
  | [.text s false] => s.all fun c => c.isDigit || c == '-'
  | w => w.any fun p => !(p matches .text _ _)

/-- Awaits a document, up to the mark that a word gives. -/
def awaitDocument (descriptor : Nat) (withoutTabs : Bool) (w : Word) : Parse Redirect := fun r =>
  let d : AwaitedDocument :=
    ⟨r.nextDocument, Word.literalText w, withoutTabs, w.any Word.isQuoted⟩
  .ok (.document descriptor r.nextDocument,
    { r with awaited := r.awaited ++ [d], nextDocument := r.nextDocument + 1 })

/-- Reads a redirection behind its operator. -/
def readRedirect (commands : CommandReader) (steps : Nat) (descriptor : Option Nat)
    (operator : String) : Parse Redirect := do
  let n := descriptor.getD (if redirectsInput operator then 0 else 1)
  if operator = "<<" ∨ operator = "<<-" then
    match ← readToken commands true steps with
    | .word w => awaitDocument n (operator = "<<-") w
    | t => Parse.unexpected t
  else
    match ← nextToken commands steps false false with
    | .word w =>
      if operator = ">&" ∧ descriptor = none ∧ (← Parse.isExtended) ∧ !namesDescriptor w then
        return .outputs .write w
      else return redirectOf n operator w
    | t => Parse.unexpected t

/-- Takes a reserved word or an operator that has to stand here. -/
def readExpected (commands : CommandReader) (steps : Nat) (wanted : Token) : Parse Unit := do
  let t ← nextToken commands steps false false
  match t, wanted with
  | .keyword k, .keyword w => if k = w then return else Parse.expecting t wanted
  | .operator o, .operator w => if o = w then return else Parse.expecting t wanted
  | _, _ => Parse.expecting t wanted

/-! ## Conditions between double brackets -/

/-- Whether a token ends a condition that is no other conditions joined. -/
def Token.endsCondition : Token → Bool
  | .operator o => o == "&&" || o == "||" || o == ")"
  | .word w => Word.literal? w == some "]]"
  | _ => false

/-- Whether a word asks something of one operand. -/
def isUnary (s : String) : Bool :=
  match s.toList with
  | ['-', c] => c ∈ "abcdefghknoprstuvwxzGLNORS".toList
  | _ => false

/-- Whether a word compares two operands. -/
def isComparison (s : String) : Bool :=
  s ∈ ["=", "==", "!=", "=~", "-eq", "-ne", "-lt", "-le", "-gt", "-ge", "-nt", "-ot", "-ef"]

/-- Does something while parentheses may group parts of patterns. -/
def Parse.grouping {α : Type} (p : Parse α) : Parse α := do
  let groups := (← get).groups
  modify fun r => { r with groups := true }
  let a ← p
  modify fun r => { r with groups := groups }
  return a

/-- Reads a condition on behind its first word. -/
def readComparison (commands : CommandReader) (steps : Nat) (w : Word) : Parse Proposition := do
  let operand (operator : String) : Parse Proposition := do
    let right ←
      if operator = "=~" then do
        skipBlanks ((← get).rest.length + 1)
        let v ← readGroup commands true 0 steps []
        pure v.reverse
      else do
        match ← Parse.grouping (nextToken commands steps false false) with
        | .word v =>
          if Word.literal? v = some "]]" then Parse.fail (.condition (.argument "binary"))
          else pure v
        | _ => Parse.fail (.condition (.argument "binary"))
    return .binary operator w right
  let t ← nextToken commands steps false false
  if t.endsCondition then
    Parse.hold t
    return .word w
  else
    match t with
    | .redirection none "<" => operand "<"
    | .redirection none ">" => operand ">"
    | .word v =>
      match (Word.literal? v).filter isComparison with
      | some operator => operand operator
      | none => Parse.fail (.condition .noOperator)
    | .newline =>
      let t ← nextToken commands steps false true
      if t.endsCondition then
        Parse.hold t
        return .word w
      else Parse.fail (.condition .malformed)
    | _ => Parse.fail (.condition .noOperator)

/-- Takes the brackets that end a condition. -/
def readConditionEnd (commands : CommandReader) (steps : Nat) : Parse Unit := do
  match ← nextToken commands steps false true with
  | .word w =>
    if Word.literal? w = some "]]" then return else Parse.fail (.condition .malformed)
  | _ => Parse.fail (.condition .malformed)

/-! ## Calculations -/

/-- A word cut at semicolons. -/
def Word.atSemicolons (w : Word) : List Word :=
  let pieces : List (Option Piece) := w.flatMap fun p =>
    match p with
    | .text s quoted =>
      [none].intercalate ((s.splitOn ';').map fun t =>
        if t.isEmpty then [] else [some (Piece.text t quoted)])
    | p => [some p]
  (pieces.splitOnP fun p => p matches none).map fun part => part.filterMap fun p => p

/-- Reads a calculation behind the first of its two parentheses. -/
def readCalculation (commands : CommandReader) (steps line : Nat) : Parse Command := do
  Parse.skip 1
  let expression ← readArithmetic commands line steps 0 []
  return .calculation line expression.reverse

/-! ## Commands -/

mutual

/-- Reads the commands inside of a word. -/
def readCommands : Nat → CommandReader
  | 0, _ => Parse.fail .tooDeep
  | steps + 1, closed => do
    let outer ← get
    set { outer with held := none, awaited := [] }
    let body ← readList steps .rest none
    if closed then
      let t ← nextToken (readCommands steps) steps false false
      match t with
      | .operator ")" => pure ()
      | .finish =>
        if ← Parse.isExtended then Parse.unclosed '(' outer.line
        else Parse.expecting t (.operator ")")
      | t => Parse.expecting t (.operator ")")
    modify fun r => { r with held := outer.held, awaited := outer.awaited }
    return body

/-- Reads a list of commands on, behind those that are read already. -/
def readList : Nat → ListPlace → Option Command → Parse Command
  | 0, _, _ => Parse.fail .tooDeep
  | steps + 1, place, done => do
    let commands := readCommands steps
    let t ← nextToken commands steps true (place ≠ .line)
    match t with
    | .newline => return done.getD .nothing
    | .finish =>
      Parse.hold t
      return done.getD .nothing
    | t =>
      if place = .rest && t.endsList then
        Parse.hold t
        return done.getD .nothing
      else
        let place := if place = .line then place else .rest
        let c ← readAndOr steps t
        let separator ← nextToken commands steps false false
        match separator with
        | .operator "&" => readList steps place (Command.behind done (.background c))
        | .operator ";" => readList steps place (Command.behind done c)
        | .newline =>
          Parse.hold separator
          readList steps place (Command.behind done c)
        | .finish =>
          Parse.hold separator
          return Command.behind done c
        | _ =>
          if place = .line then Parse.unexpected separator
          else
            Parse.hold separator
            return Command.behind done c

/-- Reads pipelines joined by `&&` and `||`. -/
def readAndOr : Nat → Token → Parse Command
  | 0, _ => Parse.fail .tooDeep
  | steps + 1, t => do
    let first ← readPipeline steps t
    readAndOrRest steps first

/-- Joins the pipelines behind one that is read already. -/
def readAndOrRest : Nat → Command → Parse Command
  | 0, _ => Parse.fail .tooDeep
  | steps + 1, first => do
    let commands := readCommands steps
    match ← nextToken commands steps false false with
    | .operator "&&" =>
      let t ← nextToken commands steps true true
      let second ← readPipeline steps t
      readAndOrRest steps (.both first second)
    | .operator "||" =>
      let t ← nextToken commands steps true true
      let second ← readPipeline steps t
      readAndOrRest steps (.either first second)
    | t =>
      Parse.hold t
      return first

/-- Reads commands joined by pipes. -/
def readPipeline : Nat → Token → Parse Command
  | 0, _ => Parse.fail .tooDeep
  | steps + 1, t => do
    match t with
    | .keyword "!" =>
      let t ← nextToken (readCommands steps) steps true false
      let body ← readPipeline steps t
      return .negation body
    | .keyword "time" =>
      let t ← nextToken (readCommands steps) steps true false
      let isOption := match t with
        | .word w => Word.literal? w == some "-p"
        | _ => false
      let t ← if isOption then nextToken (readCommands steps) steps true false else pure t
      match t with
      | .newline | .finish | .operator ";" =>
        Parse.hold t
        return .simple (← get).line [] [] []
      | t => readPipeline steps t
    | t =>
      let line := (← get).line
      let first ← readCommand steps t
      match ← readPiped steps with
      | (_, []) => return first
      | (joined, others) =>
        return .pipeline ((if joined then first.withErrorsPiped line else first) :: others)

/-- Reads the commands behind pipe signs; the flag tells whether the error output of the command in
front goes into the pipe too. -/
def readPiped : Nat → Parse (Bool × List Command)
  | 0 => Parse.fail .tooDeep
  | steps + 1 => do
    let commands := readCommands steps
    let sign ← nextToken commands steps false false
    let isPipe := match sign with
      | .operator o => o == "|" || o == "|&"
      | _ => false
    if isPipe then
      let t ← nextToken commands steps true true
      let line := (← get).line
      let c ← readCommand steps t
      let (joined, others) ← readPiped steps
      let isJoined := match sign with
        | .operator o => o == "|&"
        | _ => false
      return (isJoined, (if joined then c.withErrorsPiped line else c) :: others)
    else
      Parse.hold sign
      return (false, [])

/-- Reads one command, which begins with the given token. -/
def readCommand : Nat → Token → Parse Command
  | 0, _ => Parse.fail .tooDeep
  | steps + 1, t => do
    let commands := readCommands steps
    let line := (← get).line
    match t with
    | .word _ | .redirection _ _ =>
      Parse.hold t
      readSimple steps line [] [] []
    | .keyword "if" =>
      let body ← readChoice steps
      readExpected commands steps (.keyword "fi")
      readRedirected steps line body []
    | .keyword "while" =>
      let body ← readLoop steps true
      readRedirected steps line body []
    | .keyword "until" =>
      let body ← readLoop steps false
      readRedirected steps line body []
    | .keyword "for" =>
      let body ← readFor steps line false
      readRedirected steps line body []
    | .keyword "select" =>
      let body ← readFor steps line true
      readRedirected steps line body []
    | .keyword "case" =>
      match ← nextToken commands steps false false with
      | .word subject =>
        let shown ← Parse.tokenText
        match ← nextToken commands steps true true with
        | .keyword "in" =>
          let arms ← readArms steps
          readRedirected steps line (.distinction line subject shown arms) []
        | t => Parse.expecting t (.keyword "in")
      | t => Parse.expecting t (.word [])
    | .operator "(" =>
      if (← get).rest.head? = some '(' ∧ (← Parse.isExtended) then
        let body ← Parse.orElse (readCalculation commands steps line) (readSubshell steps line)
        readRedirected steps line body []
      else
        let body ← readSubshell steps line
        readRedirected steps line body []
    | .keyword "[[" =>
      let p ← readProposition steps
      readConditionEnd commands steps
      readRedirected steps line (.condition line p) []
    | .keyword "function" =>
      match ← nextToken commands steps false false with
      | .word w =>
        let t ← nextToken commands steps true true
        let t ← match t with
          | .operator "(" => do
            readExpected commands steps (.operator ")")
            nextToken commands steps true true
          | t => pure t
        let body ← readBody steps t
        return .function (String.ofList (Word.literalText w)) body
      | t => Parse.unexpected t
    | .keyword "\x7b" =>
      let body ← readList steps .body none
      readExpected commands steps (.keyword "\x7d")
      readRedirected steps line body []
    | t => Parse.unexpected t

/-- Reads a subshell behind its parenthesis. -/
def readSubshell : Nat → Nat → Parse Command
  | 0, _ => Parse.fail .tooDeep
  | steps + 1, line => do
    let body ← readList steps .body none
    readExpected (readCommands steps) steps (.operator ")")
    return .subshell line body

/-- Reads the body of a function, which begins with the given token. In the extended language it has
to be made of other commands. -/
def readBody : Nat → Token → Parse Command
  | 0, _ => Parse.fail .tooDeep
  | steps + 1, t => do
    let isSimple := match t with
      | .word _ | .redirection _ _ => true
      | _ => false
    if isSimple && (← Parse.isExtended) then Parse.unexpected t else readCommand steps t

/-- Reads a condition between double brackets on, up to what ends it: conditions joined by `||`. -/
def readProposition : Nat → Parse Proposition
  | 0 => Parse.fail .tooDeep
  | steps + 1 => do
    let first ← readConjunction steps
    match ← nextToken (readCommands steps) steps false true with
    | .operator "||" =>
      let second ← readProposition steps
      return .either first second
    | t =>
      Parse.hold t
      return first

/-- Reads conditions joined by `&&`. -/
def readConjunction : Nat → Parse Proposition
  | 0 => Parse.fail .tooDeep
  | steps + 1 => do
    let first ← readPrimary steps
    match ← nextToken (readCommands steps) steps false true with
    | .operator "&&" =>
      let second ← readConjunction steps
      return .both first second
    | t =>
      Parse.hold t
      return first

/-- Reads a condition that is no other conditions joined. -/
def readPrimary : Nat → Parse Proposition
  | 0 => Parse.fail .tooDeep
  | steps + 1 => do
    let commands := readCommands steps
    match ← nextToken commands steps false true with
    | .operator "(" =>
      let p ← readProposition steps
      match ← nextToken commands steps false true with
      | .operator ")" => return p
      | _ => Parse.fail (.condition .malformed)
    | .word w =>
      match Word.literal? w with
      | some "!" =>
        let p ← readPrimary steps
        return .negation p
      | some s =>
        if isUnary s then
          match ← nextToken commands steps false false with
          | .word v =>
            if Word.literal? v = some "]]" then Parse.fail (.condition (.argument "unary"))
            else return .unary s v
          | t =>
            if Token.endsCondition t then
              Parse.hold t
              return .word w
            else Parse.fail (.condition (.argument "unary"))
        else readComparison commands steps w
      | none => readComparison commands steps w
    | _ => Parse.fail (.condition .malformed)

/-- Reads the redirections behind a compound command. -/
def readRedirected : Nat → Nat → Command → List Redirect → Parse Command
  | 0, _, _, _ => Parse.fail .tooDeep
  | steps + 1, line, body, redirects => do
    let commands := readCommands steps
    match ← nextToken commands steps true false with
    | .redirection d o =>
      let r ← readRedirect commands steps d o
      readRedirected steps line body (redirects ++ [r])
    | t =>
      Parse.hold t
      return body.withRedirects line redirects

/-- Reads the words and redirections of a call, or the definition of a function. -/
def readSimple : Nat → Nat → List Assignment → List Word → List Redirect → Parse Command
  | 0, _, _, _, _ => Parse.fail .tooDeep
  | steps + 1, line, assignments, words, redirects => do
    let commands := readCommands steps
    let t ← nextOfCall commands steps words.isEmpty
    let r ← get
    let line := if r.dialect = .extended && words.length + assignments.length + redirects.length < 2
        && !(t matches .newline) then r.line else line
    match t with
    | .word w =>
      match words, Word.assignment? (← get).dialect w with
      | [], some a => readSimple steps line (assignments ++ [a]) [] redirects
      | _, _ => readSimple steps line assignments (words ++ [w]) redirects
    | .redirection d o =>
      let r ← readRedirect commands steps d o
      readSimple steps line assignments words (redirects ++ [r])
    | .operator "(" =>
      match words, assignments.isEmpty && redirects.isEmpty with
      | [w], true =>
        readExpected commands steps (.operator ")")
        let name := (Word.literal? w).getD ""
        if (!isName name.toList ∨ name ∈ specialNames) ∧ !(← Parse.isExtended) then
          Parse.fail .functionName
        else
          let t ← nextToken commands steps true true
          let body ← readBody steps t
          return .function name body
      | _, _ =>
        Parse.hold (.operator "(")
        return .simple line assignments words redirects
    | t =>
      Parse.hold t
      return .simple line assignments words redirects

/-- Reads what follows `if` or `elif`, up to `fi`. -/
def readChoice : Nat → Parse Command
  | 0 => Parse.fail .tooDeep
  | steps + 1 => do
    let commands := readCommands steps
    let condition ← readList steps .body none
    readExpected commands steps (.keyword "then")
    let yes ← readList steps .body none
    match ← nextToken commands steps false false with
    | .keyword "elif" =>
      let no ← readChoice steps
      return .choice condition yes no
    | .keyword "else" =>
      let no ← readList steps .body none
      return .choice condition yes no
    | t =>
      Parse.hold t
      return .choice condition yes .nothing

/-- Reads what follows `while` or `until`. -/
def readLoop : Nat → Bool → Parse Command
  | 0, _ => Parse.fail .tooDeep
  | steps + 1, expected => do
    let commands := readCommands steps
    let condition ← readList steps .body none
    readExpected commands steps (.keyword "do")
    let body ← readList steps .body none
    readExpected commands steps (.keyword "done")
    return .whileLoop expected condition body

/-- Reads what follows `for` or, where a loop asks, `select`. -/
def readFor : Nat → Nat → Bool → Parse Command
  | 0, _, _ => Parse.fail .tooDeep
  | steps + 1, line, asks => do
    let commands := readCommands steps
    match ← nextToken commands steps false false with
    | .word w =>
      let name := (Word.literal? w).getD ""
      let isGood := isName name.toList
      if !isGood && !(← Parse.isExtended) then Parse.fail (.loopName (Word.literalText w))
      else
        let name ← if isGood then pure name else String.ofList <$> Parse.tokenText
        let (words, shown) ← readForWords steps
        let closing ← match ← nextToken commands steps true true with
          | .keyword "do" => pure "done"
          | .keyword "\x7b" => pure "\x7d"
          | t => Parse.expecting t (.keyword "do")
        let body ← readList steps .body none
        readExpected commands steps (.keyword closing)
        let last := (← get).line
        return .forLoop (if isGood then line else last) name words shown asks body
    | .operator "(" =>
      if (← get).rest.head? = some '(' ∧ (← Parse.isExtended) ∧ !asks then
        readCountedLoop steps line
      else Parse.fail (.loopName [])
    | t =>
      if ← Parse.isExtended then Parse.unexpected t else Parse.fail (.loopName [])

/-- Reads a loop that calculates behind the first of its two parentheses. -/
def readCountedLoop : Nat → Nat → Parse Command
  | 0, _ => Parse.fail .tooDeep
  | steps + 1, line => do
    let commands := readCommands steps
    Parse.skip 1
    let expression ← readArithmetic commands line steps 0 []
    match Word.atSemicolons expression.reverse with
    | [first, condition, next] =>
      let t ← nextToken commands steps true true
      let t ← match t with
        | .operator ";" => nextToken commands steps true true
        | t => pure t
      match t with
      | .keyword "do" =>
        let body ← readList steps .body none
        readExpected commands steps (.keyword "done")
        return .countedLoop line first condition next body
      | .keyword "\x7b" =>
        let body ← readList steps .body none
        readExpected commands steps (.keyword "\x7d")
        return .countedLoop line first condition next body
      | t => Parse.unexpected t
    | _ =>
      Parse.fail (.calculation
        ("((".toList ++ Word.literalText expression.reverse ++ "))".toList))

/-- Reads the words a loop runs over, and the text that they are shown as; without any it runs over
the positional parameters. -/
def readForWords : Nat → Parse (List Word × Octets)
  | 0 => Parse.fail .tooDeep
  | steps + 1 => do
    let commands := readCommands steps
    match ← nextToken commands steps true true with
    | .keyword "in" => readWords steps []
    | t =>
      unless t matches .operator ";" do Parse.hold t
      return ([[.parameter "@" .value [] true]], "\"$@\"".toList)

/-- Reads words up to the end of the line or a semicolon, each with the text that it is shown as. -/
def readWords : Nat → List (Word × Octets) → Parse (List Word × Octets)
  | 0, _ => Parse.fail .tooDeep
  | steps + 1, words => do
    match ← nextToken (readCommands steps) steps false false with
    | .word w =>
      let shown ← Parse.tokenText
      readWords steps (words ++ [(w, shown)])
    | .newline | .operator ";" =>
      return (words.map Prod.fst, [' '].intercalate (words.map Prod.snd))
    | t => Parse.unexpected t

/-- Reads the arms of a distinction, through `esac`. -/
def readArms : Nat → Parse (List (List Word × Command × ArmEnd))
  | 0 => Parse.fail .tooDeep
  | steps + 1 => do
    let commands := readCommands steps
    match ← nextOfArm commands steps with
    | .keyword "esac" => return []
    | t =>
      let t ← match t with
        | .operator "(" => nextToken commands steps false false
        | t => pure t
      let patterns ← readPatterns steps t []
      let body ← readList steps .rest none
      match ← nextToken commands steps true true with
      | .keyword "esac" => return [(patterns, body, .ends)]
      | .operator ";;" =>
        let arms ← readArms steps
        return (patterns, body, .ends) :: arms
      | .operator ";&" =>
        let arms ← readArms steps
        return (patterns, body, .goesOn) :: arms
      | .operator ";;&" =>
        let arms ← readArms steps
        return (patterns, body, .looksOn) :: arms
      | t => Parse.expecting t (.operator ";;")

/-- Reads the patterns of an arm, through the parenthesis behind them. -/
def readPatterns : Nat → Token → List Word → Parse (List Word)
  | 0, _, _ => Parse.fail .tooDeep
  | steps + 1, t, patterns => do
    let commands := readCommands steps
    let w : Word := match t with
      | .word w => w
      | .keyword k => [.text k.toList false]
      | t => [.text t.description.toList false]
    match ← nextToken commands steps false false with
    | .operator "|" =>
      let t ← nextToken commands steps false false
      readPatterns steps t (patterns ++ [w])
    | .operator ")" => return patterns ++ [w]
    | t => Parse.expecting t (.operator ")")

end

/-- The reader at the beginning of a script, the first line of which has a number; `documents` are
those of scripts read before. -/
def Reader.ofScript (dialect : Dialect) (script : Octets) (line : Nat)
    (documents : List (Nat × Word)) (nextDocument : Nat) : Reader :=
  { dialect := dialect
    groups := false
    rest := script
    line := line
    lineStart := script
    tokenStart := script
    tokenLine := line
    tokenLineStart := script
    held := none
    aliases := []
    inUse := []
    awaited := []
    documents := documents
    nextDocument := nextDocument
    unmarked := [] }

/-- The word that a text is where it stands in a document; the text itself if it cannot be read. -/
def Word.ofDocument (dialect : Dialect) (text : Octets) : Word :=
  let steps := 16 * (text.length + 8)
  match readQuoted (readCommands steps) .document 1 steps [.text [] true]
    (.ofScript dialect text 1 [] 0) with
  | .ok (w, _) => w.reverse
  | .error _ => [.text text true]

/-- Reads the commands of the next line; none at the end of the script. -/
def Reader.readLine (r : Reader) : Except SyntaxError (Option Command × Reader) :=
  match readList (16 * (r.rest.length + 8)) .line none r with
  | .error e => .error e
  | .ok (c, rest) =>
    match c, rest.held with
    | .nothing, some .finish => .ok (none, rest)
    | c, _ => .ok (some c, rest)

end CallForest.Shell
