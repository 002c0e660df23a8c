import CallForest.Shell.Syntax
import CallForest.Text.Decimal

/-!
# Readers of shell scripts

What is left of a script while it is read, the tokens that it is cut into, and what can be wrong
with it. A step of reading takes something from the front of the script or gives up.
-/

namespace CallForest.Shell

/-- A token of a script. -/
inductive Token where
  | word (w : Word)
  | keyword (s : String)
  /-- An operator that redirects a descriptor, which may be named in front of it. -/
  | redirection (descriptor : Option Nat) (operator : String)
  | operator (s : String)
  | newline
  | finish

/-- What a token is called in messages. -/
def Token.description : Token → String
  | word _ => "word"
  | keyword s | operator s => "\"" ++ s ++ "\""
  | redirection _ _ => "redirection"
  | newline => "newline"
  | finish => "end of file"

/-! ## Errors -/

/-- What can be wrong with a condition between double brackets. -/
inductive ConditionProblem where
  /-- An operator of a kind has no argument. -/
  | argument (kind : String)
  | noOperator
  | malformed

/-- Why a script cannot be read. -/
inductive SyntaxProblem where
  /-- A token stands in the wrong place; another one may have to stand there. -/
  | unexpected (t : Token) (wanted : Option Token)
  /-- What a character on a line begins does not end. -/
  | unclosed (opening : Char) (line : Nat)
  /-- What should be the name of a variable is none. -/
  | loopName (name : Octets)
  | functionName
  /-- A condition between double brackets is wrong at a token. -/
  | condition (problem : ConditionProblem)
  /-- Something else than a calculation stands between double parentheses. -/
  | calculation (text : Octets)
  | tooDeep

/-- Why a script cannot be read, and where that shows: the line that has been reached, the line of
the last token, with the text of both. -/
structure SyntaxError where
  problem : SyntaxProblem
  line : Nat
  tokenLine : Nat
  token : Octets
  lineText : Octets

namespace SyntaxError

/-- What is said of an error in the plain language. -/
def plainMessage (e : SyntaxError) : String :=
  match e.problem with
  | .unexpected t none => t.description ++ " unexpected"
  | .unexpected t (some wanted) =>
    t.description ++ " unexpected (expecting " ++ wanted.description ++ ")"
  | .unclosed c _ =>
    match c with
    | '\x7b' => "Missing '\x7d'"
    | '(' => "Missing '))'"
    | '\'' | '"' => "Unterminated quoted string"
    | _ => "EOF in backquote substitution"
  | .loopName _ => "Bad for loop variable"
  | .functionName => "Bad function name"
  | .condition _ => "Bad condition"
  | .calculation _ => "Bad calculation"
  | .tooDeep => "too deep"

/-- A text between the quotes that messages in the extended language have. -/
def inQuotes (s : Octets) : Octets := Char.ofNat 96 :: s ++ ['\'']

/-- The character that closes what another one begins. -/
def closing (c : Char) : Char :=
  match c with
  | '\x7b' => '\x7d'
  | '(' => ')'
  | '[' => ']'
  | c => c

/-- The lines that tell of an error in the extended language, with the numbers of lines. -/
def extendedLines (e : SyntaxError) : List (Nat × Octets) :=
  let near (what : String) : List (Nat × Octets) :=
    [(e.tokenLine, what.toList ++ inQuotes e.token), (e.tokenLine, inQuotes e.lineText)]
  let unclosed (c : Char) (line : Nat) : List (Nat × Octets) :=
    [(line, "unexpected EOF while looking for matching ".toList ++ inQuotes [closing c])]
  match e.problem with
  | .unexpected .finish _ => [(e.line, "syntax error: unexpected end of file".toList)]
  | .unclosed c line => unclosed c line
  | .loopName name => [(e.tokenLine, inQuotes name ++ ": not a valid identifier".toList)]
  | .condition problem =>
    let text : Octets := match problem with
      | .argument kind =>
        "unexpected argument ".toList ++ inQuotes e.token ++ " to conditional ".toList ++
          kind.toList ++ " operator".toList
      | .noOperator => "conditional binary operator expected".toList
      | .malformed => "syntax error in conditional expression".toList
    (e.tokenLine, text) :: near "syntax error near "
  | .calculation text =>
    [(e.tokenLine, "syntax error: arithmetic expression required".toList),
      (e.tokenLine, "syntax error: ".toList ++ inQuotes text)]
  | .unexpected _ _ | .functionName | .tooDeep => near "syntax error near unexpected token "

end SyntaxError

/-! ## Readers -/

/-- A document whose text follows on the next lines, up to its mark. -/
structure AwaitedDocument where
  number : Nat
  mark : Octets
  /-- Tabs at the beginnings of lines are left out. -/
  withoutTabs : Bool
  /-- Nothing in it stands for something else. -/
  quoted : Bool

/-- A document at the end of which its mark does not stand, with the lines of both ends. -/
structure UnmarkedDocument where
  mark : Octets
  first : Nat
  last : Nat

/-- What is said of the document in the extended language, behind the number of the line. -/
def UnmarkedDocument.message (d : UnmarkedDocument) : Octets :=
  "warning: here-document at line ".toList ++ Text.decimal d.first ++
    " delimited by end-of-file (wanted ".toList ++ SyntaxError.inQuotes d.mark ++ ")".toList

/-- An alias that has been put into a script: while so many characters or more are left, it
is not put in again. If its text ends in a blank the next word may be an alias too. -/
structure AliasInUse where
  name : String
  rest : Nat
  endsInBlank : Bool

/-- What is left of a script, and what has been read ahead. -/
structure Reader where
  dialect : Dialect
  /-- Whether parentheses may group parts of patterns. -/
  groups : Bool
  rest : Octets
  line : Nat
  /-- What was left at the beginning of the line. -/
  lineStart : Octets
  /-- What was left at the beginning of the last token, with its line and what was left there. -/
  tokenStart : Octets
  tokenLine : Nat
  tokenLineStart : Octets
  held : Option Token
  /-- The words that stand for others where commands begin. -/
  aliases : List (String × Octets)
  inUse : List AliasInUse
  awaited : List AwaitedDocument
  documents : List (Nat × Word)
  nextDocument : Nat
  /-- Documents without their marks, the latest first. -/
  unmarked : List UnmarkedDocument

/-- A step of reading. -/
abbrev Parse := StateT Reader (Except SyntaxError)

/-- A reader of commands inside of a word; the flag tells whether a parenthesis has to close
them. -/
abbrev CommandReader := Bool → Parse Command

/-- The error of a reader that comes upon a problem. -/
def Reader.error (r : Reader) (problem : SyntaxProblem) : SyntaxError :=
  let token := r.tokenStart.take (r.tokenStart.length - r.rest.length)
  { problem := problem
    line := r.line
    tokenLine := r.tokenLine
    token := if token = ['\n'] then "newline".toList else token
    lineText := r.tokenLineStart.takeWhile (· ≠ '\n') }

namespace Parse

/-- Gives up. -/
def fail {α : Type} (problem : SyntaxProblem) : Parse α := fun r => .error (r.error problem)

/-- Gives up because what begins on a line does not end. -/
def unclosed {α : Type} (opening : Char) (line : Nat) : Parse α := fail (.unclosed opening line)

/-- Takes characters from the script. -/
def skip (count : Nat) : Parse Unit := fun r =>
  let taken := r.rest.take count
  let rest := r.rest.drop count
  let newlines := taken.count '\n'
  if newlines = 0 then .ok ((), { r with rest := rest })
  else
    let front := (taken.reverse.takeWhile (· ≠ '\n')).reverse
    .ok ((), { r with rest := rest, line := r.line + newlines, lineStart := front ++ rest })

/-- Puts a token back. -/
def hold (t : Token) : Parse Unit := fun r => .ok ((), { r with held := some t })

/-- Gives up because of a token in the wrong place. -/
def unexpected {α : Type} (t : Token) : Parse α := fail (.unexpected t none)

/-- Gives up because another token has to stand there. -/
def expecting {α : Type} (t wanted : Token) : Parse α := fail (.unexpected t (some wanted))

/-- Marks the beginning of a token. -/
def beginToken : Parse Unit := fun r =>
  .ok ((), { r with
    tokenStart := r.rest, tokenLine := r.line, tokenLineStart := r.lineStart })

/-- The text of the token that has been taken last. -/
def tokenText : Parse Octets := fun r =>
  .ok (r.tokenStart.take (r.tokenStart.length - r.rest.length), r)

/-- Whether the script is in the extended language. -/
def isExtended : Parse Bool := fun r => .ok (r.dialect == .extended, r)

/-- Reads a text from its first line on, with the script's own rest left as it is. -/
def within {α : Type} (text : Octets) (line : Nat) (p : Parse α) : Parse α := fun r =>
  let inner := { r with
    rest := text, line := line, lineStart := text, held := none, inUse := [], awaited := [] }
  match p inner with
  | .error e => .error e
  | .ok (a, inner) =>
    .ok (a, { r with
      documents := inner.documents
      nextDocument := inner.nextDocument
      unmarked := inner.unmarked })

/-- Does what one step does or, if there is no calculation, what another one does from the same
place on. -/
def orElse {α : Type} (first second : Parse α) : Parse α := fun r =>
  match first r with
  | .ok x => .ok x
  | .error e =>
    match e.problem with
    | .calculation _ => second r
    | _ => .error e

end Parse

end CallForest.Shell
