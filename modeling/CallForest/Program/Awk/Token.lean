import CallForest.Program.Awk.Number
import CallForest.Program.Awk.Syntax

/-!
# Tokens of scripts

A slash divides behind what has a value and begins an expression for texts otherwise. A backslash at
the end of a line joins it with the next one.
-/

namespace CallForest.Awk

/-- A token. -/
inductive Token where
  | number (x : Float)
  | text (s : Octets)
  | pattern (s : Octets)
  /-- A name, and whether a parenthesis follows at once. -/
  | name (s : String) (isCalled : Bool)
  /-- A word of the language. -/
  | word (s : String)
  /-- The name of a function of the language. -/
  | known (s : String)
  | symbol (s : String)
  | newline
  | finish
  deriving Inhabited

/-- A token, the line on which it stands, and its text. -/
structure Lexeme where
  token : Token
  line : Nat
  shown : Octets

/-- Why a script cannot be read, and the line. -/
structure Fault where
  line : Nat
  text : Octets

/-- The words of the language. -/
def words : List String :=
  ["BEGIN", "END", "function", "func", "if", "else", "while", "for", "do", "break", "continue",
    "next", "nextfile", "exit", "return", "delete", "in", "getline", "print", "printf"]

/-- The functions of the language. -/
def knownFunctions : List String :=
  ["length", "substr", "index", "split", "sub", "gsub", "match", "sprintf", "sin", "cos", "atan2",
    "exp", "log", "sqrt", "int", "rand", "srand", "tolower", "toupper", "system", "close",
    "fflush"]

/-- The symbols, the longer ones first. -/
def symbols : List String :=
  ["&&", "||", "++", "--", "+=", "-=", "*=", "/=", "%=", "^=", "==", "<=", ">=", "!=", "!~", ">>",
    "\x7b", "\x7d", "(", ")", "[", "]", ";", ",", "+", "-", "*", "/", "%", "^", "!", ">", "<", "|",
    "?", ":", "~", "$", "="]

/-- Whether a token ends what has a value, so that a slash behind it divides. -/
def Token.endsValue : Token → Bool
  | .number _ | .text _ | .name _ _ | .known _ => true
  | .symbol s => [")", "]", "++", "--"].contains s
  | _ => false

/-- Whether a character can stand in a name. -/
def isNamed (c : Char) : Bool := c.isAlphanum || c == '_'

/-- What is behind a backslash in a text: what it stands for, and the rest. -/
def textEscape : Octets → Octets × Octets
  | [] => (['\\'], [])
  | c :: cs =>
    match c with
    | '"' | '\\' => ([c], cs)
    | 'n' => (['\n'], cs)
    | 't' => (['\t'], cs)
    | 'r' => (['\r'], cs)
    | 'a' => ([Char.ofNat 7], cs)
    | 'b' => ([Char.ofNat 8], cs)
    | 'f' => ([Char.ofNat 12], cs)
    | 'v' => ([Char.ofNat 11], cs)
    | '\n' => ([], cs)
    | c =>
      let digits := ((c :: cs).take 3).takeWhile fun d => (Numeral.digitIn? 8 d).isSome
      if digits.isEmpty then (['\\', c], cs)
      else
        ([Char.ofNat ((Numeral.digitsFrom 8 0 digits).1 % 256)], (c :: cs).drop digits.length)

/-- A text with its escapes taken. The first argument bounds the number of steps. -/
def unescapedFrom : Nat → Octets → Octets
  | 0, _ => []
  | _ + 1, [] => []
  | steps + 1, '\\' :: cs =>
    let (s, rest) := textEscape cs
    s ++ unescapedFrom steps rest
  | steps + 1, c :: cs => c :: unescapedFrom steps cs

/-- A text with its escapes taken. -/
def unescaped (s : Octets) : Octets := unescapedFrom (s.length + 1) s

/-- Reads a text or a pattern up to what ends it: what is in between, as it is written, and the
rest. None if nothing ends it on the line. -/
def quoted (mark : Char) : Octets → Option (Octets × Octets)
  | [] => none
  | '\\' :: c :: cs => (quoted mark cs).map fun (s, rest) => ('\\' :: c :: s, rest)
  | c :: cs =>
    if c = mark then some ([], cs)
    else if c = '\n' then none
    else (quoted mark cs).map fun (s, rest) => (c :: s, rest)

/-- Reads a number: how long it is, and which. -/
def numberInFront? (s : Octets) : Option (Nat × Float) :=
  let isStart := match s with
    | '.' :: c :: _ => c.isDigit
    | c :: _ => c.isDigit
    | [] => false
  if !isStart then none
  else if ['0', 'x'].isPrefixOf s || ['0', 'X'].isPrefixOf s then some (1, 0.0)
  else
    (FloatValue.read? .double s).map fun ((x, _), rest) => (s.length - rest.length, x.toFloat)

/-- Reads tokens on; `last` is the one before. The first argument bounds the number of steps. -/
def tokensFrom : Nat → (line : Nat) → (last : Token) → Octets → Except Fault (List Lexeme)
  | 0, _, _, _ => .ok []
  | steps + 1, line, last, s =>
    let give (t : Token) (count : Nat) : Except Fault (List Lexeme) := do
      let shown := s.take count
      let others ← tokensFrom steps (line + shown.count '\n') t (s.drop count)
      return ⟨t, line, shown⟩ :: others
    match s with
    | [] => .ok [⟨.newline, line, []⟩, ⟨.finish, line + 1, []⟩]
    | '\\' :: '\n' :: cs => tokensFrom steps (line + 1) last cs
    | c :: cs =>
      if c = '\n' then give .newline 1
      else if Numeral.isBlank c then tokensFrom steps line last cs
      else if c = '#' then tokensFrom steps line last (cs.dropWhile (· ≠ '\n'))
      else if c = '"' then
        match quoted '"' cs with
        | some (body, rest) => give (.text (unescaped body)) (s.length - rest.length)
        | none =>
          .error ⟨line, "runaway string constant \"".toList ++
            (cs.takeWhile (· ≠ '\n')).take 10 ++ " ...".toList⟩
      else if c = '/' && !last.endsValue then
        match quoted '/' cs with
        | some (body, rest) => give (.pattern body) (s.length - rest.length)
        | none =>
          .error ⟨line, "runaway regular expression /".toList ++
            (cs.takeWhile (· ≠ '\n')).take 10 ++ " ...".toList⟩
      else if let some (count, x) := numberInFront? s then give (.number x) count
      else if c.isAlpha || c = '_' then
        let name := s.takeWhile isNamed
        let text := String.ofList name
        let token : Token :=
          if words.contains text then .word (if text = "func" then "function" else text)
          else if knownFunctions.contains text then .known text
          else .name text ((s.drop name.length).head? == some '(')
        give token name.length
      else
        match symbols.find? fun t => t.toList.isPrefixOf s with
        | some t => give (.symbol t) t.length
        | none =>
          .error ⟨line, "unexpected character '".toList ++ [c, '\'']⟩

/-- The tokens of a script. -/
def tokens (s : Octets) : Except Fault (List Lexeme) :=
  tokensFrom (s.length + 2) 1 .newline s

end CallForest.Awk
