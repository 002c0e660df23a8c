import CallForest.Bytes.Octets

/-!
# Syntax of shell scripts

A script is made of commands, and commands of words. A word is a sequence of pieces: literal text,
parameters, arithmetic and the output of commands, each either quoted or not. Quoted pieces are
later neither split into fields nor taken as patterns.

There are two languages of scripts. The extended one has all that the plain one has, and besides it
variables that are lists, conditions and calculations that are commands, and more that can be asked
of a parameter.
-/

namespace CallForest.Shell

/-- The languages of scripts. -/
inductive Dialect where
  | plain
  | extended
  deriving DecidableEq, Repr

/-- What is asked of a parameter. The flag `emptyToo` tells that an empty value counts as none. -/
inductive Operation where
  | value
  | length
  /-- A word in place of a value that is missing. -/
  | orElse (emptyToo : Bool)
  /-- The same, and the word becomes the value. -/
  | assign (emptyToo : Bool)
  /-- A word if there is a value. -/
  | alternative (emptyToo : Bool)
  /-- An error if there is no value. -/
  | demand (emptyToo : Bool)
  /-- The value without the beginning that fits a pattern. -/
  | withoutFront (longest : Bool)
  /-- The value without the end that fits a pattern. -/
  | withoutEnd (longest : Bool)
  /-- Nothing that there is. -/
  | unknown
  deriving DecidableEq, Repr

/-- Where what fits a pattern has to stand in a value. -/
inductive Anchor where
  | anywhere
  | front
  | back
  deriving DecidableEq, Repr

/-- What is done to letters: they are made large, or small, or what they are not. -/
inductive LetterChange where
  | upper
  | lower
  | other
  deriving DecidableEq, Repr

/-- What is asked of a parameter in the extended language. -/
inductive Request where
  | basic (o : Operation)
  /-- The value with a word put in for what fits a pattern, once or as often as it does. -/
  | replace (anchor : Anchor) (all : Bool)
  /-- The part of the value from an offset on, which may have a length. -/
  | part
  /-- The value with its first letter, or all of them, changed. -/
  | letters (change : LetterChange) (all : Bool)
  /-- The keys of a list. -/
  | keys
  /-- The names of the variables that begin so. -/
  | names
  /-- The value in a form that a letter names. -/
  | form (letter : Char)
  deriving DecidableEq, Repr

/-- How an arm of a distinction ends: with the distinction, in the next arm, or with a look at the
patterns behind it. -/
inductive ArmEnd where
  | ends
  | goesOn
  | looksOn
  deriving DecidableEq, Repr

/-- How a file is opened. -/
inductive OpenMode where
  | read
  | write
  /-- Written anew even where files that are there are to be kept. -/
  | writeOver
  | append
  | readWrite
  deriving DecidableEq, Repr

mutual

/-- A piece of a word. -/
inductive Piece where
  | text (s : Octets) (quoted : Bool)
  | parameter (name : String) (operation : Operation) (word : List Piece) (quoted : Bool)
  | output (script : Command) (quoted : Bool)
  | arithmetic (expression : List Piece) (quoted : Bool)
  /-- A variable, or one of a list, or the one that a variable names, and what is asked of it. -/
  | element (name : String) (index : Option (List Piece)) (indirect : Bool) (request : Request)
      (words : List (List Piece)) (quoted : Bool)
  /-- The values of a list. -/
  | items (words : List (List Piece))
  /-- The path of a file that a command writes or reads. -/
  | process (script : Command) (writes : Bool)

/-- A variable that is given a value, or one of a list; the value may be put behind the old one. -/
inductive Assignment where
  | mk (name : String) (index : Option (List Piece)) (appends : Bool) (value : List Piece)

/-- A condition between double brackets. -/
inductive Proposition where
  | word (w : List Piece)
  | unary (operator : String) (w : List Piece)
  | binary (operator : String) (left right : List Piece)
  | negation (p : Proposition)
  | both (first second : Proposition)
  | either (first second : Proposition)

/-- A change of what a descriptor stands for. -/
inductive Redirect where
  | file (descriptor : Nat) (mode : OpenMode) (path : List Piece)
  /-- What another descriptor stands for; a hyphen closes the descriptor. -/
  | duplicate (descriptor : Nat) (source : List Piece)
  /-- A document that stands in the script, by its number. -/
  | document (descriptor : Nat) (number : Nat)
  /-- A document of one line. -/
  | text (descriptor : Nat) (content : List Piece)
  /-- The output and the error output into one file. -/
  | outputs (mode : OpenMode) (path : List Piece)

/-- A command. Lines are those on which it begins. -/
inductive Command where
  | nothing
  /-- Assignments, then the words of a call, if there are any. -/
  | simple (line : Nat) (assignments : List Assignment) (words : List (List Piece))
      (redirects : List Redirect)
  | redirected (line : Nat) (redirects : List Redirect) (body : Command)
  | sequence (first second : Command)
  | both (first second : Command)
  | either (first second : Command)
  | negation (body : Command)
  | pipeline (commands : List Command)
  | background (body : Command)
  | subshell (line : Nat) (body : Command)
  | choice (condition yes no : Command)
  | whileLoop (expected : Bool) (condition body : Command)
  /-- A loop over words, the head of which is shown so; it may ask for each of them. -/
  | forLoop (line : Nat) (name : String) (words : List (List Piece)) (shown : List Char)
      (asks : Bool) (body : Command)
  /-- A loop that calculates first, before each round and behind it. -/
  | countedLoop (line : Nat) (first condition next : List Piece) (body : Command)
  /-- A distinction by patterns, the subject of which is shown so; each arm has its patterns and its
  body. -/
  | distinction (line : Nat) (subject : List Piece) (shown : List Char)
      (arms : List (List (List Piece) × Command × ArmEnd))
  | function (name : String) (body : Command)
  | calculation (line : Nat) (expression : List Piece)
  | condition (line : Nat) (p : Proposition)

end

/-- The descriptors that a redirection is about. -/
def Redirect.descriptors : Redirect → List Nat
  | file d _ _ | duplicate d _ | document d _ | text d _ => [d]
  | outputs _ _ => [1, 2]

/-- The name of the variable that an assignment gives a value to. -/
def Assignment.name : Assignment → String
  | mk name _ _ _ => name

/-- The value that an assignment gives. -/
def Assignment.value : Assignment → List Piece
  | mk _ _ _ value => value

/-- The line on which the first part of a command begins that stands on one. -/
def Command.line? : Command → Option Nat
  | nothing => none
  | simple line _ _ _ | redirected line _ _ | subshell line _ | forLoop line _ _ _ _ _
  | countedLoop line _ _ _ _ | distinction line _ _ _ | calculation line _ | condition line _ =>
    some line
  | sequence a b | both a b | either a b => a.line? <|> b.line?
  | negation a | background a | function _ a => a.line?
  | pipeline commands =>
    match commands with
    | [] => none
    | c :: _ => c.line?
  | choice a _ _ | whileLoop _ a _ => a.line?

/-- A word: its pieces in order. -/
abbrev Word := List Piece

/-- Whether a character may begin a name. -/
def isNameStart (c : Char) : Bool :=
  c.isAlpha || c == '_'

/-- Whether a character may stand in a name. -/
def isNameChar (c : Char) : Bool :=
  c.isAlphanum || c == '_'

/-- Whether a text is a name. -/
def isName (s : List Char) : Bool :=
  match s with
  | [] => false
  | c :: cs => isNameStart c && cs.all isNameChar

namespace Word

/-- Adds text to the end of a word whose pieces are reversed. -/
def push (s : Octets) (quoted : Bool) : Word → Word
  | .text t q :: w =>
    if q = quoted then .text (t ++ s) q :: w else .text s quoted :: .text t q :: w
  | w => .text s quoted :: w

/-- The text of a word that is one unquoted literal. -/
def literal? : Word → Option String
  | [.text s false] => some (String.ofList s)
  | _ => none

/-- Whether a piece is quoted. -/
def isQuoted : Piece → Bool
  | .text _ q | .parameter _ _ _ q | .output _ q | .arithmetic _ q | .element _ _ _ _ _ q => q
  | .items _ | .process _ _ => false

/-- The literal text of a word. -/
def literalText (w : Word) : Octets :=
  w.flatMap fun p =>
    match p with
    | .text s _ => s
    | _ => []

/-- A word as it stands in a script, if nothing but text and values of parameters is in it. -/
def source (w : Word) : Octets :=
  w.flatMap fun p =>
    match p with
    | .text s _ => s
    | .parameter name _ _ _ => '$' :: name.toList
    | _ => []

/-- A word with a text put in front that is not quoted. -/
def behindText (s : Octets) (w : Word) : Word := if s.isEmpty then w else .text s false :: w

/-- Cuts a word behind the first unquoted bracket that closes what is open; `depth` counts the open
ones, and `done` is what is in front, reversed. -/
def atBracket? : (depth : Nat) → (done : Word) → Word → Option (Word × Word)
  | _, _, [] => none
  | depth, done, .text s false :: rest =>
    let rec scan : Nat → Octets → Octets → Sum Nat (Octets × Octets)
      | depth, _, [] => .inl depth
      | depth, front, c :: cs =>
        if c = '[' then scan (depth + 1) (c :: front) cs
        else if c = ']' then
          match depth with
          | 0 => .inr (front.reverse, cs)
          | depth + 1 => scan depth (c :: front) cs
        else scan depth (c :: front) cs
    match scan depth [] s with
    | .inl depth => atBracket? depth (.text s false :: done) rest
    | .inr (front, back) => some ((behindText front []).reverse ++ done |>.reverse,
        behindText back rest)
  | depth, done, p :: rest => atBracket? depth (p :: done) rest

/-- The value behind the sign of an assignment, and whether it is put behind the old one. -/
def assigned? (dialect : Dialect) : Word → Option (Bool × Word)
  | .text ('=' :: value) false :: rest => some (false, behindText value rest)
  | .text ('+' :: '=' :: value) false :: rest =>
    if dialect = .extended then some (true, behindText value rest) else none
  | _ => none

/-- The assignment that a word is. -/
def assignment? (dialect : Dialect) : Word → Option Assignment
  | .text s false :: rest =>
    let name := s.takeWhile isNameChar
    if !isName name then none
    else
      match s.drop name.length with
      | '[' :: cs =>
        if dialect = .plain then none
        else do
          let (index, behind) ← atBracket? 0 [] (behindText cs rest)
          let (appends, value) ← assigned? dialect behind
          return .mk (String.ofList name) (some index) appends value
      | behind => do
        let (appends, value) ← assigned? dialect (behindText behind rest)
        return .mk (String.ofList name) none appends value
  | _ => none

end Word

end CallForest.Shell
