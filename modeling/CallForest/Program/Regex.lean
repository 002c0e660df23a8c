import CallForest.Program.Characters

/-!
# Regular expressions

Patterns of text with repetition, choice and groups. They are written in one of two ways: in the
basic one, brackets and braces that mean something have a backslash in front, in the extended one
those that mean nothing. Of all matches that begin first the longest is taken.
-/

namespace CallForest

/-- A regular expression. -/
inductive Regex where
  | empty
  | any
  | char (c : Char)
  | set (negated : Bool) (members : Octets)
  | start
  | finish
  /-- Where a line of the text begins or ends. -/
  | lineStart
  | lineFinish
  /-- Where a word begins or ends; the flags tell which of the two is meant. -/
  | edge (atStart atEnd : Bool)
  /-- Where a word neither begins nor ends. -/
  | inner
  | sequence (a b : Regex)
  | choice (a b : Regex)
  /-- At least so many times and, unless there is no limit, at most so many. -/
  | times (least : Nat) (most : Option Nat) (r : Regex)
  | group (number : Nat) (r : Regex)
  /-- What a group matched. -/
  | again (number : Nat)

namespace Regex

/-! ## Matching -/

/-- How far a text is matched: the last character, the number of those before, the rest, and where
groups begin and end. -/
structure Place where
  last : Option Char
  offset : Nat
  rest : Octets
  groups : List (Nat × Nat × Nat)

/-- Whether a character can stand in a word. -/
def isWordChar (c : Char) : Bool := c.isAlphanum || c == '_'

namespace Place

/-- The place behind the next character. -/
def advance (p : Place) (c : Char) (rest : Octets) : Place :=
  { p with last := some c, offset := p.offset + 1, rest := rest }

/-- The place behind a text that stands here. -/
def skip? (p : Place) : Octets → Option Place
  | [] => some p
  | c :: cs =>
    match p.rest with
    | d :: rest => if c = d then (p.advance d rest).skip? cs else none
    | [] => none

end Place

/-- Places without those of an offset that came before. -/
def distinct (ps : List Place) : List Place :=
  ps.foldl (fun all p => if all.any fun q => q.offset == p.offset then all else all ++ [p]) []

/-- Whether a character is in a set. -/
def inSet (ignoreCase negated : Bool) (members : Octets) (c : Char) : Bool :=
  let found := c ∈ members || (ignoreCase && (c.toLower ∈ members || c.toUpper ∈ members))
  found != negated

/-- The places behind the matches of an expression. `text` is the whole text. The first argument
bounds the depth. -/
def places (ignoreCase : Bool) (text : Octets) : Nat → Regex → Place → List Place
  | 0, _, _ => []
  | steps + 1, r, p =>
    match r with
    | .empty => [p]
    | .any =>
      match p.rest with
      | c :: rest => [p.advance c rest]
      | [] => []
    | .char c =>
      match p.rest with
      | d :: rest =>
        if c = d || (ignoreCase && c.toLower = d.toLower) then [p.advance d rest] else []
      | [] => []
    | .set negated members =>
      match p.rest with
      | d :: rest => if inSet ignoreCase negated members d then [p.advance d rest] else []
      | [] => []
    | .start => if p.offset = 0 then [p] else []
    | .finish => if p.rest.isEmpty then [p] else []
    | .lineStart => if p.offset = 0 || p.last == some '\n' then [p] else []
    | .lineFinish => if p.rest.isEmpty || p.rest.head? == some '\n' then [p] else []
    | .inner => if p.last.any isWordChar == p.rest.head?.any isWordChar then [p] else []
    | .edge atStart atEnd =>
      let before := p.last.any isWordChar
      let behind := p.rest.head?.any isWordChar
      if (atStart && !before && behind) || (atEnd && before && !behind) then [p] else []
    | .sequence a b =>
      distinct ((places ignoreCase text steps a p).flatMap (places ignoreCase text steps b))
    | .choice a b => distinct (places ignoreCase text steps a p ++ places ignoreCase text steps b p)
    | .times least most r =>
      if most = some 0 then [p]
      else
        let more := (places ignoreCase text steps r p).filter fun q =>
          p.offset < q.offset || 0 < least
        let further := more.flatMap
          (places ignoreCase text steps (.times (least - 1) (most.map (· - 1)) r))
        distinct (further ++ if least = 0 then [p] else [])
    | .group n r =>
      (places ignoreCase text steps r p).map fun q =>
        { q with groups := (n, p.offset, q.offset) :: q.groups.filter fun g => g.1 ≠ n }
    | .again n =>
      match p.groups.find? fun g => g.1 = n with
      | some (_, a, b) => (p.skip? ((text.drop a).take (b - a))).toList
      | none => []

/-- The longest match that begins at a place. -/
def matchAt? (r : Regex) (ignoreCase : Bool) (text : Octets) (p : Place) : Option Place :=
  (places ignoreCase text (2 * text.length + 400) r { p with groups := [] }).foldl (fun best q =>
    match best with
    | some b => if b.offset < q.offset then some q else best
    | none => some q) none

/-- The first match from a place on: where it begins and ends. The first argument bounds the number
of attempts. -/
def findFrom? (r : Regex) (ignoreCase : Bool) (text : Octets) : Nat → Place → Option (Nat × Place)
  | 0, _ => none
  | attempts + 1, p =>
    match r.matchAt? ignoreCase text p with
    | some q => some (p.offset, q)
    | none =>
      match p.rest with
      | c :: rest => findFrom? r ignoreCase text attempts (p.advance c rest)
      | [] => none

/-- The place at the beginning of a text. -/
def Place.ofText (text : Octets) : Place := ⟨none, 0, text, []⟩

/-- The first match in a text. -/
def find? (r : Regex) (ignoreCase : Bool) (text : Octets) : Option (Nat × Place) :=
  r.findFrom? ignoreCase text (text.length + 1) (.ofText text)

/-! ## Reading -/

/-- How expressions are written. -/
structure Style where
  basic : Bool
  /-- Whether what does not fit stands for itself, or for nothing where it would repeat. -/
  lenient : Bool
  /-- Whether the anchors mean the beginnings and ends of all lines of a text. -/
  byLine : Bool

/-- What is wrong with an expression. -/
inductive Problem where
  | unmatchedBracket
  | unmatchedOpening
  | unmatchedClosing
  | unmatchedBrace
  | badExpression
  | badRepetition
  | badCount
  | tooBig
  | badReference
  | badRange
  | badElement
  | badClass
  | bareClass
  | trailingBackslash
  deriving DecidableEq, Repr

/-- What is said of an expression. -/
def Problem.message : Problem → String
  | .unmatchedBracket => "Unmatched [, [^, [:, [., or [="
  | .unmatchedOpening => "Unmatched ( or \\("
  | .unmatchedClosing => "Unmatched ) or \\)"
  | .unmatchedBrace => "Unmatched \\\x7b"
  | .badExpression => "Invalid regular expression"
  | .badRepetition => "Invalid preceding regular expression"
  | .badCount => "Invalid content of \\\x7b\\\x7d"
  | .tooBig => "Regular expression too big"
  | .badReference => "Invalid back reference"
  | .badRange => "Invalid range end"
  | .badElement => "Invalid collation character"
  | .badClass => "Invalid character class name"
  | .bareClass => "character class syntax is [[:space:]], not [:space:]"
  | .trailingBackslash => "Trailing backslash"

/-! ### Brackets -/

/-- Reads an element of a bracket that can begin or end a range: a character, or one between marks
in brackets of their own. -/
def bracketElement : Octets → Except Problem (Char × Octets)
  | '[' :: mark :: cs =>
    if mark = '.' ∨ mark = '=' then
      match cs with
      | c :: d :: ']' :: rest => if d = mark then .ok (c, rest) else .error .badElement
      | _ => .error .unmatchedBracket
    else .ok ('[', mark :: cs)
  | c :: cs => .ok (c, cs)
  | [] => .error .unmatchedBracket

/-- Reads the members of a bracket expression on. The first argument bounds the number of steps. -/
def readMembers : Nat → (isFirst : Bool) → Octets → Except Problem (Octets × Octets)
  | 0, _, _ => .error .unmatchedBracket
  | steps + 1, isFirst, s =>
    match s with
    | '[' :: ':' :: cs =>
      let name := cs.takeWhile (· ≠ ':')
      match cs.drop name.length with
      | ':' :: ']' :: more =>
        match CharacterSet.classMembers name with
        | some members => (readMembers steps false more).map fun (ms, rest) => (members ++ ms, rest)
        | none => .error .badClass
      | _ => .error .unmatchedBracket
    | c :: cs =>
      if c = ']' && !isFirst then .ok ([], cs)
      else do
        let (a, rest) ← bracketElement s
        match rest with
        | '-' :: b :: cs =>
          if b = ']' then
            let (ms, rest) ← readMembers steps false rest
            return (a :: ms, rest)
          else
            let (b, rest) ← bracketElement (b :: cs)
            if b < a then throw .badRange
            let (ms, rest) ← readMembers steps false rest
            return ((List.range' a.toNat (b.toNat + 1 - a.toNat)).map Char.ofNat ++ ms, rest)
        | rest =>
          let (ms, rest) ← readMembers steps false rest
          return (a :: ms, rest)
    | [] => .error .unmatchedBracket

/-- Whether the content of a bracket looks like a class without brackets of its own. -/
def isBareClass (content : Octets) : Bool :=
  match content with
  | ':' :: cs =>
    cs.getLast? == some ':' && cs.any (· ≠ ':') && cs.all fun c => c ≠ '-' && c ≠ '['
  | _ => false

/-- Reads a bracket expression behind its opening. -/
def readBracket (s : Octets) : Except Problem (Regex × Octets) := do
  let (negated, body) := match s with
    | '^' :: cs => (true, cs)
    | cs => (false, cs)
  if body.isEmpty then throw .badExpression
  let (members, rest) ← readMembers (body.length + 1) true body
  if isBareClass (body.take (body.length - rest.length - 1)) then throw .bareClass
  return (.set negated members, rest)

/-! ### Repetitions -/

/-- Reads up to a comma or the closing of braces: what stands in front, and if one is there whether
it is the comma and what stands behind. -/
def untilBound (basic : Bool) : Octets → Octets × Option (Bool × Octets)
  | [] => ([], none)
  | ',' :: cs => ([], some (true, cs))
  | c :: cs =>
    if basic && c = '\\' && cs.head? == some '\x7d' then ([], some (false, cs.drop 1))
    else if !basic && c = '\x7d' then ([], some (false, cs))
    else
      let (front, found) := untilBound basic cs
      (c :: front, found)

/-- The most often that something may be said to be repeated. -/
def maxCount : Nat := 32767

/-- Reads the numbers of a repetition in braces, up to the closing one. A problem comes with a flag
that tells whether the braces do not look like a repetition at all. -/
def readBraces (basic : Bool) (s : Octets) :
    Except (Problem × Bool) (Nat × Option Nat × Octets) := do
  let number (s : Octets) : Nat := (Numeral.digitsFrom 10 0 s).1
  let (first, found) := untilBound basic s
  let some (comma, rest) := found | throw (.unmatchedBrace, true)
  if !first.all Char.isDigit then throw (.badCount, true)
  if maxCount < number first then throw (.tooBig, false)
  if !comma then
    if first.isEmpty then throw (.badCount, false)
    return (number first, some (number first), rest)
  let (second, found) := untilBound basic rest
  let some (hasMore, rest) := found | throw (.unmatchedBrace, true)
  if hasMore || !second.all Char.isDigit then throw (.badCount, true)
  if second.isEmpty then return (number first, none, rest)
  if number second < number first then throw (.badCount, false)
  if maxCount < number second then throw (.tooBig, false)
  return (number first, some (number second), rest)

/-! ### Expressions -/

/-- The state of reading an expression: what is left, how many groups have begun, which have ended,
and what is worth a warning, the last first. -/
structure Reading where
  rest : Octets
  groups : Nat
  ended : List Nat
  warnings : List String

/-- What stands next in an expression. -/
inductive Token where
  | atom (r : Regex)
  | opening
  | closing
  | bar
  | repetition (least : Nat) (most : Option Nat)
  | finish

/-- What a letter behind a backslash means in both ways of writing. -/
def letterAtom? (c : Char) : Option Regex :=
  let all := (List.range 256).map Char.ofNat
  match c with
  | 'w' => some (.set false (all.filter isWordChar))
  | 'W' => some (.set true (all.filter isWordChar))
  | 's' => some (.set false (all.filter Numeral.isBlank))
  | 'S' => some (.set true (all.filter Numeral.isBlank))
  | 'b' => some (.edge true true)
  | 'B' => some .inner
  | '<' => some (.edge true false)
  | '>' => some (.edge false true)
  | '\'' => some .finish
  | c =>
    if c = Char.ofNat 96 then some .start
    else if '1' ≤ c ∧ c ≤ '9' then some (.again (c.toNat - 48))
    else none

/-- Reads the next token. `atStart` tells that it begins an expression or a branch. -/
def nextToken (style : Style) (atStart : Bool) (r : Reading) : Except Problem (Token × Reading) :=
  let give (t : Token) (rest : Octets) : Except Problem (Token × Reading) :=
    .ok (t, { r with rest := rest })
  let repeated (shown : String) (least : Nat) (most : Option Nat) (rest : Octets) :
      Except Problem (Token × Reading) :=
    if !atStart then give (.repetition least most) rest
    else if style.lenient then
      .ok (.atom .empty,
        { r with rest := rest, warnings := (shown ++ " at start of expression") :: r.warnings })
    else .error .badRepetition
  let braces (rest : Octets) : Except Problem (Token × Reading) :=
    match readBraces style.basic rest with
    | .ok (least, most, rest) => repeated "\x7b...\x7d" least most rest
    | .error (problem, isOther) =>
      if style.lenient && isOther && !style.basic then give (.atom (.char '\x7b')) rest
      else if atStart && !style.lenient then .error .badRepetition
      else .error problem
  let bracket (cs : Octets) : Except Problem (Token × Reading) :=
    (readBracket cs).map fun (a, rest) => (.atom a, { r with rest := rest })
  match r.rest with
  | [] => give .finish []
  | ['\\'] => .error .trailingBackslash
  | '\\' :: c :: cs =>
    if style.basic then
      match c with
      | '(' => give .opening cs
      | ')' => give .closing cs
      | '|' => give .bar cs
      | '+' => if atStart then give (.atom (.char c)) cs else give (.repetition 1 none) cs
      | '?' => if atStart then give (.atom (.char c)) cs else give (.repetition 0 (some 1)) cs
      | '\x7b' =>
        if atStart && style.lenient then give (.atom (.char c)) cs else braces cs
      | c => give (.atom ((letterAtom? c).getD (.char c))) cs
    else give (.atom ((letterAtom? c).getD (.char c))) cs
  | '[' :: cs => bracket cs
  | '.' :: cs => give (.atom .any) cs
  | '*' :: cs =>
    if style.basic && atStart then give (.atom (.char '*')) cs else repeated "*" 0 none cs
  | '^' :: cs =>
    if style.basic && !atStart then give (.atom (.char '^')) cs
    else give (.atom (if style.byLine then .lineStart else .start)) cs
  | '$' :: cs =>
    let isLast := cs.isEmpty || ['\\', ')'].isPrefixOf cs || ['\\', '|'].isPrefixOf cs
    if style.basic && !isLast then give (.atom (.char '$')) cs
    else give (.atom (if style.byLine then .lineFinish else .finish)) cs
  | c :: cs =>
    if style.basic then give (.atom (.char c)) cs
    else
      match c with
      | '(' => give .opening cs
      | ')' => give .closing cs
      | '|' => give .bar cs
      | '+' => repeated "+" 1 none cs
      | '?' => repeated "?" 0 (some 1) cs
      | '\x7b' => braces cs
      | c => give (.atom (.char c)) cs

/-- Reads an expression on. `done` are the branches before, `branch` is what of this one is read,
and `last` the piece before, which a repetition may follow. The first argument bounds the number of
steps. -/
def readFrom (style : Style) : Nat → (depth : Nat) → (done : Option Regex) → (branch : Regex) →
    (last : Option Regex) → Reading → Except Problem (Regex × Reading)
  | 0, _, _, branch, _, r => .ok (branch, r)
  | steps + 1, depth, done, branch, last, r => do
    let joined : Regex := match last with
      | some l => .sequence branch l
      | none => branch
    let whole : Regex := match done with
      | some d => .choice d joined
      | none => joined
    let (t, r) ← nextToken style last.isNone r
    match t with
    | .finish => if depth = 0 then return (whole, r) else .error .unmatchedOpening
    | .closing =>
      if 0 < depth then return (whole, r)
      else if style.lenient && !style.basic then
        readFrom style steps depth done joined (some (.char ')')) r
      else .error .unmatchedClosing
    | .bar => readFrom style steps depth (some whole) .empty none r
    | .repetition least most =>
      match last with
      | some l => readFrom style steps depth done branch (some (.times least most l)) r
      | none => .error .badRepetition
    | .atom a =>
      match a with
      | .start | .lineStart => readFrom style steps depth done (.sequence joined a) none r
      | .again n =>
        if n ∈ r.ended then readFrom style steps depth done joined (some a) r
        else .error .badReference
      | a => readFrom style steps depth done joined (some a) r
    | .opening =>
      let n := r.groups + 1
      let (inside, r) ← readFrom style steps (depth + 1) none .empty none { r with groups := n }
      let r := { r with ended := n :: r.ended }
      readFrom style steps depth done joined (some (.group n inside)) r

/-- Reads an expression; it comes with what is worth a warning. -/
def read (style : Style) (s : Octets) : Except Problem (Regex × List String) :=
  (readFrom style (4 * s.length + 8) 0 none .empty none ⟨s, 0, [], []⟩).map fun (r, reading) =>
    (r, reading.warnings.reverse)

/-- Reads an expression. -/
def ofText (style : Style) (s : Octets) : Except Problem Regex := (read style s).map Prod.fst

/-- How many groups an expression has. -/
def groupCount : Regex → Nat
  | .sequence a b | .choice a b => groupCount a + groupCount b
  | .times _ _ r => groupCount r
  | .group _ r => groupCount r + 1
  | _ => 0

/-- The expression that matches a text alone. -/
def ofLiteral (s : Octets) : Regex :=
  s.foldr (fun c r => .sequence (.char c) r) .empty

/-- What groups of a match hold. -/
def Place.groupText (p : Place) (text : Octets) (n : Nat) : Octets :=
  match p.groups.find? fun g => g.1 = n with
  | some (_, a, b) => (text.drop a).take (b - a)
  | none => []

end Regex

end CallForest
