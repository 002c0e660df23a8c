import CallForest.Shell.Arithmetic
import CallForest.Program.Numeral

/-!
# Calculations

The arithmetic of the extended language. It has the operators of the plain one and besides them
powers, steps up and down, and commas; numbers may name their base; names may be those of values of
lists, and what a name stands for may be a calculation itself. What is said of an error shows how
far the calculation has been read.
-/

namespace CallForest.Shell.Calculation

open Arithmetic (Operator truth cut)

/-- A variable, or the one of a key in a list. -/
structure Reference where
  name : String
  key : Option Octets
  deriving DecidableEq, Repr

/-- What a name may be given while a calculation goes on: numbers, the latest first. -/
abbrev Given := List (Reference × Int)

/-- What can be wrong with a calculation. -/
inductive Problem where
  | tooDeep
  | badOperator
  | notVariable
  | malformed
  | divisionByZero
  | noColon
  | noParenthesis
  | negativeExponent
  | noOperand
  | tooGreat
  | badBase
  | badIndex
  /-- The token is a name that must have a value and has none. -/
  | unset
  deriving DecidableEq, Repr

/-- What is said of a problem. -/
def Problem.message : Problem → Octets
  | tooDeep => "expression recursion level exceeded".toList
  | badOperator => "syntax error: invalid arithmetic operator".toList
  | notVariable => "attempted assignment to non-variable".toList
  | malformed => "syntax error in expression".toList
  | divisionByZero => "division by 0".toList
  | noColon => Char.ofNat 96 :: ":' expected for conditional expression".toList
  | noParenthesis => "missing ".toList ++ Char.ofNat 96 :: ")'".toList
  | negativeExponent => "exponent less than 0".toList
  | noOperand => "syntax error: operand expected".toList
  | tooGreat => "value too great for base".toList
  | badBase => "invalid arithmetic base".toList
  | badIndex => "bad array subscript".toList
  | unset => "unbound variable".toList

/-- A piece of a calculation. -/
inductive Lexeme where
  | number (n : Int)
  /-- A name, with the text between the brackets behind it. -/
  | name (s : String) (index : Option Octets)
  | binary (o : Operator)
  | power
  | assign (o : Option Operator)
  | increment
  | decrement
  | not
  | complement
  | opening
  | closing
  | question
  | colon
  | comma
  /-- A number that is none. -/
  | badNumber (problem : Problem) (text : Octets)
  | badIndex
  | bad
  deriving DecidableEq, Repr

/-- Why a calculation comes to nothing: what is wrong, in which text, and from where on. -/
structure Error where
  text : Octets
  problem : Problem
  token : Octets
  deriving DecidableEq, Repr

/-- What is said of it. -/
def Error.message (e : Error) : Octets :=
  e.text.dropWhile Numeral.isBlank ++ ": ".toList ++ e.problem.message ++
    " (error token is \"".toList ++ e.token ++ "\")".toList

/-! ## Reading -/

/-- The value of a digit of a base of up to 64. -/
def digit? (base : Nat) (c : Char) : Option Nat :=
  if c.isDigit then some (c.toNat - 48)
  else if 'a' ≤ c ∧ c ≤ 'z' then some (c.toNat - 87)
  else if 'A' ≤ c ∧ c ≤ 'Z' then some (c.toNat - (if base ≤ 36 then 55 else 29))
  else if c = '@' then some 62
  else if c = '_' then some 63
  else none

/-- The number that digits of a base show; none if one of them is too great. -/
def numberIn? (base : Nat) (digits : Octets) : Option Int :=
  (digits.foldlM (fun (n : Nat) c =>
    (digit? base c).bind fun d => if d < base then some (n * base + d) else none) 0).map fun n =>
      cut n

/-- The number that a text without signs shows. -/
def number (s : Octets) : Lexeme :=
  let tooGreat : Lexeme := .badNumber .tooGreat s
  let shown (base : Nat) (digits : Octets) : Lexeme :=
    match numberIn? base digits with
    | some n => .number n
    | none => tooGreat
  match s with
  | '0' :: x :: rest => if x = 'x' ∨ x = 'X' then shown 16 rest else shown 8 (x :: rest)
  | s =>
    if s.contains '#' then
      let front := s.takeWhile (· ≠ '#')
      let base := (Numeral.digitsFrom 10 0 front).1
      if base < 2 ∨ 64 < base then .badNumber .badBase s
      else shown base (s.drop (front.length + 1))
    else shown 10 s

/-- Cuts a text behind the bracket that closes what is open. The first argument counts the open
ones. -/
def atBracket? : Nat → Octets → Octets → Option (Octets × Octets)
  | _, _, [] => none
  | depth, done, c :: cs =>
    if c = ']' then
      match depth with
      | 0 => some (done.reverse, cs)
      | depth + 1 => atBracket? depth (c :: done) cs
    else atBracket? (if c = '[' then depth + 1 else depth) (c :: done) cs

/-- The lexeme at the beginning of a text, and the rest. Two signs of one kind are a step where a
name stands before them, as `isBehindName` tells, or behind them. -/
def lexeme (isBehindName : Bool) (s : Octets) : Lexeme × Octets :=
  let isStep (behind : Octets) : Bool :=
    isBehindName || (behind.dropWhile Numeral.isBlank).head?.any isNameStart
  match s with
  | '*' :: '*' :: cs => (.power, cs)
  | '+' :: '+' :: cs => if isStep cs then (.increment, cs) else (.binary .plus, '+' :: cs)
  | '-' :: '-' :: cs => if isStep cs then (.decrement, cs) else (.binary .minus, '-' :: cs)
  | ',' :: cs => (.comma, cs)
  | [] => (.bad, [])
  | c :: cs =>
    if c.isDigit then
      let text := c :: cs.takeWhile fun d => d.isAlphanum || d == '#' || d == '@' || d == '_'
      (number text, s.drop text.length)
    else if isNameStart c then
      let name := c :: cs.takeWhile isNameChar
      let rest := s.drop name.length
      match rest with
      | '[' :: inner =>
        match atBracket? 0 [] inner with
        | some (index, rest) => (.name (String.ofList name) (some index), rest)
        | none => (.badIndex, rest)
      | rest => (.name (String.ofList name) none, rest)
    else
      match Arithmetic.signFrom? s with
      | some (.binary o, rest) => (.binary o, rest)
      | some (.assign o, rest) => (.assign o, rest)
      | some (.not, rest) => (.not, rest)
      | some (.complement, rest) => (.complement, rest)
      | some (.opening, rest) => (.opening, rest)
      | some (.closing, rest) => (.closing, rest)
      | some (.question, rest) => (.question, rest)
      | some (.colon, rest) => (.colon, rest)
      | _ => (.bad, cs)

/-- Whether a lexeme is a name. -/
def Lexeme.isName : Lexeme → Bool
  | name .. => true
  | _ => false

/-- The lexemes of a text, each with the text from its beginning on. The number bounds theirs;
`isBehindName` tells that the text follows a name. -/
def lexemes : Nat → Bool → Octets → List (Lexeme × Octets)
  | 0, _, _ => []
  | steps + 1, isBehindName, s =>
    match s.dropWhile Numeral.isBlank with
    | [] => []
    | c :: cs =>
      let (l, rest) := lexeme isBehindName (c :: cs)
      (l, c :: cs) :: lexemes steps l.isName rest

/-! ## Evaluation -/

/-- What a calculation knows of variables: what they stand for, which of them have keys that are no
numbers, and which must have a value and have none. -/
structure Setting where
  value : Reference → Octets
  isTable : String → Bool
  isUnset : String → Bool

/-- What has been read of a calculation: its value, what has been given, the lexemes left, and the
text from the last one on. -/
structure Reading where
  value : Int
  given : Given
  rest : List (Lexeme × Octets)
  last : Octets

/-- The text of a number. -/
def shown (n : Int) : Octets := Arithmetic.shown n

/-- What two numbers come to by an operator, or what is wrong with that. -/
def applied (o : Operator) (a b : Int) : Except Problem Int :=
  match o.apply a b with
  | .ok n => .ok n
  | .error _ => .error .divisionByZero

mutual

/-- The value of a text; it has none if calculations are too deep in each other. -/
def evaluateWith (s : Setting) : Nat → Given → Octets → Except Error (Int × Given)
  | 0, _, text => .error ⟨text, .tooDeep, text⟩
  | steps + 1, given, text => do
    let all := lexemes (text.length + 1) false text
    if all.isEmpty then return (0, given)
    let r ← commas s text steps false ⟨0, given, all, []⟩
    match r.rest with
    | [] => return (r.value, r.given)
    | (.bad, token) :: _ => .error ⟨text, .badOperator, token⟩
    | (.assign _, token) :: _ => .error ⟨text, .notVariable, token⟩
    | (_, token) :: _ => .error ⟨text, .malformed, token⟩

/-- The variable that a name with an index in brackets stands for. -/
def reference (s : Setting) :
    Nat → Given → String → Option Octets → Except Error (Reference × Given)
  | 0, given, name, _ => .ok (⟨name, none⟩, given)
  | steps + 1, given, name, index =>
    match index with
    | none => .ok (⟨name, none⟩, given)
    | some text =>
      if s.isTable name then
        .ok (⟨name, some (text.filter fun c => c ≠ '\'' && c ≠ '"')⟩, given)
      else do
        let (n, given) ← evaluateWith s steps given text
        return (⟨name, some (shown n)⟩, given)

/-- The number that a variable stands for. -/
def numberOf (s : Setting) : Nat → Given → Reference → Except Error (Int × Given)
  | 0, _, r => .error ⟨s.value r, .tooDeep, s.value r⟩
  | steps + 1, given, r =>
    match given.lookup r with
    | some n => .ok (n, given)
    | none =>
      let text := s.value r
      if s.isUnset r.name && !(given.any fun g => g.1.name = r.name) then
        .error ⟨text, .unset, r.name.toList⟩
      else if text.isEmpty then .ok (0, given)
      else if text.all Char.isDigit && text.head? ≠ some '0' then
        .ok (cut (Numeral.digitsFrom 10 0 text).1, given)
      else evaluateWith s steps given text

/-- Reads calculations with commas between them; the last one counts. -/
def commas (s : Setting) (text : Octets) : Nat → Bool → Reading → Except Error Reading
  | 0, _, r => .error ⟨text, .tooDeep, r.last⟩
  | steps + 1, idle, r => do
    let r ← assignment s text steps idle r
    match r.rest with
    | (.comma, token) :: rest => commas s text steps idle { r with rest := rest, last := token }
    | _ => return r

/-- Reads an assignment, or a calculation without one. -/
def assignment (s : Setting) (text : Octets) : Nat → Bool → Reading → Except Error Reading
  | 0, _, r => .error ⟨text, .tooDeep, r.last⟩
  | steps + 1, idle, r =>
    match r.rest with
    | (.name name index, _) :: (.assign operator, token) :: rest => do
      let (target, given) ←
        if idle then pure (⟨name, none⟩, r.given) else reference s steps r.given name index
      let right ←
        assignment s text steps idle { r with rest := rest, given := given, last := token }
      if idle then return right
      else
        let (n, given) ←
          match operator with
          | none => pure (right.value, right.given)
          | some o => do
            let (old, given) ← numberOf s steps right.given target
            match applied o old right.value with
            | .ok n => pure (n, given)
            | .error problem => .error ⟨text, problem, right.last⟩
        return { right with value := n, given := (target, n) :: given }
    | _ => conditional s text steps idle r

/-- Reads a choice by a condition. -/
def conditional (s : Setting) (text : Octets) : Nat → Bool → Reading → Except Error Reading
  | 0, _, r => .error ⟨text, .tooDeep, r.last⟩
  | steps + 1, idle, r => do
    let c ← operations s text steps idle 0 r
    match c.rest with
    | (.question, token) :: rest => do
      let yes ← commas s text steps (idle || c.value == 0) { c with rest := rest, last := token }
      match yes.rest with
      | (.colon, token) :: rest => do
        let no ← conditional s text steps (idle || c.value != 0)
          { yes with rest := rest, last := token }
        return { no with value := if c.value = 0 then no.value else yes.value }
      | _ => .error ⟨text, .noColon, yes.last⟩
    | _ => return c

/-- Reads an operand and the operators behind it that have at least that rank. -/
def operations (s : Setting) (text : Octets) : Nat → Bool → Nat → Reading → Except Error Reading
  | 0, _, _, r => .error ⟨text, .tooDeep, r.last⟩
  | steps + 1, idle, least, r => do
    let left ← powers s text steps idle r
    continued s text steps idle least left

/-- Goes on behind what has been read. -/
def continued (s : Setting) (text : Octets) : Nat → Bool → Nat → Reading → Except Error Reading
  | 0, _, _, r => .error ⟨text, .tooDeep, r.last⟩
  | steps + 1, idle, least, left =>
    match left.rest with
    | (.binary o, token) :: rest =>
      if o.rank < least then .ok left
      else do
        let decided := (o = .or && left.value ≠ 0) || (o = .and && left.value = 0)
        let right ← operations s text steps (idle || decided) (o.rank + 1)
          { left with rest := rest, last := token }
        if idle then continued s text steps idle least { right with value := 0 }
        else
          match applied o left.value right.value with
          | .ok n => continued s text steps idle least { right with value := n }
          | .error problem => .error ⟨text, problem, right.last⟩
    | _ => .ok left

/-- Reads an operand that may have a power. -/
def powers (s : Setting) (text : Octets) : Nat → Bool → Reading → Except Error Reading
  | 0, _, r => .error ⟨text, .tooDeep, r.last⟩
  | steps + 1, idle, r => do
    let base ← operand s text steps idle r
    match base.rest with
    | (.power, token) :: rest => do
      let exponent ← powers s text steps idle { base with rest := rest, last := token }
      if idle then return exponent
      else if exponent.value < 0 then .error ⟨text, .negativeExponent, exponent.last⟩
      else
        let n := (List.range (min exponent.value.toNat 4096)).foldl
          (fun n _ => cut (n * base.value)) 1
        return { exponent with value := n }
    | _ => return base

/-- Reads an operand. `idle` tells that nothing is to be computed. -/
def operand (s : Setting) (text : Octets) : Nat → Bool → Reading → Except Error Reading
  | 0, _, r => .error ⟨text, .tooDeep, r.last⟩
  | steps + 1, idle, r =>
    let expected (token : Octets) : Except Error Reading :=
      .error ⟨text, .noOperand, token⟩
    let step (name : String) (index : Option Octets) (rest : List (Lexeme × Octets))
        (token : Octets) (change : Int) (isAfter : Bool) : Except Error Reading := do
      if idle then return { r with value := 0, rest := rest, last := token }
      else
        let (target, given) ← reference s steps r.given name index
        let (old, given) ← numberOf s steps given target
        let n := cut (old + change)
        return ⟨if isAfter then old else n, (target, n) :: given, rest, token⟩
    match r.rest with
    | [] => expected r.last
    | (l, token) :: rest =>
      let behind : Reading := { r with rest := rest, last := token }
      match l with
      | .number n => .ok { behind with value := n }
      | .name name index =>
        match rest with
        | (.increment, token) :: rest => step name index rest token 1 true
        | (.decrement, token) :: rest => step name index rest token (-1) true
        | _ =>
          if idle then .ok { behind with value := 0 }
          else do
            let (target, given) ← reference s steps r.given name index
            let (n, given) ← numberOf s steps given target
            return { behind with value := n, given := given }
      | .increment | .decrement =>
        let change : Int := if l = .increment then 1 else -1
        match rest with
        | (.name name index, token) :: rest => step name index rest token change false
        | _ => expected token
      | .opening => do
        let inner ← commas s text steps idle behind
        match inner.rest with
        | (.closing, token) :: rest => return { inner with rest := rest, last := token }
        | _ => .error ⟨text, .noParenthesis, inner.last⟩
      | .binary .plus => operand s text steps idle behind
      | .binary .minus => do
        let a ← operand s text steps idle behind
        return { a with value := cut (-a.value) }
      | .not => do
        let a ← operand s text steps idle behind
        return { a with value := truth (a.value = 0) }
      | .complement => do
        let a ← operand s text steps idle behind
        return { a with value := -a.value - 1 }
      | .badNumber problem number =>
        .error ⟨text.take (text.length - token.length) ++ number, problem, number⟩
      | .badIndex => .error ⟨text, .badIndex, token⟩
      | _ => expected token

end

/-- How deep calculations may be in each other. -/
def maxDepth : Nat := 1024

/-- The value of a text, and what it gives to variables, the first of it first. -/
def evaluate (s : Setting) (text : Octets) : Except Error (Int × Given) := do
  let (n, given) ← evaluateWith s (maxDepth + 8 * text.length) [] text
  return (n, given.reverse)

end CallForest.Shell.Calculation
