import CallForest.Shell.Syntax
import CallForest.Text.Decimal

/-!
# Arithmetic of the shell

Expressions over integers of 64 bits, with the operators of C and their ranks. Names stand for the
numbers that their values show, and may be given new ones. What is not needed for the value, such as
the other side of a choice, is read but not computed.
-/

namespace CallForest.Shell.Arithmetic

/-- An operation on two numbers. -/
inductive Operator where
  | or
  | and
  | bitOr
  | bitXor
  | bitAnd
  | equal
  | different
  | less
  | atMost
  | more
  | atLeast
  | shiftLeft
  | shiftRight
  | plus
  | minus
  | times
  | quotient
  | remainder
  deriving DecidableEq, Repr

/-- A number, a name, an operator or parenthesis, or a character that is none of these. -/
inductive Symbol where
  | number (n : Int)
  | name (s : String)
  | binary (o : Operator)
  /-- An assignment, which may be that of what an operation makes of the old value. -/
  | assign (o : Option Operator)
  | not
  | complement
  | opening
  | closing
  | question
  | colon
  | bad
  deriving DecidableEq, Repr

/-- Why an expression has no value. -/
inductive Error where
  | expected (what : String)
  | divisionByZero
  | illegalNumber (text : Octets)
  deriving DecidableEq, Repr

/-- The text of an error in an expression. -/
def Error.message (expression : Octets) : Error → Octets
  | expected what => "arithmetic expression: expecting ".toList ++ what.toList ++
      ": \"".toList ++ expression ++ ['"']
  | divisionByZero => "arithmetic expression: division by zero: \"".toList ++ expression ++ ['"']
  | illegalNumber text => "Illegal number: ".toList ++ text

/-- The integer of 64 bits that a number is cut to. -/
def cut (n : Int) : Int := (Int64.ofInt n).toInt

/-- The value of a digit; letters are digits from ten on. -/
def digitValue? (c : Char) : Option Nat :=
  if c.isDigit then some (c.toNat - 48)
  else if 'a' ≤ c ∧ c ≤ 'z' then some (c.toNat - 87)
  else if 'A' ≤ c ∧ c ≤ 'Z' then some (c.toNat - 55)
  else none

/-- The number that the first digits of a text form in a base, and the rest; too large ones end at
the largest integer. -/
def digitsIn (base : Nat) (cs : Octets) : Int × Octets :=
  let digits := cs.takeWhile fun c => (digitValue? c).any (· < base)
  let n := digits.foldl (fun n c => n * base + (digitValue? c).getD 0) 0
  (min (n : Int) Int64.maxValue.toInt, cs.drop digits.length)

/-- The number at the beginning of a text: decimal, octal behind a zero, hexadecimal behind `0x`. -/
def numberFrom (cs : Octets) : Int × Octets :=
  match cs with
  | '0' :: x :: d :: rest =>
    if (x = 'x' ∨ x = 'X') ∧ (digitValue? d).any (· < 16) then digitsIn 16 (d :: rest)
    else digitsIn 8 cs
  | '0' :: _ => digitsIn 8 cs
  | _ => digitsIn 10 cs

/-- The number that a value shows, blanks around it allowed; nothing at all shows zero. -/
def numberOf? (value : Octets) : Option Int :=
  let isBlank : Char → Bool := fun c => c == ' ' || (9 ≤ c.toNat && c.toNat ≤ 13)
  let body := value.dropWhile isBlank
  let (negative, digits) := match body with
    | '-' :: cs => (true, cs)
    | '+' :: cs => (false, cs)
    | cs => (false, cs)
  let (n, rest) := numberFrom digits
  if body.isEmpty then some 0
  else if rest.length = digits.length ∨ !(rest.all isBlank) then none
  else some (if negative then -n else n)

/-- The operator or parenthesis at the beginning of a text, as long as can be, and the rest. -/
def signFrom? : Octets → Option (Symbol × Octets)
  | '<' :: '<' :: '=' :: cs => some (.assign (some .shiftLeft), cs)
  | '<' :: '<' :: cs => some (.binary .shiftLeft, cs)
  | '<' :: '=' :: cs => some (.binary .atMost, cs)
  | '<' :: cs => some (.binary .less, cs)
  | '>' :: '>' :: '=' :: cs => some (.assign (some .shiftRight), cs)
  | '>' :: '>' :: cs => some (.binary .shiftRight, cs)
  | '>' :: '=' :: cs => some (.binary .atLeast, cs)
  | '>' :: cs => some (.binary .more, cs)
  | '=' :: '=' :: cs => some (.binary .equal, cs)
  | '=' :: cs => some (.assign none, cs)
  | '!' :: '=' :: cs => some (.binary .different, cs)
  | '!' :: cs => some (.not, cs)
  | '&' :: '&' :: cs => some (.binary .and, cs)
  | '&' :: '=' :: cs => some (.assign (some .bitAnd), cs)
  | '&' :: cs => some (.binary .bitAnd, cs)
  | '|' :: '|' :: cs => some (.binary .or, cs)
  | '|' :: '=' :: cs => some (.assign (some .bitOr), cs)
  | '|' :: cs => some (.binary .bitOr, cs)
  | '^' :: '=' :: cs => some (.assign (some .bitXor), cs)
  | '^' :: cs => some (.binary .bitXor, cs)
  | '*' :: '=' :: cs => some (.assign (some .times), cs)
  | '*' :: cs => some (.binary .times, cs)
  | '/' :: '=' :: cs => some (.assign (some .quotient), cs)
  | '/' :: cs => some (.binary .quotient, cs)
  | '%' :: '=' :: cs => some (.assign (some .remainder), cs)
  | '%' :: cs => some (.binary .remainder, cs)
  | '+' :: '=' :: cs => some (.assign (some .plus), cs)
  | '+' :: cs => some (.binary .plus, cs)
  | '-' :: '=' :: cs => some (.assign (some .minus), cs)
  | '-' :: cs => some (.binary .minus, cs)
  | '~' :: cs => some (.complement, cs)
  | '(' :: cs => some (.opening, cs)
  | ')' :: cs => some (.closing, cs)
  | '?' :: cs => some (.question, cs)
  | ':' :: cs => some (.colon, cs)
  | _ => none

/-- The symbols of an expression. The first argument bounds their number. -/
def symbols : Nat → Octets → List Symbol
  | 0, _ => []
  | _ + 1, [] => []
  | steps + 1, c :: cs =>
    if c = ' ' ∨ c = '\t' ∨ c = '\n' then symbols steps cs
    else if c.isDigit then
      let (n, rest) := numberFrom (c :: cs)
      .number n :: symbols steps rest
    else if isNameStart c then
      let name := (c :: cs).takeWhile isNameChar
      .name (String.ofList name) :: symbols steps ((c :: cs).drop name.length)
    else
      match signFrom? (c :: cs) with
      | some (sign, rest) => sign :: symbols steps rest
      | none => [.bad]

/-- The names that have been given numbers, the latest first. -/
abbrev Given := List (String × Int)

/-- What is read of an expression: its value, what has been given, and the symbols left. -/
structure Reading where
  value : Int
  given : Given
  rest : List Symbol

/-- The rank of an operator; the higher one binds tighter. -/
def Operator.rank : Operator → Nat
  | or => 1
  | and => 2
  | bitOr => 3
  | bitXor => 4
  | bitAnd => 5
  | equal | different => 6
  | less | atMost | more | atLeast => 7
  | shiftLeft | shiftRight => 8
  | plus | minus => 9
  | times | quotient | remainder => 10

/-- One if a condition holds, else zero. -/
def truth (b : Bool) : Int := if b then 1 else 0

/-- What an operation on words of 64 bits makes of two numbers. -/
def onWords (f : UInt64 → UInt64 → UInt64) (a b : Int) : Int :=
  (f (Int64.ofInt a).toUInt64 (Int64.ofInt b).toUInt64).toInt64.toInt

/-- What an operator makes of two numbers. -/
def Operator.apply (o : Operator) (a b : Int) : Except Error Int :=
  match o with
  | or => .ok (truth (a ≠ 0 ∨ b ≠ 0))
  | and => .ok (truth (a ≠ 0 ∧ b ≠ 0))
  | bitOr => .ok (onWords (· ||| ·) a b)
  | bitXor => .ok (onWords (· ^^^ ·) a b)
  | bitAnd => .ok (onWords (· &&& ·) a b)
  | equal => .ok (truth (a = b))
  | different => .ok (truth (a ≠ b))
  | less => .ok (truth (a < b))
  | atMost => .ok (truth (a ≤ b))
  | more => .ok (truth (b < a))
  | atLeast => .ok (truth (b ≤ a))
  | shiftLeft => .ok (onWords (· <<< ·) a b)
  | shiftRight => .ok ((Int64.ofInt a >>> Int64.ofInt b).toInt)
  | plus => .ok (cut (a + b))
  | minus => .ok (cut (a - b))
  | times => .ok (cut (a * b))
  | quotient => if b = 0 then .error .divisionByZero else .ok (cut (a.tdiv b))
  | remainder => if b = 0 then .error .divisionByZero else .ok (a.tmod b)

/-- The number that a name stands for. -/
def numberNamed (value : String → Octets) (given : Given) (name : String) : Except Error Int :=
  match given.lookup name with
  | some n => .ok n
  | none =>
    match numberOf? (value name) with
    | some n => .ok n
    | none => .error (.illegalNumber (value name))

section

variable (value : String → Octets)

mutual

/-- Reads an operand. `idle` tells that nothing is to be computed. -/
def operand : Nat → Bool → Given → List Symbol → Except Error Reading
  | 0, _, _, _ => .error (.expected "primary")
  | steps + 1, idle, given, symbols =>
    match symbols with
    | .number n :: rest => .ok ⟨n, given, rest⟩
    | .name s :: rest =>
      if idle then .ok ⟨0, given, rest⟩
      else do
        let n ← numberNamed value given s
        return ⟨n, given, rest⟩
    | .opening :: rest => do
      let r ← assignment steps idle given rest
      match r.rest with
      | .closing :: rest => return { r with rest := rest }
      | _ => .error (.expected "')'")
    | .binary .plus :: rest => operand steps idle given rest
    | .binary .minus :: rest => do
      let r ← operand steps idle given rest
      return { r with value := cut (-r.value) }
    | .not :: rest => do
      let r ← operand steps idle given rest
      return { r with value := truth (r.value = 0) }
    | .complement :: rest => do
      let r ← operand steps idle given rest
      return { r with value := -r.value - 1 }
    | _ => .error (.expected "primary")

/-- Reads an operand and the operators behind it that have at least that rank. -/
def binary : Nat → Bool → Nat → Given → List Symbol → Except Error Reading
  | 0, _, _, _, _ => .error (.expected "primary")
  | steps + 1, idle, least, given, symbols => do
    let r ← operand steps idle given symbols
    continued steps idle least r

/-- Goes on behind what has been read. -/
def continued : Nat → Bool → Nat → Reading → Except Error Reading
  | 0, _, _, _ => .error (.expected "primary")
  | steps + 1, idle, least, left =>
    match left.rest with
    | .binary o :: rest =>
      if o.rank < least then .ok left
      else do
        let decided := (o = .or && left.value ≠ 0) || (o = .and && left.value = 0)
        let right ← binary steps (idle || decided) (o.rank + 1) left.given rest
        let n ← if idle then pure 0 else o.apply left.value right.value
        continued steps idle least { right with value := n }
    | _ => .ok left

/-- Reads a choice by a condition. -/
def conditional : Nat → Bool → Given → List Symbol → Except Error Reading
  | 0, _, _, _ => .error (.expected "primary")
  | steps + 1, idle, given, symbols => do
    let c ← binary steps idle 0 given symbols
    match c.rest with
    | .question :: rest => do
      let yes ← assignment steps (idle || c.value == 0) c.given rest
      match yes.rest with
      | .colon :: rest => do
        let no ← conditional steps (idle || c.value != 0) yes.given rest
        return { no with value := if c.value = 0 then no.value else yes.value }
      | _ => .error (.expected "':'")
    | _ => return c

/-- Reads an assignment, or an expression without one. -/
def assignment : Nat → Bool → Given → List Symbol → Except Error Reading
  | 0, _, _, _ => .error (.expected "primary")
  | steps + 1, idle, given, symbols =>
    match symbols with
    | .name s :: .assign operator :: rest => do
      let r ← assignment steps idle given rest
      if idle then return r
      else do
        let n ←
          match operator with
          | none => pure r.value
          | some o => do
            let old ← numberNamed value r.given s
            o.apply old r.value
        return ⟨n, (s, n) :: r.given, r.rest⟩
    | _ => conditional steps idle given symbols

end

/-- The value of an expression, and the names that it gives numbers to, the latest first. -/
def evaluate (text : Octets) : Except Error (Int × Given) := do
  let all := symbols (text.length + 1) text
  let r ← assignment value (4 * all.length + 8) false [] all
  if r.rest.isEmpty then return (r.value, r.given) else .error (.expected "EOF")

end

/-- An integer as it is shown. -/
def shown (n : Int) : Octets :=
  if n < 0 then '-' :: Text.decimal n.natAbs else Text.decimal n.natAbs

end CallForest.Shell.Arithmetic
