import CallForest.Bytes.Octets
import CallForest.Text.Decimal

/-!
# Numerals in arguments

How programs read the numbers in their arguments. A numeral may have blanks and a sign in front; its
first digits tell its base. What stands behind it is left over.
-/

namespace CallForest

namespace Numeral

/-- Whether a byte is a blank. -/
def isBlank (c : Char) : Bool := c == ' ' || (9 ≤ c.toNat && c.toNat ≤ 13)

/-- The value of a digit in any base up to 36. -/
def digit? (c : Char) : Option Nat :=
  if c.isDigit then some (c.toNat - 48)
  else if 'a' ≤ c ∧ c ≤ 'z' then some (c.toNat - 87)
  else if 'A' ≤ c ∧ c ≤ 'Z' then some (c.toNat - 55)
  else none

/-- The value of a digit in a base. -/
def digitIn? (base : Nat) (c : Char) : Option Nat :=
  (digit? c).filter (· < base)

/-- Reads digits of a base on. -/
def digitsFrom (base acc : Nat) : Octets → Nat × Octets
  | [] => (acc, [])
  | c :: cs =>
    match digitIn? base c with
    | some d => digitsFrom base (acc * base + d) cs
    | none => (acc, c :: cs)

/-- Reads a number without a sign: sixteen is the base behind `0x`, eight behind `0`, and ten
otherwise. None if there is no digit. -/
def magnitude? (s : Octets) : Option (Nat × Octets) :=
  match s with
  | '0' :: x :: c :: cs =>
    if (x = 'x' ∨ x = 'X') ∧ (digitIn? 16 c).isSome then some (digitsFrom 16 0 (c :: cs))
    else some (digitsFrom 8 0 s)
  | '0' :: _ => some (digitsFrom 8 0 s)
  | c :: _ => if c.isDigit then some (digitsFrom 10 0 s) else none
  | [] => none

/-- Reads a sign, if there is one: whether it is a minus. -/
def sign (s : Octets) : Bool × Octets :=
  match s with
  | '-' :: cs => (true, cs)
  | '+' :: cs => (false, cs)
  | cs => (false, cs)

/-- Reads a number with any base; none if there is no digit. -/
def integer? (s : Octets) : Option (Int × Octets) :=
  let (negative, s) := sign (s.dropWhile isBlank)
  (magnitude? s).map fun (n, rest) => (if negative then -(n : Int) else (n : Int), rest)

/-- The number that decimal digits show, with a sign and blanks around allowed. -/
def decimal? (s : Octets) : Option Int :=
  let (negative, s) := sign (s.dropWhile isBlank)
  let digits := s.takeWhile Char.isDigit
  if digits.isEmpty || (s.drop digits.length).any fun c => !isBlank c then none
  else
    let n := (digitsFrom 10 0 digits).1
    some (if negative then -(n : Int) else (n : Int))

/-- The largest number that programs count with. -/
def largest : Int := 9223372036854775807

/-- What is said of a number that is out of its bounds. -/
def outOfBounds (n : Int) : Octets :=
  if n > 1073741823 ∨ n < -1073741824 then ": Value too large for defined data type".toList
  else ": Numerical result out of range".toList

/-- The digits of a number in a base, at most as many as the first argument tells. -/
def digitsOf (upper : Bool) (base : Nat) : Nat → Nat → Octets
  | 0, _ => []
  | steps + 1, n =>
    if n = 0 then []
    else
      let d := n % base
      let c := Char.ofNat (if d < 10 then 48 + d else (if upper then 55 else 87) + d)
      digitsOf upper base steps (n / base) ++ [c]

/-- A number in a base; no digits for zero. -/
def inBase (upper : Bool) (base n : Nat) : Octets :=
  digitsOf upper base (Nat.log2 n + 1) n

end Numeral

end CallForest
