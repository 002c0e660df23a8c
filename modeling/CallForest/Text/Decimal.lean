/-!
# Decimal numbers

A number is written with the fewest digits and read with any number of them, behind at most one plus
sign, as long as it stays below a bound.
-/

namespace CallForest.Text

/-- The digit `d`, for `d < 10`. -/
def digit (d : Nat) : Char :=
  Char.ofNat (48 + d)

/-- The decimal digits of a number, without leading zeros. -/
def decimal (n : Nat) : List Char :=
  if n < 10 then [digit n] else decimal (n / 10) ++ [digit (n % 10)]

/-- The value of an ASCII digit. -/
def digitValue? (c : Char) : Option Nat :=
  if '0' ≤ c ∧ c ≤ '9' then some (c.toNat - 48) else none

/-- Reads digits on, `acc` being the number read so far. -/
def digitsValue? (acc : Nat) : List Char → Option Nat
  | [] => some acc
  | c :: cs =>
    match digitValue? c with
    | some d => digitsValue? (acc * 10 + d) cs
    | none => none

/-- Reads one or more digits, behind at most one `+`. -/
def natural? : List Char → Option Nat
  | [] => none
  | '+' :: c :: cs => digitsValue? 0 (c :: cs)
  | c :: cs => digitsValue? 0 (c :: cs)

/-- Reads a number below `bound`. -/
def naturalBelow? (bound : Nat) (cs : List Char) : Option Nat :=
  match natural? cs with
  | some n => if n < bound then some n else none
  | none => none

/-- Reads a number of 32 bits. -/
def word32? (cs : List Char) : Option UInt32 :=
  (naturalBelow? UInt32.size cs).map UInt32.ofNat

end CallForest.Text
