import CallForest.Program.Format

/-!
# Numbers of the machine

The machine calculates with floating point numbers of 64 bits. Here they are taken apart and put
together, so that they can be read and shown exactly.
-/

namespace CallForest

namespace FloatValue

/-- The number of the machine that a value is. -/
def toFloat : FloatValue → Float
  | .finite negative m e =>
    let x := Float.scaleB (Float.ofNat m) e
    if negative then -x else x
  | .infinite negative => if negative then -(1.0 / 0.0) else 1.0 / 0.0
  | .nan => 0.0 / 0.0

/-- The value of a number of the machine. -/
def ofFloat (x : Float) : FloatValue :=
  let bits := x.toBits.toNat
  let unit := Nat.pow 2 52
  let negative := Nat.pow 2 63 ≤ bits
  let e := bits / unit % 2048
  let m := bits % unit
  if e = 2047 then if m = 0 then .infinite negative else .nan
  else if e = 0 then .finite negative m (-1074)
  else .finite negative (m + unit) ((e : Int) - 1075)

/-- What is left of a number without its fraction. What is not finite counts as the bound of the
numbers that programs count with. -/
def truncated : FloatValue → Int
  | .finite negative m e =>
    let (a, b) := power 2 e
    let n : Int := (m * a / b : Nat)
    if negative then -n else n
  | .infinite negative => if negative then -Numeral.largest - 1 else Numeral.largest
  | .nan => -Numeral.largest - 1

/-- What is left over when a number is divided by another; it has the sign of the first. -/
def remainder : FloatValue → FloatValue → FloatValue
  | .finite negative m e, .finite _ n f =>
    if n = 0 then .nan
    else
      let least := min e f
      let rest := m * (power 2 (e - least)).1 % (n * (power 2 (f - least)).1)
      let (a, b) := power 2 least
      ofQuotient .double negative (rest * a) b
  | .finite negative m e, .infinite _ => .finite negative m e
  | _, _ => .nan

end FloatValue

namespace Awk

/-- The number at the beginning of a text, zero if there is none. -/
def numberIn (s : Octets) : Float :=
  match FloatValue.read? .double s with
  | some ((x, _), _) => x.toFloat
  | none => 0.0

/-- The number that a whole text shows, with blanks around allowed; words are no numbers. -/
def wholeNumber? (s : Octets) : Option Float :=
  let bare := s.dropWhile Numeral.isBlank
  if bare.head?.any fun c => c.isDigit || c == '+' || c == '-' || c == '.' then
    match FloatValue.read? .double bare with
    | some ((.finite negative m e, _), rest) =>
      if rest.all Numeral.isBlank then some (FloatValue.finite negative m e).toFloat else none
    | _ => none
  else none

/-- The integer that a number is without its fraction, within the bounds of what programs count
with. -/
def clamped (x : Float) : Int :=
  max (-Numeral.largest - 1) (min Numeral.largest (FloatValue.ofFloat x).truncated)

/-- The integer that a number is, if it is one. -/
def integer? (x : Float) : Option Int :=
  match FloatValue.ofFloat x with
  | .finite negative m e =>
    let value := FloatValue.finite negative m e
    let n := value.truncated
    let isWhole := x == (if e < 0 then x.round else x)
    if -Numeral.largest ≤ n && n ≤ Numeral.largest && isWhole then some n else none
  | _ => none

/-- An integer as it is shown. -/
def integerText (n : Int) : Octets := (if n < 0 then ['-'] else []) ++ Text.decimal n.natAbs

end Awk

end CallForest
