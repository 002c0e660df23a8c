import CallForest.Program.Numeral
import CallForest.Text.Decimal

/-!
# Formatted values

A conversion tells how a value is shown: its flags, its least width, and how precise it is. Texts
are cut to the precision; integers have at least that many digits; fractions are rounded to that
many places, a half to the even neighbour.
-/

namespace CallForest

/-- How a value is shown. -/
structure Conversion where
  flags : Octets
  width : Nat
  precision : Option Nat
  letter : Char

namespace Conversion

/-- Whether a flag is set. -/
def has (c : Conversion) (flag : Char) : Bool := c.flags.contains flag

/-- A text filled up to the width. -/
def fill (c : Conversion) (s : Octets) : Octets :=
  let blanks := List.replicate (c.width - s.length) ' '
  if c.has '-' then s ++ blanks else blanks ++ s

/-- A number filled up to the width, with zeros behind its sign if that is wanted. -/
def fillNumber (c : Conversion) (zeros : Bool) (sign digits : Octets) : Octets :=
  if zeros && c.has '0' && !c.has '-' then
    sign ++ List.replicate (c.width - sign.length - digits.length) '0' ++ digits
  else c.fill (sign ++ digits)

/-- A text under a conversion. -/
def text (c : Conversion) (s : Octets) : Octets :=
  c.fill (match c.precision with | some n => s.take n | none => s)

/-- The sign in front of a number. -/
def sign (c : Conversion) (negative : Bool) : Octets :=
  if negative then ['-'] else if c.has '+' then ['+'] else if c.has ' ' then [' '] else []

/-- An integer under a conversion. -/
def integer (c : Conversion) (n : Int) : Octets :=
  let base := match c.letter with
    | 'o' => 8
    | 'x' | 'X' => 16
    | _ => 10
  let digits := Numeral.inBase (c.letter == 'X') base n.natAbs
  let digits := List.replicate (c.precision.getD 1 - digits.length) '0' ++ digits
  let digits :=
    if c.letter = 'o' && c.has '#' && digits.head? != some '0' then '0' :: digits else digits
  let front :=
    if base = 16 then if c.has '#' && n ≠ 0 then ['0', c.letter] else []
    else if base = 8 || c.letter = 'u' then []
    else c.sign (n < 0)
  c.fillNumber c.precision.isNone front digits

end Conversion

/-! ## Fractions -/

/-- A number with a fraction, as floating point keeps it. -/
inductive FloatValue where
  | finite (negative : Bool) (mantissa : Nat) (exponent : Int)
  | infinite (negative : Bool)
  | nan

namespace FloatValue

/-- A quotient rounded to an integer, a half to the even one. -/
def rounded (a b : Nat) : Nat :=
  let q := a / b
  let r := a % b
  if b < 2 * r || (2 * r == b && q % 2 == 1) then q + 1 else q

/-- A power of a base, as a quotient. -/
def power (base : Nat) (e : Int) : Nat × Nat :=
  if e < 0 then (1, Nat.pow base e.natAbs) else (Nat.pow base e.natAbs, 1)

/-- A kind of floating point numbers: how many binary digits they have, and the least and the
greatest power of two behind those. -/
structure Kind where
  digits : Nat
  least : Int
  greatest : Int

/-- Floating point numbers of 64 bits. -/
def Kind.double : Kind := ⟨53, -1074, 971⟩

/-- Floating point numbers of 80 bits. -/
def Kind.extended : Kind := ⟨64, -16445, 16320⟩

/-- The number of a kind that is next to a quotient, and whether the kind has none that is near. -/
def nextTo (kind : Kind) (negative : Bool) (a b : Nat) : FloatValue × Bool :=
  if a = 0 then (finite negative 0 0, false)
  else
    let guess : Int := (Nat.log2 a : Int) - Nat.log2 b - kind.digits
    let quotient (e : Int) : Nat × Nat :=
      let (c, d) := power 2 e
      (a * d, b * c)
    let isWide (e : Int) : Bool :=
      let (n, m) := quotient e
      m * Nat.pow 2 kind.digits ≤ n
    let e := if isWide (guess + 1) then guess + 2 else if isWide guess then guess + 1 else guess
    let e := max e kind.least
    let (n, m) := quotient e
    let digits := rounded n m
    let (digits, e) :=
      if digits = Nat.pow 2 kind.digits then (digits / 2, e + 1) else (digits, e)
    if kind.greatest < e then (infinite negative, true)
    else
      let isSmall := digits < Nat.pow 2 (kind.digits - 1)
      (finite negative digits e, isSmall && digits * m ≠ n)

/-- The number of a kind that is next to a quotient. -/
def ofQuotient (kind : Kind) (negative : Bool) (a b : Nat) : FloatValue :=
  (nextTo kind negative a b).1

/-- The number that hexadecimal digits with a point show, and the power of two they are to be taken
by, which may follow. What is behind is left over; none if there are no digits. -/
def hexadecimal? (s : Octets) : Option (Nat × Int × Octets) :=
  let isDigit (c : Char) : Bool := (Numeral.digitIn? 16 c).isSome
  let whole := s.takeWhile isDigit
  let (places, rest) :=
    match s.drop whole.length with
    | '.' :: cs => (cs.takeWhile isDigit, cs.dropWhile isDigit)
    | cs => ([], cs)
  if whole.isEmpty && places.isEmpty then none
  else
    let n := (Numeral.digitsFrom 16 0 (whole ++ places)).1
    let scale : Int := -4 * (places.length : Int)
    match rest with
    | p :: cs =>
      let (minus, digits) := Numeral.sign cs
      let shown := digits.takeWhile Char.isDigit
      if (p = 'p' ∨ p = 'P') ∧ !shown.isEmpty then
        let e : Int := min 20000 (Numeral.digitsFrom 10 0 shown).1
        some (n, (if minus then -e else e) + scale, digits.drop shown.length)
      else some (n, scale, rest)
    | [] => some (n, scale, [])

/-- Reads a number of a kind, and tells whether it is out of range; what is behind it is left over.
None if there is no number. -/
def read? (kind : Kind) (s : Octets) : Option ((FloatValue × Bool) × Octets) :=
  let (negative, s) := Numeral.sign (s.dropWhile Numeral.isBlank)
  let lower := s.map Char.toLower
  let hexadecimal := if ['0', 'x'].isPrefixOf lower then hexadecimal? (s.drop 2) else none
  if "infinity".toList.isPrefixOf lower then some ((infinite negative, false), s.drop 8)
  else if "inf".toList.isPrefixOf lower then some ((infinite negative, false), s.drop 3)
  else if "nan".toList.isPrefixOf lower then some ((nan, false), s.drop 3)
  else if let some (n, e, rest) := hexadecimal then
    let (a, b) := power 2 e
    some (nextTo kind negative (n * a) b, rest)
  else
    let whole := s.takeWhile Char.isDigit
    let behind := s.drop whole.length
    let (places, rest) :=
      match behind with
      | '.' :: cs => (cs.takeWhile Char.isDigit, cs.dropWhile Char.isDigit)
      | cs => ([], cs)
    if whole.isEmpty && places.isEmpty then none
    else
      let (tens, rest) : Int × Octets :=
        match rest with
        | e :: cs =>
          let (minus, digits) := Numeral.sign cs
          let shown := digits.takeWhile Char.isDigit
          if (e = 'e' ∨ e = 'E') ∧ !shown.isEmpty then
            let n : Int := (Numeral.digitsFrom 10 0 shown).1
            (if minus then -n else n, digits.drop shown.length)
          else (0, rest)
        | [] => (0, [])
      let m := (Numeral.digitsFrom 10 0 (whole ++ places)).1
      let shift : Int := max (-6000) (min 6000 (tens - places.length))
      let (a, b) := power 10 shift
      some (nextTo kind negative (m * a) b, rest)

/-- A number times a power of ten, rounded to an integer. -/
def scaled (mantissa : Nat) (exponent tens : Int) : Nat :=
  let (a, b) := power 2 exponent
  let (c, d) := power 10 tens
  rounded (mantissa * a * c) (b * d)

/-- The position of the first digit of a number that is not zero: the number is at least ten to that
power. The first argument bounds the number of attempts, downwards from `e`. -/
def magnitude (mantissa : Nat) (exponent : Int) : Nat → Int → Int
  | 0, e => e
  | attempts + 1, e =>
    let (a, b) := power 2 exponent
    let (c, d) := power 10 e
    if c * b ≤ mantissa * a * d then e else magnitude mantissa exponent attempts (e - 1)

/-- Digits with a point before the last `places` of them. -/
def withPoint (digits : Octets) (places : Nat) (always : Bool) : Octets :=
  let digits := List.replicate (places + 1 - digits.length) '0' ++ digits
  let whole := digits.take (digits.length - places)
  if places = 0 then if always then whole ++ ['.'] else whole
  else whole ++ '.' :: digits.drop (digits.length - places)

/-- Digits without the zeros at the end of the fraction, and without a point that nothing
follows. -/
def stripped (s : Octets) : Octets :=
  if '.' ∈ s then
    let s := (s.reverse.dropWhile (· == '0')).reverse
    if s.getLast? = some '.' then s.dropLast else s
  else s

/-- A number with a fixed number of places. -/
def fixed (always : Bool) (mantissa : Nat) (exponent : Int) (places : Nat) : Octets :=
  withPoint (Numeral.inBase false 10 (scaled mantissa exponent places)) places always

/-- The digits of a number and the power of ten of the first of them, all in all `places + 1`. -/
def scientificParts (mantissa : Nat) (exponent : Int) (places : Nat) : Nat × Int :=
  if mantissa = 0 then (0, 0)
  else
    let e := magnitude mantissa exponent 8
      ((Nat.log2 mantissa + exponent + 1) * 30103 / 100000 + 1)
    let n := scaled mantissa exponent (places - e)
    if n = Nat.pow 10 (places + 1) then (n / 10, e + 1) else (n, e)

/-- A number in hexadecimal digits. In front of the point stand as many of its binary digits as are
left over when the others are taken in groups of four. -/
def hexadecimal (kind : Kind) (upper always : Bool) (precision : Option Nat) (mantissa : Nat)
    (exponent : Int) : Octets :=
  let letter (c : Char) : Char := if upper then c.toUpper else c
  let places := (kind.digits - 1) / 4
  let up := if mantissa = 0 then 0 else kind.digits - 1 - Nat.log2 mantissa
  let least : Int := kind.least + up
  let up := if exponent < least then (exponent - kind.least).toNat else up
  let mantissa := mantissa * Nat.pow 2 up
  let power := if mantissa = 0 then 0 else exponent - up + 4 * places
  let shown :=
    match precision with
    | none => places
    | some n => n
  let n :=
    if shown < places then rounded mantissa (Nat.pow 16 (places - shown))
    else mantissa * Nat.pow 16 (shown - places)
  let (n, power) := if n < Nat.pow 16 (shown + 1) then (n, power) else (n / 16, power + 4)
  let digits := withPoint (Numeral.inBase upper 16 n) shown true
  let digits := if precision.isNone then (digits.reverse.dropWhile (· == '0')).reverse else digits
  let digits := if digits.getLast? = some '.' && !always then digits.dropLast else digits
  '0' :: letter 'x' :: digits ++ letter 'p' :: (if power < 0 then '-' else '+') ::
    Text.decimal power.natAbs

/-- The power of ten behind a number. -/
def powerText (upper : Bool) (e : Int) : Octets :=
  let digits := Numeral.inBase false 10 e.natAbs
  (if upper then 'E' else 'e') :: (if e < 0 then '-' else '+') ::
    (List.replicate (2 - digits.length) '0' ++ digits)

end FloatValue

namespace Conversion

/-- A number of a kind under a conversion. -/
def float (kind : FloatValue.Kind) (c : Conversion) (x : FloatValue) : Octets :=
  let upper := c.letter.isUpper
  let shown (s : String) : Octets := (if upper then s.toUpper else s).toList
  match x with
  | .nan => c.fillNumber false (c.sign false) (shown "nan")
  | .infinite negative => c.fillNumber false (c.sign negative) (shown "inf")
  | .finite negative m e =>
    let always := c.has '#'
    let digits : Octets :=
      match c.letter.toLower with
      | 'a' => FloatValue.hexadecimal kind upper always c.precision m e
      | 'f' => FloatValue.fixed always m e (c.precision.getD 6)
      | 'e' =>
        let places := c.precision.getD 6
        let (n, power) := FloatValue.scientificParts m e places
        FloatValue.withPoint (Numeral.inBase false 10 n) places always ++
          FloatValue.powerText upper power
      | _ =>
        let count := max 1 (c.precision.getD 6)
        let (n, power) := FloatValue.scientificParts m e (count - 1)
        let strip (s : Octets) : Octets := if always then s else FloatValue.stripped s
        if -4 ≤ power ∧ power < count then
          strip (FloatValue.fixed always m e (count - 1 - power).toNat)
        else
          strip (FloatValue.withPoint (Numeral.inBase false 10 n) (count - 1) always) ++
            FloatValue.powerText upper power
    c.fillNumber true (c.sign negative) digits

end Conversion

end CallForest
