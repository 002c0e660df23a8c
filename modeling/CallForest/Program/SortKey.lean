import CallForest.Program.Effect
import CallForest.Program.Numeral
import CallForest.Text.VersionOrder

/-!
# Keys of lines

Lines are put in order by keys: parts of them that go from a position to another, each compared in a
manner of its own, as text, as a number, as a size, as a month or as a version. Positions count
fields, which a character separates or which begin with blanks, and characters within a field.
-/

namespace CallForest

/-- Whether a character separates the fields of a line. -/
def isFieldBlank (c : Char) : Bool := c == ' ' || c == '\t'

/-- Compares octets byte by byte. -/
def compareOctets : Octets → Octets → Ordering
  | [], [] => .eq
  | [], _ :: _ => .lt
  | _ :: _, [] => .gt
  | a :: s, b :: t => if a = b then compareOctets s t else compare a.toNat b.toNat

namespace SortKey

/-- How keys are compared. -/
structure Manner where
  skipsBlanksAtStart : Bool
  skipsBlanksAtEnd : Bool
  /-- The letters of the other options: `d`, `f`, `g`, `h`, `i`, `M`, `n`, `R`, `r` and `V`. -/
  letters : Octets

/-- The manner of comparing whole texts. -/
def Manner.plain : Manner := ⟨false, false, []⟩

/-- Whether an option is set. -/
def Manner.has (m : Manner) (c : Char) : Bool := m.letters.contains c

/-- Whether nothing but the direction is said. -/
def Manner.isPlain (m : Manner) : Bool :=
  !m.skipsBlanksAtStart && !m.skipsBlanksAtEnd && m.letters.all (· == 'r')

/-- Sets the option of a letter; none if there is no such letter. `b` is about the blanks at one
end. -/
def Manner.set? (m : Manner) (atStart atEnd : Bool) (c : Char) : Option Manner :=
  if c = 'b' then
    some { m with
      skipsBlanksAtStart := m.skipsBlanksAtStart || atStart
      skipsBlanksAtEnd := m.skipsBlanksAtEnd || atEnd }
  else if "dfghiMnRrV".toList.contains c then
    if m.has c || (c = 'i' && m.has 'd') then some m
    else if c = 'd' then some { m with letters := c :: m.letters.filter (· ≠ 'i') }
    else some { m with letters := c :: m.letters }
  else none

/-- Sets the options of the letters in front of a text, and gives the rest of it. -/
def Manner.setAll (m : Manner) (atStart atEnd : Bool) : Octets → Manner × Octets
  | [] => (m, [])
  | c :: cs =>
    match m.set? atStart atEnd c with
    | some m => m.setAll atStart atEnd cs
    | none => (m, c :: cs)

/-- The letters of options that contradict each other, if there are any. -/
def Manner.contradiction? (m : Manner) : Option Octets :=
  let kinds := (['n', 'g', 'h', 'M'].filter m.has).length +
    (if m.has 'V' || m.has 'R' || m.has 'd' || m.has 'i' then 1 else 0)
  if kinds ≤ 1 then none else some ("dfghiMnRV".toList.filter m.has)

end SortKey

/-- A key: from a field, and a character of it, to a field, and a character of that. Positions count
from zero; a key without an end goes to the end of the line. -/
structure SortKey where
  field : Nat
  character : Nat
  /-- The last field and how many of its characters belong to the key; none belong all. -/
  stop : Option (Nat × Nat)
  manner : SortKey.Manner

namespace SortKey

/-- The key that is a whole line. -/
def whole (m : Manner) : SortKey := ⟨0, 0, none, m⟩

/-- Reads a number in a key; `problem` is said if there is none. -/
def count (problem : String) (s : Octets) : Except Octets (Nat × Octets) :=
  let digits := s.takeWhile Char.isDigit
  if digits.isEmpty then
    .error (problem.toList ++ ": invalid count at start of ".toList ++ QuotedName.ofArgument s)
  else .ok ((Numeral.digitsFrom 10 0 digits).1, s.drop digits.length)

/-- What is said of a key that makes no sense. -/
def refusal {α : Type} (problem : String) (s : Octets) : Except Octets α :=
  .error (problem.toList ++ ": invalid field specification ".toList ++ QuotedName.ofArgument s)

/-- Reads a key. -/
def ofText (s : Octets) : Except Octets SortKey := do
  let (field, rest) ← count "invalid number at field start" s
  if field = 0 then refusal "field number is zero" s
  else
    let (character, rest) ← match rest with
      | '.' :: cs => do
        let (n, rest) ← count "invalid number after '.'" cs
        if n = 0 then refusal "character offset is zero" s else pure (n - 1, rest)
      | cs => pure (0, cs)
    let (m, rest) := Manner.plain.setAll true false rest
    match rest with
    | [] => return ⟨field - 1, character, none, m⟩
    | ',' :: cs =>
      let (last, rest) ← count "invalid number after ','" cs
      if last = 0 then refusal "field number is zero" s
      else
        let (characters, rest) ← match rest with
          | '.' :: cs => count "invalid number after '.'" cs
          | cs => pure (0, cs)
        let (m, rest) := m.setAll false true rest
        if rest.isEmpty then return ⟨field - 1, character, some (last - 1, characters), m⟩
        else refusal "stray character in field spec" s
    | _ => refusal "stray character in field spec" s

/-- A line without so many of its first fields. -/
def afterFields (separator : Option Char) : Nat → Octets → Octets
  | 0, s => s
  | n + 1, s =>
    match separator with
    | some c => afterFields separator n ((s.dropWhile (· ≠ c)).drop 1)
    | none =>
      afterFields separator n ((s.dropWhile isFieldBlank).dropWhile fun c => !isFieldBlank c)

/-- What of a line stands behind the end of a key. -/
def behind (k : SortKey) (separator : Option Char) (line : Octets) : Octets :=
  match k.stop with
  | none => []
  | some (field, 0) =>
    let rest := afterFields separator field line
    match separator with
    | some c => rest.dropWhile (· ≠ c)
    | none => (rest.dropWhile isFieldBlank).dropWhile fun c => !isFieldBlank c
  | some (field, n + 1) =>
    let rest := afterFields separator field line
    let rest := if k.manner.skipsBlanksAtEnd then rest.dropWhile isFieldBlank else rest
    rest.drop (n + 1)

/-- The part of a line that a key means. -/
def part (k : SortKey) (separator : Option Char) (line : Octets) : Octets :=
  let rest := afterFields separator k.field line
  let rest := if k.manner.skipsBlanksAtStart then rest.dropWhile isFieldBlank else rest
  let rest := rest.drop k.character
  rest.take (rest.length - (k.behind separator line).length)

/-! ## Values -/

/-- A decimal number: its sign, its whole part, and its places without zeros at their end. -/
structure Decimal where
  negative : Bool
  whole : Nat
  places : Octets
  deriving DecidableEq, Repr

/-- The decimal number in front of a text, and the rest of it. -/
def Decimal.read (s : Octets) : Decimal × Octets :=
  let (negative, s) : Bool × Octets := match s with
    | '-' :: cs => (true, cs)
    | s => (false, s)
  let whole := s.takeWhile Char.isDigit
  let rest := s.drop whole.length
  let (places, rest) : Octets × Octets := match rest with
    | '.' :: cs => (cs.takeWhile Char.isDigit, cs.dropWhile Char.isDigit)
    | cs => ([], cs)
  let places := (places.reverse.dropWhile (· = '0')).reverse
  (⟨negative, (Numeral.digitsFrom 10 0 whole).1, places⟩, rest)

/-- Whether a number is zero. -/
def Decimal.isZero (d : Decimal) : Bool := d.whole == 0 && d.places.isEmpty

/-- Compares numbers. -/
def Decimal.compare (a b : Decimal) : Ordering :=
  let size (a b : Decimal) : Ordering :=
    (Ord.compare a.whole b.whole).then (compareOctets a.places b.places)
  match a.negative && !a.isZero, b.negative && !b.isZero with
  | false, false => size a b
  | true, true => size b a
  | true, false => .lt
  | false, true => .gt

/-- A number in any form, with its place among what are no numbers: it is a mantissa times a power
of ten. -/
inductive General where
  | none
  | nan
  | infinite (negative : Bool)
  | finite (mantissa : Int) (power : Int)
  deriving DecidableEq, Repr

/-- The number in front of a text in any form. -/
def General.read (s : Octets) : General :=
  let (negative, s) := Numeral.sign (s.dropWhile Numeral.isBlank)
  let lower := (s.take 3).map Char.toLower
  let signed (n : Nat) : Int := if negative then -(n : Int) else n
  if lower = "inf".toList then .infinite negative
  else if lower = "nan".toList then .nan
  else
    match s with
    | '0' :: x :: c :: cs =>
      if (x = 'x' ∨ x = 'X') ∧ (Numeral.digitIn? 16 c).isSome then
        .finite (signed (Numeral.digitsFrom 16 0 (c :: cs)).1) 0
      else decimal signed s
    | s => decimal signed s
where
  /-- The number in front of a text with decimal digits. -/
  decimal (signed : Nat → Int) (s : Octets) : General :=
    let whole := s.takeWhile Char.isDigit
    let (places, rest) : Octets × Octets := match s.drop whole.length with
      | '.' :: cs => (cs.takeWhile Char.isDigit, cs.dropWhile Char.isDigit)
      | cs => ([], cs)
    if whole.isEmpty && places.isEmpty then .none
    else
      let power : Int := match rest with
        | e :: cs =>
          let (minus, digits) := Numeral.sign cs
          let n : Int := (Numeral.digitsFrom 10 0 (digits.takeWhile Char.isDigit)).1
          if e = 'e' ∨ e = 'E' then (if minus then -n else n) else 0
        | [] => 0
      let power := max (-5000) (min 5000 (power - places.length))
      .finite (signed (Numeral.digitsFrom 10 0 (whole ++ places)).1) power

/-- Compares numbers in any form; what is no number comes first. -/
def General.compare (a b : General) : Ordering :=
  let rank : General → Nat
    | .none => 0
    | .nan => 1
    | .infinite true => 2
    | .finite _ _ => 3
    | .infinite false => 4
  match a, b with
  | .finite m p, .finite n q =>
    let least := min p q
    Ord.compare (m * (Nat.pow 10 (p - least).toNat : Nat))
      (n * (Nat.pow 10 (q - least).toNat : Nat))
  | a, b => Ord.compare (rank a) (rank b)

/-- What is compared of a key. -/
inductive Value where
  | text (s : Octets)
  | number (d : Decimal)
  /-- A number with the rank of the unit behind it. -/
  | size (rank : Int) (d : Decimal)
  | general (x : General)
  | version (s : Octets)
  | month (n : Nat)

/-- The rank of a unit of sizes. -/
def unitRank (c : Char) : Nat :=
  match c with
  | 'k' | 'K' => 1
  | 'M' => 2
  | 'G' => 3
  | 'T' => 4
  | 'P' => 5
  | 'E' => 6
  | 'Z' => 7
  | 'Y' => 8
  | _ => 0

/-- The names of the months. -/
def monthNames : List String :=
  ["JAN", "FEB", "MAR", "APR", "MAY", "JUN", "JUL", "AUG", "SEP", "OCT", "NOV", "DEC"]

/-- What is compared of a text. -/
def Manner.value (m : Manner) (s : Octets) : Value :=
  let s := if m.has 'd' then s.filter fun c => isFieldBlank c || c.isAlphanum
    else if m.has 'i' then s.filter QuotedName.isShown
    else s
  let s := if m.has 'f' then s.map Char.toUpper else s
  let body := s.dropWhile isFieldBlank
  if m.has 'n' then .number (Decimal.read body).1
  else if m.has 'g' then .general (.read s)
  else if m.has 'h' then
    let (d, rest) := Decimal.read body
    let rank : Int := if d.isZero then 0 else unitRank (rest.headD ' ')
    .size (if d.negative then -rank else rank) d
  else if m.has 'M' then
    let front := (body.take 3).map Char.toUpper
    .month ((monthNames.findIdx? fun n => n.toList = front).elim 0 (· + 1))
  else if m.has 'V' then .version s
  else .text s

/-- Compares what is compared of keys. -/
def Value.compare : Value → Value → Ordering
  | .text s, .text t => compareOctets s t
  | .number a, .number b => a.compare b
  | .size m a, .size n b => (Ord.compare m n).then (a.compare b)
  | .general a, .general b => a.compare b
  | .version s, .version t => Ord.compare (Text.VersionOrder.compare s t) 0
  | .month m, .month n => Ord.compare m n
  | _, _ => .eq

end SortKey

end CallForest
