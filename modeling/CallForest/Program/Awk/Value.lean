import CallForest.Program.Awk.Number
import CallForest.Program.Awk.Syntax

/-!
# Values of scripts

A value is a number or a text, or what was read, which counts as a number if it looks like one.
Where a value is needed in the other form it is turned into that. Tables keep values under texts.
-/

namespace CallForest.Awk

/-- A value. -/
inductive Value where
  | nothing
  | number (x : Float)
  | text (s : Octets)
  /-- What was read. -/
  | read (s : Octets)

namespace Value

/-- The value of a truth. -/
def ofBool (b : Bool) : Value := .number (if b then 1.0 else 0.0)

/-- The value of a count. -/
def ofNat (n : Nat) : Value := .number (Float.ofNat n)

/-- A value as a number. -/
def toNumber : Value → Float
  | nothing => 0.0
  | number x => x
  | text s | read s => numberIn s

/-- The number that a value counts as in comparisons, if it does. -/
def number? : Value → Option Float
  | nothing => some 0.0
  | number x => some x
  | text _ => none
  | read s => wholeNumber? s

end Value

/-! ## Formats -/

/-- What is between the percent sign and the letter of a conversion: flags, width and precision. An
asterisk takes the next value. -/
structure Measure where
  flags : Octets
  width : Nat
  precision : Option Nat

/-- The next value as a count, and the values behind it. -/
def takeCount (args : List Value) : Option (Int × List Value) :=
  match args with
  | [] => none
  | v :: vs => some (clamped v.toNumber, vs)

/-- Reads the measure of a conversion. None if a value is missing. -/
def readMeasure (s : Octets) (args : List Value) : Option (Measure × Octets × List Value) := do
  let flags := s.takeWhile (· ∈ "-+ #0".toList)
  let s := s.drop flags.length
  let count (s : Octets) (args : List Value) : Option (Int × Octets × List Value) :=
    match s with
    | '*' :: cs => (takeCount args).map fun (n, args) => (n, cs, args)
    | s =>
      let digits := s.takeWhile Char.isDigit
      some ((Numeral.digitsFrom 10 0 digits).1, s.drop digits.length, args)
  let (width, s, args) ← count s args
  let flags := if width < 0 then '-' :: flags else flags
  match s with
  | '.' :: cs =>
    let (n, s, args) ← count cs args
    return (⟨flags, width.natAbs, if n < 0 then none else some n.natAbs⟩, s, args)
  | s => return (⟨flags, width.natAbs, none⟩, s, args)

/-- A number as it is shown by the letter of a conversion. -/
def shownNumber (m : Measure) (letter : Char) (x : Float) : Octets :=
  let c : Conversion := ⟨m.flags, m.width, m.precision, letter⟩
  if letter ∈ ['d', 'i', 'o', 'x', 'X', 'u'] then
    let n := (FloatValue.ofFloat x).truncated
    let n := if letter = 'd' || letter = 'i' then clamped x
      else if n < 0 then n % (Nat.pow 2 64 : Nat) else min n (Nat.pow 2 64 - 1 : Nat)
    c.integer n
  else c.float .double (.ofFloat x)

/-- Values under a format, and whether there are enough of them; what is behind the first that is
missing is left out. `toText` is how a value is shown as a text. The first argument bounds the
number of steps. -/
def formattedFrom (toText : Value → Octets) : Nat → Octets → List Value → Octets × Bool
  | 0, _, _ => ([], true)
  | _ + 1, [], _ => ([], true)
  | steps + 1, '%' :: '%' :: cs, args =>
    let (s, isWhole) := formattedFrom toText steps cs args
    ('%' :: s, isWhole)
  | steps + 1, '%' :: cs, args =>
    match readMeasure cs args with
    | none => ([], false)
    | some (m, rest, args) =>
      match rest.dropWhile (· ∈ ['h', 'l', 'L', 'q', 'j', 't']), args with
      | [], _ => ('%' :: cs, true)
      | _ :: _, [] => ([], false)
      | letter :: rest, v :: args =>
        let c : Conversion := ⟨m.flags, m.width, m.precision, letter⟩
        let shown :=
          match letter with
          | 's' => c.text (toText v)
          | 'c' =>
            match v with
            | .text s => c.fill [s.headD (Char.ofNat 0)]
            | .nothing => c.fill [Char.ofNat 0]
            | v =>
              match v.number? with
              | some x => c.fill [Char.ofNat ((clamped x) % 256).toNat]
              | none => c.fill [(toText v).headD (Char.ofNat 0)]
          | letter => shownNumber m letter v.toNumber
        let (s, isWhole) := formattedFrom toText steps rest args
        (shown ++ s, isWhole)
  | steps + 1, c :: cs, args =>
    let (s, isWhole) := formattedFrom toText steps cs args
    (c :: s, isWhole)

/-- A number as a text: an integer in full, another one under a format. -/
def numberText (format : Octets) (x : Float) : Octets :=
  match integer? x with
  | some n => integerText n
  | none =>
    if x.isNaN then "-nan".toList
    else
      (formattedFrom (fun _ => []) (format.length + 1) format [.number x]).1

/-- A value as a text, numbers under a format. -/
def Value.toText (format : Octets) : Value → Octets
  | .nothing => []
  | .number x => numberText format x
  | .text s | .read s => s

/-- Whether two values compare as is asked: as numbers if both count as such, and as texts
otherwise. -/
def Comparison.holds (how : Comparison) (format : Octets) (a b : Value) : Bool :=
  match a.number?, b.number? with
  | some x, some y =>
    match how with
    | .less => x < y
    | .atMost => x ≤ y
    | .equal => x == y
    | .different => x != y
    | .more => y < x
    | .atLeast => y ≤ x
  | _, _ =>
    let s := String.ofList (a.toText format)
    let t := String.ofList (b.toText format)
    match how with
    | .less => s < t
    | .atMost => !(t < s)
    | .equal => s = t
    | .different => s ≠ t
    | .more => t < s
    | .atLeast => !(s < t)

/-- Whether a value counts as true. -/
def Value.isTrue : Value → Bool
  | .nothing => false
  | .number x => x != 0.0
  | .text s => !s.isEmpty
  | .read s => match wholeNumber? s with
    | some x => x != 0.0
    | none => !s.isEmpty

/-- Two numbers joined. -/
def Arithmetic.result (join : Arithmetic) (x y : Float) : Float :=
  match join with
  | .add => x + y
  | .subtract => x - y
  | .multiply => x * y
  | .divide => x / y
  | .remainder => (FloatValue.remainder (.ofFloat x) (.ofFloat y)).toFloat
  | .power => Float.pow x y

/-! ## Tables -/

/-- A table: the values under their keys, the one that was used last first. -/
abbrev Table := List (Octets × Value)

namespace Table

/-- A number that is spread evenly over keys. -/
def spread (key : Octets) : Nat :=
  key.foldl (fun h c => (h ^^^ c.toNat) * 16777619 % 4294967296) 2166136261

/-- Into how many groups the keys of a table fall: at most twelve to a group on average. -/
def groupsFor (size : Nat) : Nat → Nat → Nat
  | 0, n => n
  | steps + 1, n => if 12 * n < size then groupsFor size steps (2 * n) else n

/-- The keys in the order in which they are gone through: by groups, the latest first in each. -/
def orderedKeys (t : Table) : List Octets :=
  let groups := groupsFor t.length 40 64
  ((t.map fun e => (spread e.1 % groups, e.1)).mergeSort fun a b => a.1 ≤ b.1).map Prod.snd

/-- The table with a value under a key. -/
def put (t : Table) (key : Octets) (v : Value) : Table :=
  (key, v) :: t.filter fun e => e.1 ≠ key

/-- The value under a key; a key that is looked for is there from then on. -/
def take (t : Table) (key : Octets) : Value × Table :=
  let v := (t.lookup key).getD .nothing
  (v, t.put key v)

end Table

end CallForest.Awk
