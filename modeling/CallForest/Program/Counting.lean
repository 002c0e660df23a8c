import CallForest.Program.Format
import CallForest.Program.Input

/-!
# Counting

`wc` counts what is in its inputs, `seq` prints numbers in order, and `yes` prints one line again
and again.
-/

namespace CallForest

/-! ## Counts of inputs -/

/-- What there is of each kind in a content. -/
structure Counts where
  lines : Nat
  words : Nat
  bytes : Nat
  longest : Nat

namespace Counts

/-- The counts of nothing. -/
def zero : Counts := ⟨0, 0, 0, 0⟩

/-- The counts of two contents together. -/
def add (a b : Counts) : Counts :=
  ⟨a.lines + b.lines, a.words + b.words, a.bytes + b.bytes, max a.longest b.longest⟩

/-- The number of words, the last character having been a blank or not. -/
def wordsFrom (count : Nat) (behindBlank : Bool) : Octets → Nat
  | [] => count
  | c :: cs =>
    let blank := Numeral.isBlank c
    wordsFrom (if behindBlank && !blank then count + 1 else count) blank cs

/-- The width of the widest line; `column` is how wide the line in progress is already. Tabs go to
the next multiple of eight, and what cannot be shown has no width. -/
def longestFrom (longest column : Nat) : Octets → Nat
  | [] => max longest column
  | c :: cs =>
    if c = '\n' ∨ c = '\r' ∨ c.toNat = 12 then longestFrom (max longest column) 0 cs
    else if c = '\t' then longestFrom longest (column + (8 - column % 8)) cs
    else longestFrom longest (if QuotedName.isShown c then column + 1 else column) cs

/-- The counts of a content. -/
def ofContent (s : Octets) : Counts :=
  ⟨s.count '\n', wordsFrom 0 true s, s.length,
    longestFrom 0 0 s⟩

/-- The counts that options ask for, in the order in which they are printed. -/
def chosen (given : List GivenOption) (c : Counts) : List Nat :=
  let all := !(given.any fun o => o.1 ∈ "lwmcL".toList)
  (if all || isGiven given 'l' then [c.lines] else []) ++
    (if all || isGiven given 'w' then [c.words] else []) ++
    (if isGiven given 'm' then [c.bytes] else []) ++
    (if all || isGiven given 'c' then [c.bytes] else []) ++
    (if isGiven given 'L' then [c.longest] else [])

/-- A line of counts, each of them at least so wide. -/
def line (width : Nat) (counts : List Nat) (name : Option Octets) : Octets :=
  let shown := counts.map fun n =>
    let digits := Text.decimal n
    List.replicate (width - digits.length) ' ' ++ digits
  [' '].intercalate shown ++ ((name.map fun n => ' ' :: n).getD []) ++ ['\n']

end Counts

/-- How wide the counts of inputs are: as wide as the number of all bytes, or seven if one of them
is no file. -/
def countWidth (i : Invocation) (kinds : Nat) (names : List Octets) : Nat :=
  let sizes := names.map fun name =>
    if isOwnInput name then (if i.inputIsFile then some (some i.input.length) else some none)
    else
      match i.files.entry (Octets.toText name) with
      | .ok (.file n) => some (some (i.files.contentOf n).length)
      | .ok _ => some none
      | .error _ => none
  if kinds = 1 && names.length ≤ 1 then 1
  else if names.length ≤ 1 && sizes == [none] then 1
  else
    let total := sizes.foldl (fun n s => n + (s.join).getD 0) 0
    let least := if sizes.any fun s => s == some none then 7 else 1
    max least (Text.decimal total).length

/-- Counts the lines, words and bytes of its inputs. -/
def wcProgram : Program := fun i =>
  let table := OptionTable.ofLetters "clLmw"
    [("bytes", 'c'), ("lines", 'l'), ("max-line-length", 'L'), ("chars", 'm'), ("words", 'w')]
  table.run "wc" 1 (fun _ => none) i fun given operands =>
    let names := inputNames operands
    let width := countWidth i (Counts.zero.chosen given).length names
    let (e, total) := names.foldl (fun (e, total) name =>
      let label := if operands.isEmpty then none else some name
      if name.isEmpty then (e.fail i.name 1 "invalid zero-length file name".toList, total)
      else
        match e.readAll name with
        | .ok (content, e) =>
          let counts := Counts.ofContent content
          (e.print (Counts.line width (counts.chosen given) label), total.add counts)
        | .error x =>
          let shown := if operands.isEmpty then "'standard input'".toList
            else QuotedName.ifNeeded name
          let e := e.fail i.name 1 (shown ++ ": ".toList ++ x.reason.toList)
          if x = .isDirectory || x = .badDescriptor then
            (e.print (Counts.line width (Counts.zero.chosen given) label), total)
          else (e, total))
      (i.start, Counts.zero)
    if 1 < names.length then
      e.print (Counts.line width (total.chosen given) (some "total".toList))
    else e

/-! ## Numbers in order -/

/-- A decimal number: its digits without the point, and how many of them stand behind it. -/
structure DecimalNumber where
  value : Int
  places : Nat

namespace DecimalNumber

/-- The number with its point moved by so many places. -/
def shifted (d : DecimalNumber) (power : Int) : DecimalNumber :=
  let places := (d.places : Int) - power
  if places < 0 then ⟨d.value * Nat.pow 10 places.natAbs, 0⟩ else ⟨d.value, places.toNat⟩

/-- The power of ten behind a number. -/
def power? : Octets → Option Int
  | [] => some 0
  | e :: cs =>
    let (negative, digits) := Numeral.sign cs
    if (e = 'e' ∨ e = 'E') ∧ !digits.isEmpty ∧ digits.all Char.isDigit ∧ digits.length ≤ 3 then
      let n := (Numeral.digitsFrom 10 0 digits).1
      some (if negative then -(n : Int) else n)
    else none

/-- Reads a decimal number. -/
def ofText? (s : Octets) : Option DecimalNumber := do
  let (negative, s) := Numeral.sign s
  let whole := s.takeWhile Char.isDigit
  let (places, rest) : Octets × Octets :=
    match s.drop whole.length with
    | '.' :: cs => (cs.takeWhile Char.isDigit, cs.dropWhile Char.isDigit)
    | cs => ([], cs)
  let power ← power? rest
  if whole.isEmpty && places.isEmpty then none
  else
    let n := (Numeral.digitsFrom 10 0 (whole ++ places)).1
    some (shifted ⟨if negative then -(n : Int) else n, places.length⟩ power)

/-- The digits of a number with that many places. -/
def scaledTo (d : DecimalNumber) (places : Nat) : Int :=
  d.value * Nat.pow 10 (places - d.places)

/-- A number of so many places, as it is shown. -/
def shown (places : Nat) (n : Int) : Octets :=
  (if n < 0 then ['-'] else []) ++
    FloatValue.withPoint (Numeral.inBase false 10 n.natAbs) places false

/-- A number filled up with zeros behind its sign. -/
def padded (width : Nat) (s : Octets) : Octets :=
  match s with
  | '-' :: cs => '-' :: (List.replicate (width - cs.length - 1) '0' ++ cs)
  | s => List.replicate (width - s.length) '0' ++ s

end DecimalNumber

/-- The numbers from one to another by steps, at most as many as the first argument tells. -/
def numbersFrom (step last : Int) : Nat → Int → List Int
  | 0, _ => []
  | count + 1, n =>
    if (0 < step ∧ last < n) ∨ (step < 0 ∧ n < last) then []
    else n :: numbersFrom step last count (n + step)

/-- A format of numbers: what stands in front of the conversion and behind it. -/
structure NumberFormat where
  front : Octets
  conversion : Conversion
  behind : Octets

namespace NumberFormat

/-- The text up to the conversion of a format, in which a percent sign is written twice, and what
begins with the conversion. -/
def untilConversion : Octets → Octets × Octets
  | '%' :: '%' :: cs =>
    let (front, rest) := untilConversion cs
    ('%' :: front, rest)
  | '%' :: cs => ([], '%' :: cs)
  | c :: cs =>
    let (front, rest) := untilConversion cs
    (c :: front, rest)
  | [] => ([], [])

/-- Reads a format, which has one conversion. -/
def ofText (s : Octets) : Except Octets NumberFormat :=
  let problem (text : String) : Octets :=
    "format ".toList ++ QuotedName.ofArgument s ++ ' ' :: text.toList
  let (front, rest) := untilConversion s
  match rest with
  | [] => .error (problem "has no % directive")
  | _ :: cs =>
    let flags := cs.takeWhile (· ∈ "-+#0 '".toList)
    let cs := cs.drop flags.length
    let width := cs.takeWhile Char.isDigit
    let (precision, cs) : Option Octets × Octets :=
      match cs.drop width.length with
      | '.' :: cs => (some (cs.takeWhile Char.isDigit), cs.dropWhile Char.isDigit)
      | cs => (none, cs)
    let cs := cs.dropWhile (· == 'L')
    match cs with
    | [] => .error (problem "ends in %")
    | letter :: cs =>
      if letter ∉ "aefgAEFG".toList then
        .error (problem "has unknown %" ++ letter :: " directive".toList)
      else
        let (behind, more) := untilConversion cs
        if !more.isEmpty then .error (problem "has too many % directives")
        else
          let number (digits : Octets) : Nat := (Numeral.digitsFrom 10 0 digits).1
          .ok ⟨front, ⟨flags, number width, precision.map number, letter⟩, behind⟩

/-- A number of so many places under a format. -/
def shown (f : NumberFormat) (places : Nat) (n : Int) : Octets :=
  let x := FloatValue.ofQuotient .extended (n < 0) n.natAbs (Nat.pow 10 places)
  f.front ++ f.conversion.float .extended x ++ f.behind

end NumberFormat

/-- Whether an argument of `seq` is a negative number and so no option. -/
def isNegative : Octets → Bool
  | '-' :: c :: _ => c.isDigit || c == '.'
  | _ => false

/-- Prints the numbers from its first operand to its last. -/
def seqProgram : Program := fun i =>
  let table : OptionTable :=
    ⟨[('f', .always), ('s', .always), ('w', .never)],
      [("format", 'f', .always), ("separator", 's', .always), ("equal-width", 'w', .never)], true⟩
  let front := i.args.takeWhile fun a => !isNegative a
  table.run "seq" 1 (fun _ => none) { i with args := front } fun given operands =>
    let operands := operands ++ i.args.drop front.length
    let refuse (text : Octets) : Effect :=
      (i.start.fail i.name 1 text).complain (OptionTable.hint i.name)
    let format? := (givenValue? given 'f').map NumberFormat.ofText
    match operands.find? fun s => (DecimalNumber.ofText? s).isNone, format? with
    | _, some (.error problem) => i.start.fail i.name 1 problem
    | some s, _ =>
      if 3 < operands.length then
        refuse ("extra operand ".toList ++ QuotedName.ofArgument (operands.getD 3 []))
      else refuse ("invalid floating point argument: ".toList ++ QuotedName.ofArgument s)
    | none, format? =>
      let parts : Option (DecimalNumber × DecimalNumber × DecimalNumber) :=
        match operands.filterMap DecimalNumber.ofText? with
        | [last] => some (⟨1, 0⟩, ⟨1, 0⟩, last)
        | [first, last] => some (first, ⟨1, 0⟩, last)
        | [first, step, last] => some (first, step, last)
        | _ => none
      match parts with
      | none =>
        match operands[3]? with
        | some s => refuse ("extra operand ".toList ++ QuotedName.ofArgument s)
        | none => refuse "missing operand".toList
      | some (first, step, last) =>
        if format?.isSome && isGiven given 'w' then
          refuse "format string may not be specified when printing equal width strings".toList
        else if step.value = 0 then
          refuse ("invalid Zero increment value: ".toList ++
            QuotedName.ofArgument (operands.getD 1 []))
        else
          let places := max first.places step.places
          let precise := max places last.places
          let count := (last.scaledTo precise - first.scaledTo precise) / step.scaledTo precise + 1
          let numbers :=
            (numbersFrom (step.scaledTo precise) (last.scaledTo precise) count.toNat
              (first.scaledTo precise)).map fun n => Int.tdiv n (Nat.pow 10 (precise - places))
          let shown := numbers.map fun n =>
            match format? with
            | some (.ok f) => f.shown places n
            | _ => DecimalNumber.shown places n
          let widest := (shown.map List.length).foldl max 0
          let shown := if isGiven given 'w' then shown.map (DecimalNumber.padded widest) else shown
          let separator := (givenValue? given 's').getD ['\n']
          if shown.isEmpty then i.start
          else i.start.print (separator.intercalate shown ++ ['\n'])

/-- Prints one line again and again. -/
def yesProgram : Program := fun i =>
  let line := (if i.args.isEmpty then ['y'] else [' '].intercalate i.args) ++ ['\n']
  { i.start.print (List.replicate (i.patience / line.length + 1) line).flatten with
    continuation := .writes }

end CallForest
