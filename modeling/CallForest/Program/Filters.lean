import CallForest.Program.Input
import CallForest.Program.Regex
import CallForest.Program.SortKey

/-!
# Filters of lines

`uniq` drops the lines that are like the one before, `tac` and `rev` turn lines around, and `cut`
takes parts of each.
-/

namespace CallForest

/-! ## Repeated lines -/

/-- A count in the value of an option. -/
def countIn? (s : Octets) : Option Nat :=
  if !s.isEmpty && s.all Char.isDigit then some (Numeral.digitsFrom 10 0 s).1 else none

/-- The part of a line that is compared: without so many fields and then characters in front, and at
most so many characters. -/
def comparedPart (fields characters : Nat) (most : Option Nat) (line : Octets) : Octets :=
  let rest := (List.range fields).foldl (fun s _ =>
    (s.dropWhile isFieldBlank).dropWhile fun c => !isFieldBlank c) line
  let rest := rest.drop characters
  match most with
  | some n => rest.take n
  | none => rest

/-- The lines of a run of lines that are alike that are printed, each with the number of those in
the run. `given` are letters of options: `d` and `D` leave out lines that stand alone, `u` leaves
out the others, and `D` prints all that are alike. -/
def printedOf (given : Octets) (run : List Octets) : List (Nat × Octets) :=
  let numbered := run.map fun line => (run.length, line)
  if run.length = 1 then if 'd' ∈ given || 'D' ∈ given then [] else numbered
  else if 'D' ∈ given then if 'u' ∈ given then numbered.dropLast else numbered
  else if 'u' ∈ given then [] else numbered.take 1

/-- Where groups of lines have an empty line: in front of each, between them or behind each. -/
structure GroupMarks where
  front : Bool
  between : Bool
  behind : Bool

namespace GroupMarks

/-- The marks by their name. -/
def named (name : String) : GroupMarks :=
  ⟨name = "prepend" || name = "both", name = "separate" || name = "both",
    name = "append" || name = "both"⟩

/-- Groups of texts with a mark where it belongs. No two marks stand together. -/
def applied (m : GroupMarks) (mark : Octets) (groups : List Octets) : Octets :=
  (if m.front && !groups.isEmpty then mark else []) ++
    (if m.front || m.between || m.behind then mark else []).intercalate groups ++
    (if m.behind && !groups.isEmpty then mark else [])

end GroupMarks

/-- The ways to mark lines that are repeated. -/
def repeatedMarks : Choice := ⟨"--all-repeated", [["none"], ["prepend"], ["separate"]]⟩

/-- The ways to mark groups of lines. -/
def allMarks : Choice := ⟨"--group", [["prepend"], ["append"], ["separate"], ["both"]]⟩

/-- The text of runs of lines that are alike, under the options that are given. -/
def printedRuns (given : List GivenOption) (newline : Char) (runs : List (List Octets)) : Octets :=
  let letters := given.map Prod.fst
  let mark : Octets := [newline]
  let text (run : List (Nat × Octets)) : Octets :=
    run.flatMap fun (n, line) =>
      if 'c' ∈ letters then
        let digits := Text.decimal n
        List.replicate (7 - digits.length) ' ' ++ digits ++ ' ' :: line ++ mark
      else line ++ mark
  match allMarks.given? given 'G', repeatedMarks.given? given 'D' with
  | some way, _ =>
    (GroupMarks.named way).applied mark (runs.map fun run => run.flatMap (· ++ mark))
  | none, some way =>
    (GroupMarks.named way).applied mark
      ((runs.filter fun run => 1 < run.length).map fun run => text (printedOf letters run))
  | none, none => runs.flatMap fun run => text (printedOf letters run)

/-- Drops lines that are like the one before. -/
def uniqProgram : Program := fun i =>
  let table : OptionTable :=
    ⟨"cduiDz".toList.map (fun c => (c, .never)) ++ [('f', .always), ('s', .always), ('w', .always)],
      [("count", 'c', .never), ("repeated", 'd', .never), ("unique", 'u', .never),
        ("ignore-case", 'i', .never), ("all-repeated", 'D', .optional), ("group", 'G', .optional),
        ("zero-terminated", 'z', .never), ("skip-fields", 'f', .always),
        ("skip-chars", 's', .always), ("check-chars", 'w', .always)], false⟩
  let problem? (o : GivenOption) : Option Octets :=
    let number? (what : String) : Option Octets :=
      if (countIn? o.2).isSome then none
      else some (o.2 ++ ": invalid number of ".toList ++ what.toList)
    match o.1 with
    | 'f' => number? "fields to skip"
    | 's' => number? "bytes to skip"
    | 'w' => number? "bytes to compare"
    | 'D' => if o.2.isEmpty then none else repeatedMarks.problem? i.name o.2
    | 'G' => if o.2.isEmpty then none else allMarks.problem? i.name o.2
    | _ => none
  table.run "uniq" 1 problem? i fun given operands =>
    let given := given.map fun o =>
      if o.2.isEmpty then
        match o.1 with
        | 'D' => (o.1, "none".toList)
        | 'G' => (o.1, "separate".toList)
        | _ => o
      else o
    let letters := given.map Prod.fst
    let name := operands.headD ['-']
    let count (c : Char) : Option Nat := (givenValue? given c).bind countIn?
    let refuse (text : Octets) : Effect :=
      (i.start.fail i.name 1 text).complain (OptionTable.hint i.name)
    if let some extra := operands[2]? then
      refuse ("extra operand ".toList ++ QuotedName.ofArgument extra)
    else if 'G' ∈ letters && letters.any (· ∈ "cdDu".toList) then
      refuse "--group is mutually exclusive with -c/-d/-D/-u".toList
    else if 'D' ∈ letters && 'c' ∈ letters then
      refuse "printing all duplicated lines and repeat counts is meaningless".toList
    else
      match i.start.readAll name with
      | .error x =>
        if x = .isDirectory || x = .badDescriptor then
          i.start.fail i.name 1 ("error reading ".toList ++ QuotedName.always name ++ ": ".toList ++
            x.reason.toList)
        else i.start.fail i.name 1 (QuotedName.ifNeeded name ++ ": ".toList ++ x.reason.toList)
      | .ok (s, e) =>
        let part (line : Octets) : Octets :=
          let part := comparedPart ((count 'f').getD 0) ((count 's').getD 0) (count 'w') line
          if 'i' ∈ letters then part.map Char.toLower else part
        let newline := if 'z' ∈ letters then Char.ofNat 0 else '\n'
        let runs := (endedBy newline s).splitBy fun a b => part a == part b
        let text := printedRuns given newline runs
        match operands[1]? with
        | some path =>
          if path = ['-'] then e.print text
          else
            e.change i.name (QuotedName.ifNeeded path) fun files =>
              files.write (Octets.toText path) (Octets.toBytes text)
        | none => e.print text

/-! ## Lines and characters turned around -/

/-- The lines of a content with what ends them. -/
def wholeLines (s : Octets) : List Octets :=
  s.splitBy fun a _ => a ≠ '\n'

/-- What ends or begins the records of a text. -/
inductive RecordMark where
  | text (s : Octets)
  | pattern (r : Regex)

namespace RecordMark

/-- Where a separator stands in a text that begins with the given one, at an offset or before it:
the first and the last offset of the last one that ends there at the latest. -/
def lastWithin? (separator : RecordMark) (whole : Octets) (bound : Nat) : Nat → Option (Nat × Nat)
  | 0 => none
  | n + 1 =>
    match separator with
    | .text s =>
      if n + s.length ≤ bound && s.isPrefixOf (whole.drop n) then some (n, n + s.length)
      else lastWithin? separator whole bound n
    | .pattern r =>
      let seen := whole.take bound
      let behind := seen.drop n
      match r.matchAt? false seen ⟨if n = 0 then none else seen[n - 1]?, n, behind, []⟩ with
      | some p => some (n, p.offset)
      | none => lastWithin? separator whole bound n

/-- The separators in a text, the last first, that end before an offset; the first argument bounds
their number. -/
def placesFrom (separator : RecordMark) (whole : Octets) : Nat → Nat → List (Nat × Nat)
  | 0, _ => []
  | count + 1, bound =>
    match separator.lastWithin? whole bound bound with
    | some (first, last) => (first, last) :: placesFrom separator whole count first
    | none => []

/-- The records of a text, the last first, each with the separator behind it or, if it begins a
record, in front. -/
def records (separator : RecordMark) (begins : Bool) (s : Octets) : List Octets :=
  let places := separator.placesFrom s (s.length + 1) s.length
  let cuts := (places.map fun p => if begins then p.1 else p.2)
  let cuts := if !begins && cuts.head? == some s.length then cuts.drop 1 else cuts
  let (pieces, rest) := cuts.foldl (fun (pieces, rest) cut =>
    (pieces ++ [rest.drop cut], rest.take cut)) (([] : List Octets), s)
  pieces ++ [rest]

end RecordMark

/-- A pattern in which plus signs and question marks without a backslash tell how often something
stands, written so that those with one do. -/
def withSwappedMarks : Octets → Octets
  | '\\' :: c :: cs =>
    if c = '+' ∨ c = '?' then c :: withSwappedMarks cs else '\\' :: c :: withSwappedMarks cs
  | c :: cs =>
    if c = '+' ∨ c = '?' then '\\' :: c :: withSwappedMarks cs else c :: withSwappedMarks cs
  | [] => []

/-- Prints the lines of its inputs, the last one first. -/
def tacProgram : Program := fun i =>
  let table : OptionTable :=
    ⟨[('b', .never), ('r', .never), ('s', .always)],
      [("before", 'b', .never), ("regex", 'r', .never), ("separator", 's', .always)], false⟩
  table.run "tac" 1 (fun _ => none) i fun given operands =>
    let s := (givenValue? given 's').getD ['\n']
    let separator : Except Octets RecordMark :=
      if !isGiven given 'r' then .ok (.text (if s.isEmpty then [Char.ofNat 0] else s))
      else if s.isEmpty then .error "separator cannot be empty".toList
      else
        match Regex.ofText ⟨true, false, true⟩ (withSwappedMarks s) with
        | .ok r => .ok (.pattern r)
        | .error e => .error e.message.toList
    let parts (content : Octets) : List Octets :=
      match separator with
      | .ok (.text ['\n']) =>
        if isGiven given 'b' then (RecordMark.text ['\n']).records true content
        else (wholeLines content).reverse
      | .ok separator => separator.records (isGiven given 'b') content
      | .error _ => []
    match separator with
    | .error text => i.start.fail i.name 1 text
    | .ok _ =>
      let e := (inputNames operands).foldl (fun e name =>
        match e.readAll name with
        | .ok (s, e) => e.print (parts s).flatten
        | .error x =>
          if isOwnInput name then
            let reason := if x = .isDirectory then OsError.invalid.reason else x.reason
            e.fail i.name 1 ("'standard input': read error: ".toList ++ reason.toList)
          else if x = .isDirectory then
            e.fail i.name 1 (name ++ ": read error: Is a directory".toList)
          else e.fail i.name 1 ("failed to open ".toList ++ QuotedName.always name ++
            " for reading: ".toList ++ x.reason.toList)) i.start
      e.complaintsFirst

/-- Prints the lines of its inputs, each from its end to its beginning. -/
def revProgram : Program := fun i =>
  (OptionTable.ofLetters "" []).run "rev" 1 (fun _ => none) i fun _ operands =>
    let e := (inputNames operands).foldl (fun e name =>
      match e.readAll name with
      | .ok (s, e) =>
        e.print ((wholeLines s).flatMap fun line =>
          match line.reverse with
          | '\n' :: cs => cs ++ ['\n']
          | cs => cs)
      | .error x => e.fail i.name 1 ("cannot open ".toList ++ name ++ ": ".toList ++
          x.reason.toList)) i.start
    e.complaintsFirst

/-! ## Parts of lines -/

/-- A range of positions, the first being one; without an end it goes on to the last. -/
structure PositionRange where
  first : Nat
  last : Option Nat

namespace PositionRange

/-- Whether a position is in a range. -/
def contains (r : PositionRange) (n : Nat) : Bool :=
  r.first ≤ n && r.last.all (n ≤ ·)

end PositionRange

/-- The elements at the positions that are chosen. -/
def choose {α : Type} (chosen : Nat → Bool) (xs : List α) : List α :=
  (xs.zipIdx 1).filterMap fun (x, n) => if chosen n then some x else none

/-- Which parts of lines `cut` takes: those at some positions, or all others. -/
structure CutRequest where
  ranges : List PositionRange
  complement : Bool

namespace CutRequest

/-- A range that is read: the digits on the left of its hyphen if it has one, and the digits behind
that. -/
structure RangeInProgress where
  left : Option Octets
  digits : Octets

/-- The number that digits show; none if there are none. -/
def numberOf (digits : Octets) : Option Nat :=
  if digits.isEmpty then none else some (Numeral.digitsFrom 10 0 digits).1

/-- The range that is read to its end, or what is wrong with it. -/
def RangeInProgress.finished (isFields : Bool) (r : RangeInProgress) :
    Except String PositionRange :=
  match r.left, numberOf r.digits with
  | some [], none => .error "invalid range with no endpoint: -"
  | some left, none => .ok ⟨(numberOf left).getD 1, none⟩
  | some left, some last =>
    if last < (numberOf left).getD 1 then .error "invalid decreasing range"
    else .ok ⟨(numberOf left).getD 1, some last⟩
  | none, number =>
    if number.getD 0 = 0 then
      .error ((if isFields then "fields" else "byte/character positions") ++
        " are numbered from 1")
    else .ok ⟨number.getD 0, number⟩

/-- Reads ranges, of fields or of characters. -/
def readRanges (isFields : Bool) : RangeInProgress → Octets → Except Octets (List PositionRange)
  | r, [] => (r.finished isFields).mapError String.toList |>.map fun range => [range]
  | r, c :: cs =>
    if c = ',' || Numeral.isBlank c then do
      let range ← (r.finished isFields).mapError String.toList
      return range :: (← readRanges isFields ⟨none, []⟩ cs)
    else if c = '-' then
      if r.left.isSome then
        .error
          (if isFields then "invalid field range" else "invalid byte or character range").toList
      else if numberOf r.digits == some 0 then
        .error ((if isFields then "fields" else "byte/character positions") ++
          " are numbered from 1").toList
      else readRanges isFields ⟨some r.digits, []⟩ cs
    else if c.isDigit then
      let digits := r.digits ++ [c]
      if (Numeral.digitsFrom 10 0 digits).1 < Nat.pow 2 64 - 1 then
        readRanges isFields { r with digits := digits } cs
      else
        .error ((if isFields then "field number " else "byte/character offset ").toList ++
          QuotedName.ofArgument (digits ++ cs.takeWhile Char.isDigit) ++ " is too large".toList)
    else
      .error
        ((if isFields then "invalid field value " else "invalid byte/character position ").toList ++
          QuotedName.ofArgument (c :: cs))

/-- Reads a list of positions, of fields or of characters. -/
def ofText (isFields complement : Bool) (list : Octets) : Except Octets CutRequest :=
  (readRanges isFields ⟨none, []⟩ list).map fun ranges => ⟨ranges, complement⟩

/-- Whether a position is chosen. -/
def takes (r : CutRequest) (n : Nat) : Bool := (r.ranges.any (·.contains n)) != r.complement

end CutRequest

/-- Takes parts of the lines of its inputs. -/
def cutProgram : Program := fun i =>
  let table : OptionTable :=
    ⟨[('b', .always), ('c', .always), ('f', .always), ('d', .always), ('s', .never), ('n', .never),
      ('z', .never)],
      [("bytes", 'b', .always), ("characters", 'c', .always), ("fields", 'f', .always),
        ("delimiter", 'd', .always), ("only-delimited", 's', .never),
        ("output-delimiter", 'O', .always), ("complement", 'C', .never),
        ("zero-terminated", 'z', .never)], false⟩
  let problem? (o : GivenOption) : Option Octets :=
    if o.1 = 'd' && 1 < o.2.length then
      some (OptionTable.withHint i.name "the delimiter must be a single character".toList)
    else none
  let repeated? (args : List GivenOption) : Bool :=
    1 < (args.filter fun o => o.1 ∈ ['b', 'c', 'f']).length
  table.run "cut" 1 problem? i fun given operands =>
    let refuse (text : Octets) : Effect :=
      (i.start.fail i.name 1 text).complain (OptionTable.hint i.name)
    match given.find? fun o => o.1 ∈ ['b', 'c', 'f'] with
    | none => refuse "you must specify a list of bytes, characters, or fields".toList
    | some (kind, list) =>
      let isFields := kind == 'f'
      if repeated? given then refuse "only one list may be specified".toList
      else if !isFields && isGiven given 'd' then
        refuse "an input delimiter may be specified only when operating on fields".toList
      else if !isFields && isGiven given 's' then
        refuse ("suppressing non-delimited lines makes sense\n\tonly when operating on " ++
          "fields").toList
      else
        match CutRequest.ofText isFields (isGiven given 'C') list with
        | .error text => refuse text
        | .ok request =>
          let delimiter := ((givenValue? given 'd').map fun d => d.headD (Char.ofNat 0)).getD '\t'
          let newline := if isGiven given 'z' then Char.ofNat 0 else '\n'
          let joint := (givenValue? given 'O').getD (if isFields then [delimiter] else [])
          let cutLine (line : Octets) : Option Octets :=
            if !isFields then
              let runs := ((line.zipIdx 1).filter fun c => request.takes c.2).splitBy fun a b =>
                a.2 + 1 == b.2
              some (joint.intercalate (runs.map fun run => run.map Prod.fst))
            else
              match line.splitOn delimiter with
              | [_] => if isGiven given 's' then none else some line
              | fields => some (joint.intercalate (choose request.takes fields))
          i.start.eachInput i.name (inputNames operands) fun _ s e =>
            e.print (((endedBy newline s).filterMap cutLine).flatMap (· ++ [newline]))

end CallForest
