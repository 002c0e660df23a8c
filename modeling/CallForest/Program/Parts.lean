import CallForest.Program.Input

/-!
# Parts of inputs

`head` copies the first lines or bytes of its inputs and `tail` the last ones. Both can count from
the other end: then `head` leaves out the last ones, and `tail` begins with the line or byte of that
number.
-/

namespace CallForest

/-- Which part of an input is meant. -/
structure Extent where
  bytes : Bool
  fromOtherEnd : Bool
  count : Nat
  /-- The byte that ends lines. -/
  newline : Char

namespace Extent

/-- Where so many lines end. -/
def offsetOfLines (newline : Char) (offset : Nat) : Nat → Octets → Nat
  | 0, _ => offset
  | _ + 1, [] => offset
  | n + 1, c :: cs => offsetOfLines newline (offset + 1) (if c = newline then n else n + 1) cs

/-- How many lines there are, one that has not ended counted too. -/
def lineCount (newline : Char) (s : Octets) : Nat :=
  s.count newline + (if s.getLast?.any (· ≠ newline) then 1 else 0)

/-- The size of the first `n` units. -/
def sizeOf (x : Extent) (n : Nat) (s : Octets) : Nat :=
  if x.bytes then min n s.length else offsetOfLines x.newline 0 n s

/-- How many units there are. -/
def units (x : Extent) (s : Octets) : Nat :=
  if x.bytes then s.length else lineCount x.newline s

/-- The size of the part at the front. -/
def frontSize (x : Extent) (s : Octets) : Nat :=
  if x.fromOtherEnd then x.sizeOf (x.units s - x.count) s else x.sizeOf x.count s

/-- The part at the end. -/
def tailOf (x : Extent) (s : Octets) : Octets :=
  if x.fromOtherEnd then s.drop (x.sizeOf (x.count - 1) s)
  else s.drop (x.sizeOf (x.units s - x.count) s)

/-- What is said of the units. -/
def what (bytes : Bool) : String :=
  if bytes then "invalid number of bytes" else "invalid number of lines"

end Extent

/-- Whether names are printed in front of the parts. -/
inductive Headings where
  | ifSeveral
  | never
  | always
  deriving DecidableEq, Repr

/-- What `head` or `tail` is to do. -/
structure PartRequest where
  extent : Extent
  headings : Headings

namespace PartRequest

/-- The first or last ten lines. -/
def default : PartRequest := ⟨⟨false, false, 10, '\n'⟩, .ifSeveral⟩

/-- The letters behind a number behind a hyphen. None, and the letter, if one of them means
nothing. -/
def withLetters (digits : Octets) (r : PartRequest) (factor : Octets) :
    Octets → Except Octets PartRequest
  | [] =>
    match size? (digits ++ factor) with
    | .ok n => .ok { r with extent := { r.extent with count := n } }
    | .error e => .error (e.message (Extent.what r.extent.bytes) (digits ++ factor))
  | c :: cs =>
    match c with
    | 'c' => withLetters digits { r with extent := { r.extent with bytes := true } } [] cs
    | 'b' | 'k' | 'm' =>
      withLetters digits { r with extent := { r.extent with bytes := true } } [c] cs
    | 'l' => withLetters digits { r with extent := { r.extent with bytes := false } } factor cs
    | 'q' => withLetters digits { r with headings := .never } factor cs
    | 'v' => withLetters digits { r with headings := .always } factor cs
    | 'z' =>
      withLetters digits { r with extent := { r.extent with newline := Char.ofNat 0 } } factor cs
    | c => .error ("invalid trailing option -- ".toList ++ [c])

/-- The number of units that the value of an option asks for; `mark` in front of it asks for the
count from the other end. -/
def countOf? (mark : Char) (value : Octets) : Except SizeError (Bool × Nat) :=
  match value with
  | c :: digits =>
    if c = mark then (size? digits).map fun n => (true, n)
    else if c = '-' then (size? digits).map fun n => (false, n)
    else (size? value).map fun n => (false, n)
  | [] => .error .malformed

/-- What is wrong with the value of an option. -/
def problem? (mark : Char) (o : GivenOption) : Option Octets :=
  if o.1 = 'n' ∨ o.1 = 'c' then
    match countOf? mark o.2 with
    | .ok _ => none
    | .error e =>
      let shown := if o.2.head? = some '-' then o.2.tail else o.2
      some (e.message (Extent.what (o.1 == 'c')) shown)
  else none

/-- Takes an option into account. -/
def withOption (mark : Char) (r : PartRequest) (o : GivenOption) : PartRequest :=
  match o.1 with
  | 'q' => { r with headings := .never }
  | 'v' => { r with headings := .always }
  | 'z' => { r with extent := { r.extent with newline := Char.ofNat 0 } }
  | c =>
    match countOf? mark o.2 with
    | .ok (other, n) =>
      if c = 'n' ∨ c = 'c' then
        { r with extent := { r.extent with bytes := c == 'c', fromOtherEnd := other, count := n } }
      else r
    | .error _ => r

end PartRequest

/-- The line of a name in front of a part. -/
def heading (isFirst : Bool) (name : Octets) : Octets :=
  let shown := if name = ['-'] then "standard input".toList else name
  (if isFirst then [] else ['\n']) ++ "==> ".toList ++ shown ++ " <==\n".toList

/-- Copies parts of inputs. `copy` copies the part of one that can be read; `reads` tells that
something has to be read for that, of a file that never ends so much as `size`, and `stops` that the
program ends when that fails. -/
def copyParts (program : Octets) (size : Nat) (headed reads stops : Bool)
    (copy : (isOwn : Bool) → Octets → Effect → Effect) : Bool → List Octets → Effect → Effect
  | _, [], e => e
  | isFirst, name :: names, e =>
    let announced (e : Effect) : Effect := if headed then e.print (heading isFirst name) else e
    if isOwnInput name then
      let e := announced e
      match if reads then e.inputProblem else none with
      | none => copyParts program size headed reads stops copy false names (copy true e.unread e)
      | some x =>
        let what := if stops && x = .badDescriptor then "cannot fstat " else "error reading "
        copyParts program size headed reads stops copy false names
          (e.fail program 1 (what.toList ++ "'standard input': ".toList ++ x.reason.toList))
    else
      match e.files.readFront size (Octets.toText name) with
      | .ok bs =>
        copyParts program size headed reads stops copy false names
          (copy false (Octets.ofBytes bs) (announced e))
      | .error .isDirectory =>
        let e := announced e
        if reads then
          let e := e.fail program 1
            ("error reading ".toList ++ QuotedName.always name ++ ": ".toList ++
              OsError.isDirectory.reason.toList)
          if stops then e else copyParts program size headed reads stops copy false names e
        else copyParts program size headed reads stops copy false names e
      | .error x =>
        copyParts program size headed reads stops copy isFirst names
          (e.fail program 1
            ("cannot open ".toList ++ QuotedName.always name ++ " for reading: ".toList ++
              x.reason.toList))

/-- Whether names are printed. -/
def PartRequest.headed (r : PartRequest) (names : List Octets) : Bool :=
  match r.headings with
  | .never => false
  | .always => true
  | .ifSeveral => 1 < names.length

/-- How much is read of an input at once. -/
def blockSize : Nat := 1024

/-- Whether the first part of an input is known without the rest. -/
def Extent.isWithin (x : Extent) (s : Octets) : Bool :=
  !x.fromOtherEnd && (if x.bytes then x.count ≤ s.length else x.count ≤ s.count x.newline)

/-- Copies the first part of an input. Of an input that is no file whole blocks are read. -/
def copyFront (x : Extent) (inputIsFile : Bool) (isOwn : Bool) (s : Octets) (e : Effect) : Effect :=
  let size := x.frontSize s
  let e := { e.print (s.take size) with early := isOwn && x.isWithin s }
  if !isOwn then e
  else if inputIsFile then { e with unread := s.drop size }
  else
    let block := if x.bytes && !x.fromOtherEnd then size
      else if x.fromOtherEnd then s.length
      else if size = 0 then 0
      else (size + blockSize - 1) / blockSize * blockSize
    { e with unread := s.drop block }

/-- The words of the options of `head` and `tail`. -/
def partWords : List (String × Char × ValueKind) :=
  [("bytes", 'c', .always), ("lines", 'n', .always), ("quiet", 'q', .never),
    ("silent", 'q', .never), ("verbose", 'v', .never), ("zero-terminated", 'z', .never)]

/-- The digits as letters of options. -/
def digitLetters : List (Char × ValueKind) :=
  "0123456789".toList.map fun c => (c, .never)

/-- Ends a program with what is said of a letter that means nothing. -/
def refuseLetters (i : Invocation) (problem : Octets) : Effect :=
  let e := i.start.fail i.name 1 problem
  if "invalid trailing".toList.isPrefixOf problem then e.complain (OptionTable.hint i.name) else e

/-- Copies the first parts of its inputs. -/
def headProgram : Program := fun i =>
  let table : OptionTable :=
    ⟨[('c', .always), ('n', .always), ('q', .never), ('v', .never), ('z', .never)] ++ digitLetters,
      partWords, false⟩
  let problem? (o : GivenOption) : Option Octets :=
    if o.1.isDigit then
      some (OptionTable.withHint i.name ("invalid trailing option -- ".toList ++ [o.1]))
    else PartRequest.problem? '-' o
  let run (i : Invocation) (r : PartRequest) : Effect :=
    table.run "head" 1 problem? i fun given operands =>
      let r := given.foldl (PartRequest.withOption '-') r
      let names := inputNames operands
      let reads := r.extent.fromOtherEnd || r.extent.count ≠ 0
      let size :=
        if r.extent.bytes then
          max FileSystem.deviceSize (min r.extent.count (8 * FileSystem.deviceSize))
        else FileSystem.deviceSize
      copyParts i.name size (r.headed names) reads false (copyFront r.extent i.inputIsFile) true
        names i.start
  match i.args with
  | ('-' :: c :: cs) :: args =>
    if c.isDigit then
      let digits := (c :: cs).takeWhile Char.isDigit
      match PartRequest.withLetters digits .default [] ((c :: cs).drop digits.length) with
      | .ok r => run { i with args := args } r
      | .error problem => refuseLetters i problem
    else run i .default
  | _ => run i .default

/-- Reads an argument that is a number with letters behind it, as `tail` takes it in front. -/
def tailNumber? (arg : Octets) : Option PartRequest :=
  match arg with
  | sign :: cs =>
    let digits := cs.takeWhile Char.isDigit
    let letters := cs.drop digits.length
    let unit := letters.takeWhile (· ∈ ['b', 'c', 'l'])
    if (sign = '-' ∨ sign = '+') ∧ (letters.drop unit.length).all (· == 'f') ∧ unit.length ≤ 1 ∧
        (sign = '+' ∨ !digits.isEmpty) then
      let n := if digits.isEmpty then 10 else (Numeral.digitsFrom 10 0 digits).1
      some ⟨⟨unit = ['b'] ∨ unit = ['c'], sign = '+', if unit = ['b'] then n * 512 else n, '\n'⟩,
        .ifSeveral⟩
    else none
  | [] => none

/-- Whether the arguments behind a number in front are such as `tail` takes there: at most one name,
perhaps behind two hyphens. -/
def mayFollowNumber : List Octets → Bool
  | [] => true
  | [['-', '-']] | [['-', '-'], _] => true
  | ['-' :: _ :: _] => false
  | [_] => true
  | _ => false

/-- Copies the last parts of its inputs. -/
def tailProgram : Program := fun i =>
  let table : OptionTable :=
    ⟨[('c', .always), ('n', .always), ('s', .always), ('f', .never), ('F', .never), ('q', .never),
      ('v', .never), ('z', .never)] ++ digitLetters,
      partWords ++ [("follow", 'f', .optional), ("retry", 'r', .never), ("pid", 'p', .always),
        ("sleep-interval", 's', .always)], false⟩
  let problem? (o : GivenOption) : Option Octets :=
    if o.1.isDigit then some ("option used in invalid context -- ".toList ++ [o.1])
    else PartRequest.problem? '+' o
  let run (i : Invocation) (r : PartRequest) (follows : Bool) : Effect :=
    table.run "tail" 1 problem? i fun given operands =>
      let r := given.foldl (PartRequest.withOption '+') r
      let names := inputNames operands
      let follows := follows || isGiven given 'f' || isGiven given 'F'
      let start :=
        if isGiven given 'r' && !follows then
          i.start.complain (i.name ++
            ": warning: --retry ignored; --retry is useful only when following\n".toList)
        else i.start
      let reads := r.extent.fromOtherEnd || r.extent.count ≠ 0
      if !reads && !follows then start
      else
        let e := copyParts i.name FileSystem.deviceSize (r.headed names) reads r.extent.bytes
          (fun isOwn s e =>
            let e := e.print (r.extent.tailOf s)
            if isOwn then { e with unread := [] } else e) true names start
        let readable := names.any fun n =>
          if isOwnInput n then i.inputIsFile else (i.files.read (Octets.toText n)).toOption.isSome
        if follows && (readable || isGiven given 'r' || isGiven given 'F') then
          { e with continuation := .waits }
        else e
  match i.args with
  | arg :: args =>
    match tailNumber? arg with
    | some r =>
      if mayFollowNumber args then run { i with args := args } r (arg.getLast? == some 'f')
      else run i .default false
    | none => run i .default false
  | [] => run i .default false

end CallForest
