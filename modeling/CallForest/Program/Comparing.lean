import CallForest.Program.Copying

/-!
# Comparing bytes

`cmp` tells where two inputs first differ, or lists all bytes in which they differ. Both inputs may
begin behind some bytes that do not count, and the comparison may end after so many.
-/

namespace CallForest

/-- How two inputs are compared: what is skipped of each, how many bytes count if that is limited,
and what is shown. -/
structure ByteComparison where
  skips : Nat × Nat
  limit : Option Nat
  listsAll : Bool
  isSilent : Bool
  showsBytes : Bool

namespace ByteComparison

/-- What is said of options in general. -/
def hint (name : Octets) : Octets := name ++ ": ".toList ++ OptionTable.hint name

/-- Ends with what is said of an operand or option. -/
def refuse (i : Invocation) (text : Octets) : Effect :=
  (i.start.fail i.name 2 text).complain (hint i.name)

/-- The number of bytes that a text tells. -/
def count? (s : Octets) : Option Nat :=
  match Numeral.magnitude? s with
  | some (n, factor) => (sizeFactor? factor).map (n * ·)
  | none => if s.isEmpty then none else sizeFactor? s

/-- The numbers of bytes to skip of both inputs that a text tells, or the part of it that tells
none. -/
def skips? (s : Octets) : Except Octets (Nat × Nat) :=
  let first := s.takeWhile (· ≠ ':')
  match count? first with
  | none => .error s
  | some m =>
    if first.length = s.length then .ok (m, m)
    else
      let second := s.drop (first.length + 1)
      match count? second with
      | some n => .ok (m, n)
      | none => .error second

/-- A byte in octal digits, in three columns. -/
def octal (c : Char) : Octets :=
  let digits := Numeral.inBase false 8 c.toNat
  let digits := if digits.isEmpty then ['0'] else digits
  List.replicate (3 - digits.length) ' ' ++ digits

/-- A byte as a character that can be seen. -/
def visible (c : Char) : Octets :=
  if c.toNat < 128 then CopyStyle.visible c.toNat
  else 'M' :: '-' :: CopyStyle.visible (c.toNat - 128)

/-- The places in which two texts differ, counted from one, with the bytes there. -/
def differences (place : Nat) : Octets → Octets → List (Nat × Char × Char)
  | c :: cs, d :: ds =>
    if c = d then differences (place + 1) cs ds
    else (place, c, d) :: differences (place + 1) cs ds
  | _, _ => []

/-- A line of the list of differences. -/
def listed (x : ByteComparison) (width : Nat) (d : Nat × Char × Char) : Octets :=
  let number := Text.decimal d.1
  let front := List.replicate (width - number.length) ' ' ++ number ++ ' ' :: octal d.2.1
  if x.showsBytes then
    let shown := visible d.2.1
    front ++ ' ' :: shown ++ List.replicate (4 - shown.length) ' ' ++ ' ' :: octal d.2.2 ++
      ' ' :: visible d.2.2 ++ ['\n']
  else front ++ ' ' :: octal d.2.2 ++ ['\n']

/-- What is said of the first difference. -/
def firstText (x : ByteComparison) (names : Octets × Octets) (common : Octets)
    (d : Nat × Char × Char) : Octets :=
  let unit := if x.showsBytes then "byte" else "char"
  let front := names.1 ++ ' ' :: names.2 ++ " differ: ".toList ++ unit.toList ++
    ' ' :: Text.decimal d.1 ++ ", line ".toList ++ Text.decimal (common.count '\n' + 1)
  if x.showsBytes then
    front ++ " is ".toList ++ octal d.2.1 ++ ' ' :: visible d.2.1 ++ ' ' :: octal d.2.2 ++
      ' ' :: visible d.2.2 ++ ['\n']
  else front ++ ['\n']

/-- What is said of an input that ends before the other; `shared` is what both have. -/
def endText (x : ByteComparison) (name shared : Octets) : Octets :=
  let front := "EOF on ".toList ++ name
  if shared.isEmpty then front ++ " which is empty".toList
  else
    let front := front ++ " after byte ".toList ++ Text.decimal shared.length
    let lines := shared.count '\n'
    if x.listsAll then front
    else if shared.getLast? = some '\n' then front ++ ", line ".toList ++ Text.decimal lines
    else front ++ ", in line ".toList ++ Text.decimal (lines + 1)

/-- Compares two texts; `width` is that of the numbers of bytes in a list. -/
def compare (x : ByteComparison) (program : Octets) (names : Octets × Octets) (width : Nat)
    (a b : Octets) (e : Effect) : Effect :=
  let found := differences 1 a b
  let shared := a.take (min a.length b.length)
  let short := if a.length < b.length then names.1 else names.2
  let ending (e : Effect) : Effect :=
    if a.length = b.length then e
    else if x.isSilent then e.withCode 1
    else e.fail program 1 (x.endText short shared)
  if x.listsAll then
    let e := e.print (found.flatMap (x.listed width))
    let e := ending (if found.isEmpty then e else e.withCode 1)
    e.complaintsFirst
  else
    match found with
    | [] => ending e
    | d :: _ =>
      let e := e.withCode 1
      if x.isSilent then e else e.print (x.firstText names (a.take (d.1 - 1)) d)

/-- The part of an input that counts. -/
def part (x : ByteComparison) (skip : Nat) (s : Octets) : Octets :=
  let s := s.drop skip
  match x.limit with
  | some n => s.take n
  | none => s

/-- Reads two inputs and compares them. An input is the same as itself. -/
def run (x : ByteComparison) (i : Invocation) (a b : Octets) : Effect :=
  let number? (name : Octets) : Option Nat :=
    if isOwnInput name then i.inputFile
    else (i.files.entry (Octets.toText name)).toOption.bind Entry.number?
  let isSame := a = b || ((number? a).isSome && number? a = number? b)
  let fails (name : Octets) (reason : OsError) : Effect :=
    if x.isSilent && reason ≠ .isDirectory then i.start.withCode 2
    else i.start.fail i.name 2 (name ++ ": ".toList ++ reason.reason.toList)
  match i.start.readAll a with
  | .error .isDirectory => if isSame then i.start else fails a .isDirectory
  | .error reason => fails a reason
  | .ok (first, e) =>
    if isSame && x.skips.1 = x.skips.2 then i.start
    else
      match e.readAll b with
      | .error reason => fails b reason
      | .ok (second, e) =>
        let isFile (name : Octets) : Bool := if isOwnInput name then i.inputIsFile else true
        let sizes :=
          (if isFile a then [first.length - x.skips.1] else []) ++
            (if isFile b then [second.length - x.skips.2] else []) ++ x.limit.toList
        let largest := match sizes with
          | [] => Numeral.largest.toNat
          | n :: ns => ns.foldl min n
        x.compare i.name (a, b) (Text.decimal largest).length (x.part x.skips.1 first)
          (x.part x.skips.2 second) e

end ByteComparison

/-- Tells where two inputs differ. -/
def cmpProgram : Program := fun i =>
  let table : OptionTable :=
    ⟨[('b', .never), ('c', .never), ('i', .always), ('l', .never), ('n', .always), ('s', .never),
        ('v', .never)],
      [("print-bytes", 'b', .never), ("print-chars", 'c', .never), ("ignore-initial", 'i', .always),
        ("verbose", 'l', .never), ("bytes", 'n', .always), ("silent", 's', .never),
        ("quiet", 's', .never)], false⟩
  let hint := ByteComparison.hint i.name
  let invalid (what : String) (value : Octets) : Octets :=
    "invalid --".toList ++ what.toList ++ " value ".toList ++ QuotedName.ofArgument value
  let problem? (o : GivenOption) : Option Octets :=
    match o.1 with
    | 'i' =>
      match ByteComparison.skips? o.2 with
      | .ok _ => none
      | .error value => some (invalid "ignore-initial" value ++ '\n' :: hint.dropLast)
    | 'n' =>
      if (ByteComparison.count? o.2).isSome then none
      else some (invalid "bytes" o.2 ++ '\n' :: hint.dropLast)
    | _ => none
  table.runHinting "cmp" 2 problem? hint i fun given operands =>
    let value? (letter : Char) : List Octets := (given.filter fun o => o.1 = letter).map Prod.snd
    let skips := (value? 'i').foldl (fun (n : Nat × Nat) v =>
      match ByteComparison.skips? v with
      | .ok m => (max m.1 n.1, max m.2 n.2)
      | .error _ => n) (0, 0)
    let limit := ((value? 'n').filterMap ByteComparison.count?).min?
    let (listsAll, isSilent) := (isGiven given 'l', isGiven given 's')
    let x (skips : Nat × Nat) : ByteComparison :=
      ⟨skips, limit, listsAll, isSilent, isGiven given 'b' || isGiven given 'c'⟩
    if listsAll && isSilent then
      ByteComparison.refuse i "options -l and -s are incompatible".toList
    else
      match operands with
      | [] => ByteComparison.refuse i ("missing operand after ".toList ++
          QuotedName.ofArgument (i.args.getLastD i.name))
      | [a] => (x skips).run i a ['-']
      | [a, b] => (x skips).run i a b
      | a :: b :: first :: others =>
        match ByteComparison.count? first, others.head?.map ByteComparison.count? with
        | none, _ => ByteComparison.refuse i (invalid "ignore-initial" first)
        | some _, some none =>
          ByteComparison.refuse i (invalid "ignore-initial" (others.headD []))
        | some m, none => (x (max skips.1 m, skips.2)).run i a b
        | some m, some (some n) =>
          match others.tail with
          | extra :: _ =>
            ByteComparison.refuse i ("extra operand ".toList ++ QuotedName.ofArgument extra)
          | [] => (x (max skips.1 m, max skips.2 n)).run i a b

end CallForest
