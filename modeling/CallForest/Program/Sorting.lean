import CallForest.Program.Input
import CallForest.Program.SortKey

/-!
# Sorting

`sort` puts the lines of its inputs in order: by their keys, one after another, and last by all of
their bytes. It can also merge inputs that are in order, or find out whether one is.
-/

namespace CallForest

namespace Sorting

/-- How lines are put in order. -/
structure Order where
  keys : List SortKey
  separator : Option Char
  /-- Whether lines whose keys are alike count as alike. -/
  keysDecide : Bool
  reversed : Bool

/-- A line with what is compared of it. -/
structure Keyed where
  line : Octets
  values : List SortKey.Value

/-- A line with what is compared of it. -/
def Order.keyed (o : Order) (line : Octets) : Keyed :=
  ⟨line, o.keys.map fun k => k.manner.value (k.part o.separator line)⟩

/-- Compares lines by their keys. -/
def compareKeys : List SortKey → List SortKey.Value → List SortKey.Value → Ordering
  | k :: ks, v :: vs, w :: ws =>
    match v.compare w with
    | .eq => compareKeys ks vs ws
    | d => if k.manner.has 'r' then d.swap else d
  | _, _, _ => .eq

/-- Compares lines. -/
def Order.compare (o : Order) (a b : Keyed) : Ordering :=
  match compareKeys o.keys a.values b.values with
  | .eq =>
    if o.keysDecide && !o.keys.isEmpty then .eq
    else
      let d := compareOctets a.line b.line
      if o.reversed then d.swap else d
  | d => d

/-- Whether a line may stand in front of another. -/
def Order.le (o : Order) (a b : Keyed) : Bool := o.compare a b != .gt

/-- Lines without those that are like the one before. -/
def withoutRepeats (same : Keyed → Keyed → Bool) : List Keyed → List Keyed
  | a :: b :: rest =>
    if same a b then withoutRepeats same (a :: rest) else a :: withoutRepeats same (b :: rest)
  | lines => lines

/-- The first of several rows whose first line may stand in front of all others, with what is left
of the rows. -/
def leastOf (le : Keyed → Keyed → Bool) : List (List Keyed) → Option (Keyed × List (List Keyed))
  | [] => none
  | [] :: rows => leastOf le rows
  | (a :: as) :: rows =>
    match leastOf le rows with
    | none => some (a, [as])
    | some (b, others) =>
      if le a b then some (a, as :: rows) else some (b, (a :: as) :: others)

/-- Merges rows. The first argument bounds the number of lines. -/
def mergeRows (le : Keyed → Keyed → Bool) : Nat → List (List Keyed) → List Keyed
  | 0, _ => []
  | count + 1, rows =>
    match leastOf le rows with
    | none => []
    | some (a, rows) => a :: mergeRows le count rows

/-- The first line that should stand before the one in front of it, with its number. -/
def firstDisorder? (isOrdered : Keyed → Keyed → Bool) (lines : List Keyed) :
    Option (Nat × Octets) :=
  ((lines.zip lines.tail).zipIdx 2).findSome? fun ((a, b), n) =>
    if isOrdered a b then none else some (n, b.line)

/-- Arguments with keys in the place of old ones such as `+1 -2`. `start` is the position of a key
that has begun. -/
def modernized (start : Option Octets) : List Octets → List Octets
  | [] => keyFrom start
  | arg :: args =>
    match start, stop? arg with
    | some first, some last => ['-', 'k'] :: (first ++ ',' :: last) :: modernized none args
    | _, _ =>
      if arg = ['-', '-'] then keyFrom start ++ arg :: args
      else
        match start? arg with
        | some first => keyFrom start ++ modernized (some first) args
        | none => keyFrom start ++ arg :: modernized none args
where
  /-- The arguments for a key from a position to the end of the line. -/
  keyFrom (start : Option Octets) : List Octets :=
    match start with
    | some first => [['-', 'k'], first]
    | none => []
  /-- The position that an old argument says a key begins at. -/
  start? (arg : Octets) : Option Octets :=
    match arg with
    | '+' :: c :: cs => position? true (c :: cs)
    | _ => none
  /-- The position that an old argument says a key ends at. -/
  stop? (arg : Octets) : Option Octets :=
    match arg with
    | '-' :: c :: cs => if c.isDigit then position? false (c :: cs) else none
    | _ => none
  /-- A position that counts from zero as one that counts from one. -/
  position? (isStart : Bool) (s : Octets) : Option Octets :=
    let digits := s.takeWhile Char.isDigit
    let rest := s.drop digits.length
    let (places, rest) : Octets × Octets := match rest with
      | '.' :: cs => (cs.takeWhile Char.isDigit, cs.dropWhile Char.isDigit)
      | cs => ([], cs)
    let n := (Numeral.digitsFrom 10 0 digits).1
    let m := (Numeral.digitsFrom 10 0 places).1
    if digits.isEmpty || !rest.all "bdfghiMnRrV".toList.contains then none
    else if isStart then
      some (Text.decimal (n + 1) ++ '.' :: Text.decimal (m + 1) ++ rest)
    else if m = 0 then some (Text.decimal n ++ rest)
    else some (Text.decimal (n + 1) ++ '.' :: Text.decimal m ++ rest)

/-- The letter that a name of an order stands for. -/
def orderNamed? (name : Octets) : Option Char :=
  let names := [("general-numeric", 'g'), ("human-numeric", 'h'), ("month", 'M'), ("numeric", 'n'),
    ("random", 'R'), ("version", 'V')]
  (names.find? fun n => name.isPrefixOf n.1.toList).map Prod.snd

/-- The separator that an argument means. -/
def separatorOf (s : Octets) : Option Char :=
  if s = ['\\', '0'] then some (Char.ofNat 0) else s.head?

/-- What is wrong with the value of an option. -/
def problem? (o : GivenOption) : Option Octets :=
  match o with
  | ('k', key) =>
    match SortKey.ofText key with
    | .error problem => some problem
    | .ok _ => none
  | ('t', []) => some "empty tab".toList
  | ('t', separator) =>
    if 1 < separator.length && separator ≠ ['\\', '0'] then
      some ("multi-character tab ".toList ++ QuotedName.ofArgument separator)
    else none
  | ('O', name) =>
    if (orderNamed? name).isSome then none
    else some ("invalid argument ".toList ++ QuotedName.ofArgument name ++ " for ".toList ++
      QuotedName.ofArgument "--sort".toList)
  | _ => none

/-- The options of the program. -/
def table : OptionTable :=
  ⟨("bcCdfghiMmnRrsuVz".toList.map fun c => (c, .never)) ++
    [('k', .always), ('o', .always), ('t', .always), ('S', .always), ('T', .always)],
    [("ignore-leading-blanks", 'b', .never), ("batch-size", 'T', .always),
      ("check", 'K', .optional), ("compress-program", 'T', .always), ("debug", 'D', .never),
      ("dictionary-order", 'd', .never), ("ignore-case", 'f', .never), ("key", 'k', .always),
      ("files0-from", 'F', .always), ("general-numeric-sort", 'g', .never),
      ("human-numeric-sort", 'h', .never), ("ignore-nonprinting", 'i', .never),
      ("merge", 'm', .never), ("month-sort", 'M', .never), ("numeric-sort", 'n', .never),
      ("output", 'o', .always), ("random-sort", 'R', .never), ("random-source", 'T', .always),
      ("reverse", 'r', .never), ("sort", 'O', .always), ("stable", 's', .never),
      ("buffer-size", 'S', .always), ("field-separator", 't', .always),
      ("temporary-directory", 'T', .always), ("unique", 'u', .never),
      ("version-sort", 'V', .never), ("zero-terminated", 'z', .never),
      ("parallel", 'T', .always)], false⟩

/-- The order that options ask for, or what contradicts itself in them. -/
def orderOf (given : List GivenOption) : Except Octets Order :=
  let letters := given.filterMap fun o =>
    if o.1 = 'O' then orderNamed? o.2 else some o.1
  let common := letters.foldl (fun (m : SortKey.Manner) c => (m.set? true true c).getD m) .plain
  let keys := given.filterMap fun o =>
    if o.1 = 'k' then (SortKey.ofText o.2).toOption else none
  let keys :=
    if keys.isEmpty then (if common.isPlain then [] else [SortKey.whole common])
    else
      keys.map fun k =>
        if k.manner.isPlain && !k.manner.has 'r' then { k with manner := common } else k
  match keys.findSome? fun k => k.manner.contradiction? with
  | some letters => .error letters
  | none =>
    .ok
      { keys := keys
        separator := (givenValue? given 't').bind separatorOf
        keysDecide := letters.contains 'u' || letters.contains 's'
        reversed := common.has 'r' }

/-- What is said of options that contradict each other. -/
def contradiction (letters : Octets) : Octets :=
  "options '-".toList ++ letters ++ "' are incompatible".toList

/-- Reads all inputs as rows of lines, up to the first that cannot be read. -/
def readRows (i : Invocation) (newline : Char) :
    List Octets → Effect → Except Effect (List (List Octets) × Effect)
  | [], e => .ok ([], e)
  | name :: names, e =>
    match e.readAll name with
    | .ok (s, e) => (readRows i newline names e).map fun (rows, e) => (endedBy newline s :: rows, e)
    | .error x =>
      let what := if x = .badDescriptor then "stat failed: " else "read failed: "
      .error (e.fail i.name 2 (what.toList ++ QuotedName.ifNeeded name ++ ": ".toList ++
        x.reason.toList))

/-- Finds out whether lines are in order. -/
def check (i : Invocation) (o : Order) (strict quiet : Bool) (name : Octets) (lines : List Keyed)
    (e : Effect) : Effect :=
  let isOrdered (a b : Keyed) : Bool := if strict then o.compare a b == .lt else o.le a b
  match firstDisorder? isOrdered lines with
  | none => e
  | some (n, line) =>
    if quiet then e.withCode 1
    else
      e.fail i.name 1
        (QuotedName.ifNeeded name ++ ':' :: Text.decimal n ++ ": disorder: ".toList ++ line)

/-- Puts the lines of inputs in order, or checks that they are. -/
def body (i : Invocation) (given : List GivenOption) (names : List Octets) (o : Order) : Effect :=
  let has (c : Char) : Bool := isGiven given c
  let newline := if has 'z' then Char.ofNat 0 else '\n'
  match readRows i newline names i.start with
  | .error e => e
  | .ok (rows, e) =>
    let rows := rows.map fun row => row.map o.keyed
    if has 'c' || has 'C' then
      check i o (has 'u') (has 'C') (names.headD []) rows.flatten e
    else
      let all := rows.flatten
      let sorted := if has 'm' then mergeRows o.le all.length rows else all.mergeSort o.le
      let sorted := if has 'u' then withoutRepeats (fun a b => o.compare a b == .eq) sorted
        else sorted
      let output := sorted.flatMap fun k => k.line ++ [newline]
      match givenValue? given 'o' with
      | some path =>
        match e.files.write (Octets.toText path) (Octets.toBytes output) with
        | (files, .ok ()) => { e with files := files }
        | (_, .error x) =>
          e.fail i.name 2 ("open failed: ".toList ++ QuotedName.ifNeeded path ++ ": ".toList ++
            x.reason.toList)
      | none => e.print output

end Sorting

open Sorting in
/-- Puts the lines of its inputs in order. -/
def sortProgram : Program := fun i =>
  table.run "sort" 2 problem? { i with args := modernized none i.args } fun given operands =>
    let given := given.map fun o =>
      if o.1 ≠ 'K' then o
      else if ['q'].isPrefixOf o.2 || ['s'].isPrefixOf o.2 then ('C', []) else ('c', [])
    let listed? : Except OsError (List Octets) := match givenValue? given 'F' with
      | some path =>
        (i.files.read (Octets.toText path)).map fun bytes =>
          endedBy (Char.ofNat 0) (Octets.ofBytes bytes)
      | none => .ok operands
    match listed? with
    | .error x =>
      i.start.fail i.name 2 ("open failed: ".toList ++
        QuotedName.ifNeeded ((givenValue? given 'F').getD []) ++ ": ".toList ++ x.reason.toList)
    | .ok operands =>
      let names := inputNames operands
      let checks := ['c', 'C'].filter (isGiven given)
      let missing := names.find? fun n =>
        !isOwnInput n && !i.files.exists? (Octets.toText n)
      match checks, operands with
      | [_, _], _ => i.start.fail i.name 2 (contradiction ['c', 'C'])
      | [c], _ :: extra :: _ =>
        i.start.fail i.name 2 ("extra operand ".toList ++ QuotedName.ofArgument extra ++
          " not allowed with -".toList ++ [c])
      | [c], _ =>
        if isGiven given 'o' then i.start.fail i.name 2 (contradiction [c, 'o'])
        else run i given names missing
      | _, _ => run i given names missing
where
  /-- Does what is asked for, if all inputs are there. -/
  run (i : Invocation) (given : List GivenOption) (names : List Octets)
      (missing : Option Octets) : Effect :=
    match orderOf given, missing with
    | .error letters, _ => i.start.fail i.name 2 (contradiction letters)
    | .ok _, some n =>
      i.start.fail i.name 2 ("cannot read: ".toList ++ QuotedName.ifNeeded n ++
        ": No such file or directory".toList)
    | .ok o, none => body i given names o

end CallForest
