import CallForest.Program.Input

/-!
# Lines of several inputs together

`paste` puts lines of its inputs side by side, `comm` tells which lines two sorted inputs have in
common, and `join` joins the lines of two sorted inputs that have a field in common.
-/

namespace CallForest

namespace Joining

/-! ## Side by side -/

/-- The characters that a text lists to be put between lines; none stands for no character. -/
def delimiters (s : Octets) : Except Octets (List (Option Char)) :=
  match s with
  | [] => .ok []
  | ['\\'] => .error []
  | '\\' :: c :: cs =>
    let d : Option Char := match c with
      | '0' => none
      | 'b' => some (Char.ofNat 8)
      | 'f' => some (Char.ofNat 12)
      | 'n' => some '\n'
      | 'r' => some '\r'
      | 't' => some '\t'
      | 'v' => some (Char.ofNat 11)
      | c => some c
    (delimiters cs).map (d :: ·)
  | c :: cs => (delimiters cs).map (some c :: ·)

/-- Texts with delimiters between them, which are used again and again. -/
def withDelimiters (all : List (Option Char)) : List (Option Char) → List Octets → Octets
  | _, [] => []
  | _, [s] => s
  | [], s :: ss =>
    match all with
    | [] => s ++ withDelimiters all [] ss
    | d :: ds => s ++ d.toList ++ withDelimiters all ds ss
  | d :: ds, s :: ss => s ++ d.toList ++ withDelimiters all ds ss

/-- The lines that are left of an input. A program's own input is shared by all that name it. -/
inductive Source where
  | own
  | lines (ls : List Octets)

/-- Takes a line of each source: what was taken, the sources as they are then, and what is left of
the program's own input. -/
def takeRow : List Octets → List Source → List (Option Octets) × List Source × List Octets
  | own, [] => ([], [], own)
  | own, .own :: sources =>
    let (row, sources, left) := takeRow (own.drop 1) sources
    (own.head? :: row, .own :: sources, left)
  | own, .lines ls :: sources =>
    let (row, sources, left) := takeRow own sources
    (ls.head? :: row, .lines (ls.drop 1) :: sources, left)

/-- The rows of sources, up to the first that has no line. The first argument bounds their
number. -/
def rows : Nat → List Octets → List Source → List (List Octets)
  | 0, _, _ => []
  | count + 1, own, sources =>
    let (row, sources, own) := takeRow own sources
    if row.all Option.isNone then [] else row.map (·.getD []) :: rows count own sources

end Joining

/-- Puts lines of its inputs side by side, or the lines of each input one behind another. -/
def pasteProgram : Program := fun i =>
  let table : OptionTable :=
    ⟨[('d', .always), ('s', .never), ('z', .never)],
      [("delimiters", 'd', .always), ("serial", 's', .never), ("zero-terminated", 'z', .never)],
      false⟩
  table.run "paste" 1 (fun _ => none) i fun given operands =>
    let newline := if isGiven given 'z' then Char.ofNat 0 else '\n'
    let list := (givenValue? given 'd').getD ['\t']
    match Joining.delimiters list with
    | .error _ =>
      i.start.fail i.name 1
        ("delimiter list ends with an unescaped backslash: ".toList ++ QuotedName.ifNeeded list)
    | .ok ds =>
      let names := inputNames operands
      let refuse (e : Effect) (name : Octets) (x : OsError) : Effect :=
        e.fail i.name 1 (QuotedName.ifNeeded name ++ ": ".toList ++ x.reason.toList)
      if isGiven given 's' then
        names.foldl (fun e name =>
          match e.readAll name with
          | .ok (s, e) =>
            e.print (Joining.withDelimiters ds ds (endedBy newline s) ++ [newline])
          | .error x => refuse e name x) i.start
      else
        let read := names.foldl (fun (e, sources) name =>
          match sources with
          | none => (e, none)
          | some sources =>
            if name = ['-'] then (e, some (sources ++ [Joining.Source.own]))
            else
              match e.readAll name with
              | .ok (s, e) => (e, some (sources ++ [.lines (endedBy newline s)]))
              | .error x => (refuse e name x, none))
          (i.start, some [])
        match read with
        | (e, none) => e
        | (e, some sources) =>
          let (own, e) := if names.contains ['-'] then
            match e.readAll ['-'] with
            | .ok (s, e) => (endedBy newline s, e)
            | .error x => ([], refuse e ['-'] x)
          else ([], e)
          let size := sources.foldl (fun n s =>
            match s with
            | .own => n
            | .lines ls => max n ls.length) own.length
          (Joining.rows (size + 1) own sources).foldl (fun e row =>
            e.print (Joining.withDelimiters ds ds row ++ [newline])) e

namespace Joining

/-! ## Lines in common -/

/-- Whether one text comes before another, byte by byte, or behind it. -/
def compare : Octets → Octets → Ordering
  | [], [] => .eq
  | [], _ :: _ => .lt
  | _ :: _, [] => .gt
  | a :: s, b :: t => if a < b then .lt else if b < a then .gt else compare s t

/-- How the order of inputs is looked at. -/
inductive OrderCheck where
  | always
  | ifUnpaired
  | never
  deriving DecidableEq, Repr

/-- One of two inputs as it is gone through: the lines before, the latest first, and the lines that
are left. -/
structure Side where
  before : List Octets
  left : List Octets
  /-- Whether it has been said that the lines are out of order. -/
  told : Bool

/-- Whether two lines that follow each other in an input are out of order. -/
def Side.isDisordered (le : Octets → Octets → Bool) (s : Side) : Bool :=
  match s.left, s.before with
  | b :: _, a :: _ => !le a b
  | [], b :: a :: _ => !le a b
  | _, _ => false

/-- Goes on to the next line. -/
def Side.step (s : Side) : Side :=
  match s.left with
  | [] => s
  | l :: ls => { s with before := l :: s.before.take 1, left := ls }

/-- What is done with the lines of two inputs that only the first has, that only the second has, and
that both have. -/
structure Counts where
  first : Nat
  second : Nat
  both : Nat

/-- Looks at the order of an input, and complains of it. -/
def checkSide (i : Invocation) (check : OrderCheck) (unpaired : Bool)
    (le : Octets → Octets → Bool) (number : Nat) (s : Side) (e : Effect) : Side × Effect :=
  let looks := check = .always || (check = .ifUnpaired && unpaired)
  if looks && !s.told && s.isDisordered le then
    ({ s with told := true },
      { e.complain (i.name ++ ": file ".toList ++ Text.decimal number ++
        " is not in sorted order\n".toList) with
        code := if check = .always then 1 else e.code })
  else (s, e)

/-- Goes through two sorted inputs. The first argument bounds the number of steps. -/
def merge (i : Invocation) (check : OrderCheck) (print : Nat → Octets → Effect → Effect) :
    Nat → (unpaired : Bool) → Side → Side → Counts → Effect → Effect × Counts × Bool
  | 0, _, a, b, counts, e => (e, counts, a.told || b.told)
  | steps + 1, unpaired, a, b, counts, e =>
    let le (s t : Octets) : Bool := compare s t ≠ .gt
    let order : Option Ordering := match a.left, b.left with
      | [], [] => none
      | [], _ => some .gt
      | _, [] => some .lt
      | x :: _, y :: _ => some (compare x y)
    match order with
    | none => (e, counts, a.told || b.told)
    | some order =>
      let unpaired := unpaired || order ≠ .eq
      let (e, counts) := match order with
        | .eq => (print 3 (b.left.headD []) e, { counts with both := counts.both + 1 })
        | .lt => (print 1 (a.left.headD []) e, { counts with first := counts.first + 1 })
        | .gt => (print 2 (b.left.headD []) e, { counts with second := counts.second + 1 })
      let (a, e) := if order = .gt then (a, e) else checkSide i check unpaired le 1 a.step e
      let (b, e) := if order = .lt then (b, e) else checkSide i check unpaired le 2 b.step e
      if check = .always && (a.told || b.told) then (e, counts, true)
      else merge i check print steps unpaired a b counts e

/-- The two operands that a program has to be given. -/
def twoOperands (i : Invocation) (operands : List Octets) : Except Effect (Octets × Octets) :=
  let refuse (text : Octets) : Except Effect (Octets × Octets) :=
    .error ((i.start.fail i.name 1 text).complain (OptionTable.hint i.name))
  match operands with
  | [] => refuse "missing operand".toList
  | [a] => refuse ("missing operand after ".toList ++ QuotedName.ofArgument a)
  | [a, b] => .ok (a, b)
  | _ :: _ :: c :: _ => refuse ("extra operand ".toList ++ QuotedName.ofArgument c)

/-- The lines of two inputs. -/
def readTwo (i : Invocation) (newline : Char) (a b : Octets) (e : Effect) :
    Except Effect (List Octets × List Octets × Effect) :=
  let refuse (name : Octets) (x : OsError) : Effect :=
    e.fail i.name 1 (QuotedName.ifNeeded name ++ ": ".toList ++ x.reason.toList)
  match e.readAll a with
  | .error x => .error (refuse a x)
  | .ok (s, e) =>
    match e.readAll b with
    | .error x => .error (refuse b x)
    | .ok (t, e) => .ok (endedBy newline s, endedBy newline t, e)

end Joining

/-- Tells which lines two sorted inputs have in common. -/
def commProgram : Program := fun i =>
  let table : OptionTable :=
    ⟨"123z".toList.map fun c => (c, .never),
      [("check-order", 'c', .never), ("nocheck-order", 'n', .never),
        ("output-delimiter", 'o', .always), ("total", 't', .never),
        ("zero-terminated", 'z', .never)], false⟩
  table.run "comm" 1 (fun _ => none) i fun given operands =>
    match Joining.twoOperands i operands with
    | .error e => e
    | .ok (a, b) =>
      let newline := if isGiven given 'z' then Char.ofNat 0 else '\n'
      match Joining.readTwo i newline a b i.start with
      | .error e => e
      | .ok (as, bs, e) =>
        let delimiter := (givenValue? given 'o').getD ['\t']
        let shows (c : Char) : Bool := !isGiven given c
        let indent (column : Nat) : Octets :=
          (if 1 < column && shows '1' then delimiter else []) ++
            (if 2 < column && shows '2' then delimiter else [])
        let print (column : Nat) (line : Octets) (e : Effect) : Effect :=
          if shows (Char.ofNat (48 + column)) then e.print (indent column ++ line ++ [newline])
          else e
        let check : Joining.OrderCheck := if isGiven given 'c' then .always
          else if isGiven given 'n' then .never else .ifUnpaired
        let (e, counts, told) := Joining.merge i check print (as.length + bs.length + 1) false
          ⟨[], as, false⟩ ⟨[], bs, false⟩ ⟨0, 0, 0⟩ e
        let e := if isGiven given 't' && !(told && check = .always) then
          e.print (delimiter.intercalate [Text.decimal counts.first, Text.decimal counts.second,
            Text.decimal counts.both, "total".toList] ++ [newline]) else e
        if told && check = .ifUnpaired then
          e.fail i.name 1 "input is not in sorted order".toList
        else e

namespace Joining

/-! ## Fields in common -/

/-- A field of the output: the field in common, or one of a line of the first or second input. -/
inductive OutputField where
  | common
  | of (side field : Nat)

/-- How lines are joined. -/
structure JoinStyle where
  /-- The numbers of the fields to be compared, the first being zero. -/
  keys : Nat × Nat
  separator : Option Char
  ignoreCase : Bool
  empty : Option Octets
  /-- The fields to be printed; none for all of them. -/
  fields : Option (List OutputField)
  /-- Of which inputs lines are printed that have no partner. -/
  unpaired : List Nat
  paired : Bool

/-- A line as its fields. -/
def fieldsOf (separator : Option Char) (line : Octets) : List Octets :=
  match separator with
  | some c => if c = '\n' then [line] else line.splitOn c
  | none =>
    let isBlank (c : Char) : Bool := c == ' ' || c == '\t'
    (line.splitBy fun a b => isBlank a == isBlank b).filter fun f => !f.any isBlank

/-- The field that is compared. -/
def JoinStyle.key (j : JoinStyle) (side : Nat) (fields : List Octets) : Octets :=
  let s := fields.getD (if side = 1 then j.keys.1 else j.keys.2) []
  if j.ignoreCase then s.map Char.toLower else s

/-- The line that two lines make; one of them may be missing. -/
def JoinStyle.line (j : JoinStyle) (a b : Option (List Octets)) : Octets :=
  let filled (s : Octets) : Octets := if s.isEmpty then j.empty.getD [] else s
  let common := match a, b with
    | some a, _ => a.getD j.keys.1 []
    | none, some b => b.getD j.keys.2 []
    | none, none => []
  let others (key : Nat) (fields : Option (List Octets)) : List Octets :=
    ((fields.getD []).zipIdx.filter fun f => f.2 ≠ key).map Prod.fst
  let cells := match j.fields with
    | none => common :: others j.keys.1 a ++ others j.keys.2 b
    | some fields => fields.map fun f =>
      match (f : OutputField) with
      | .common => common
      | .of 1 n => (a.getD []).getD n []
      | .of _ n => (b.getD []).getD n []
  [j.separator.getD ' '].intercalate (cells.map filled)

/-- Lines at the beginning with that key, and the rest. -/
def sameKey (j : JoinStyle) (side : Nat) (key : Octets) (lines : List (List Octets)) :
    List (List Octets) × List (List Octets) :=
  let front := lines.takeWhile fun l => j.key side l == key
  (front, lines.drop front.length)

/-- Joins lines. The first argument bounds the number of steps. -/
def joined (j : JoinStyle) : Nat → List (List Octets) → List (List Octets) → List Octets
  | 0, _, _ => []
  | _ + 1, [], [] => []
  | _ + 1, as, [] => if j.unpaired.contains 1 then as.map fun a => j.line (some a) none else []
  | _ + 1, [], bs => if j.unpaired.contains 2 then bs.map fun b => j.line none (some b) else []
  | steps + 1, a :: as, b :: bs =>
    match compare (j.key 1 a) (j.key 2 b) with
    | .lt =>
      (if j.unpaired.contains 1 then [j.line (some a) none] else []) ++ joined j steps as (b :: bs)
    | .gt =>
      (if j.unpaired.contains 2 then [j.line none (some b)] else []) ++ joined j steps (a :: as) bs
    | .eq =>
      let (ones, as) := sameKey j 1 (j.key 1 a) (a :: as)
      let (twos, bs) := sameKey j 2 (j.key 1 a) (b :: bs)
      (if j.paired then
        ones.flatMap fun x => twos.map fun y => j.line (some x) (some y) else []) ++
        joined j steps as bs

/-- Whether a list of lines is out of order by its keys: the number of the first line that comes too
late, and the line. -/
def disorder? (j : JoinStyle) (side : Nat) : Nat → List Octets → Option (Nat × Octets)
  | n, a :: b :: rest =>
    let key (l : Octets) : Octets := j.key side (fieldsOf j.separator l)
    if compare (key a) (key b) = .gt then some (n + 1, b) else disorder? j side (n + 1) (b :: rest)
  | _, _ => none

/-- The fields that a list names. -/
def outputFields (s : Octets) : Except Octets (List OutputField) :=
  let pieces := (s.splitOnP fun c => c == ',' || c == ' ' || c == '\t').filter fun p => !p.isEmpty
  let wrong (what : String) (p : Octets) : Octets :=
    what.toList ++ ": ".toList ++ QuotedName.ofArgument p
  pieces.mapM fun p =>
    match p with
    | ['0'] => .ok OutputField.common
    | '0' :: _ => .error (wrong "invalid field specifier" p)
    | side :: rest =>
      if side ≠ '1' ∧ side ≠ '2' then .error (wrong "invalid file number in field spec" p)
      else if rest.head? ≠ some '.' then .error (wrong "invalid field specifier" p)
      else
        let digits := rest.drop 1
        let n := (Numeral.digitsFrom 10 0 digits).1
        if digits.isEmpty || !digits.all Char.isDigit || n = 0 then
          .error (wrong "invalid field number" digits)
        else .ok (OutputField.of (side.toNat - 48) (n - 1))
    | [] => .error (wrong "invalid field specifier" p)

/-- All fields of the first lines of two inputs, the one in common first. -/
def allFields (keys : Nat × Nat) (as bs : List (List Octets)) : List OutputField :=
  let others (side key : Nat) (lines : List (List Octets)) : List OutputField :=
    ((List.range ((lines.head?.getD []).length)).filter (· ≠ key)).map (OutputField.of side)
  .common :: others 1 keys.1 as ++ others 2 keys.2 bs

end Joining

/-- Joins the lines of two sorted inputs that have a field in common. -/
def joinProgram : Program := fun i =>
  let table : OptionTable :=
    ⟨("aejotv12".toList.map fun c => (c, .always)) ++ [('i', .never), ('z', .never)],
      [("ignore-case", 'i', .never), ("check-order", 'c', .never), ("nocheck-order", 'n', .never),
        ("header", 'H', .never), ("zero-terminated", 'z', .never)], false⟩
  let field? (s : Octets) : Option Nat :=
    if !s.isEmpty && s.all Char.isDigit && s.any (· ≠ '0') then
      some ((Numeral.digitsFrom 10 0 s).1 - 1)
    else none
  let problem? (o : GivenOption) : Option Octets :=
    if (o.1 ∈ ['j', '1', '2'] && (field? o.2).isNone) ||
        (o.1 ∈ ['a', 'v'] && o.2 ≠ ['1'] && o.2 ≠ ['2']) then
      some ("invalid field number: ".toList ++ QuotedName.ofArgument o.2)
    else if o.1 = 't' && 1 < o.2.length && o.2 ≠ ['\\', '0'] then
      some ("multi-character tab ".toList ++ QuotedName.ofArgument o.2)
    else none
  table.run "join" 1 problem? i fun given operands =>
    match Joining.twoOperands i operands with
    | .error e => e
    | .ok (a, b) =>
      let newline := if isGiven given 'z' then Char.ofNat 0 else '\n'
      let numbers (c : Char) : List Nat :=
        (given.filter fun o => o.1 = c).map fun o => (Numeral.digitsFrom 10 0 o.2).1
      let key (c : Char) : Nat :=
        ((given.reverse.find? fun o => o.1 = c || o.1 = 'j').bind fun o => field? o.2).getD 0
      let texts := (given.filter fun o => o.1 = 'o').map Prod.snd
      match (texts.filter (· ≠ "auto".toList)).mapM Joining.outputFields with
      | .error problem => i.start.fail i.name 1 problem
      | .ok lists =>
        match Joining.readTwo i newline a b i.start with
        | .error e => e
        | .ok (as, bs, e) =>
          let separator := (givenValue? given 't').map fun t =>
            match t with
            | [] => '\n'
            | ['\\', '0'] => Char.ofNat 0
            | c :: _ => c
          let split := List.map (Joining.fieldsOf separator)
          let j : Joining.JoinStyle :=
            { keys := (key '1', key '2')
              separator := separator
              ignoreCase := isGiven given 'i'
              empty := givenValue? given 'e'
              fields := if !lists.isEmpty then some lists.flatten
                else if texts.isEmpty then none
                else some (Joining.allFields (key '1', key '2') (split as) (split bs))
              unpaired := numbers 'a' ++ numbers 'v'
              paired := !isGiven given 'v' }
          let heads : List Octets :=
            if isGiven given 'H' && !(as.isEmpty && bs.isEmpty) then
              [j.line ((split as).head?) ((split bs).head?)] else []
          let skip (ls : List Octets) : List Octets := if isGiven given 'H' then ls.drop 1 else ls
          let lines := heads ++ Joining.joined j (as.length + bs.length + 1) (split (skip as))
            (split (skip bs))
          let e := e.print (lines.flatMap (· ++ [newline]))
          let hasUnpaired := (split (skip as)).any (fun x =>
            !(split (skip bs)).any fun y => j.key 1 x == j.key 2 y) ||
            (split (skip bs)).any fun y => !(split (skip as)).any fun x => j.key 1 x == j.key 2 y
          if isGiven given 'n' || !(hasUnpaired || isGiven given 'c') then e
          else
            let first := if isGiven given 'H' then 2 else 1
            let tell (e : Effect) (name : Octets) (found : Option (Nat × Octets)) : Effect :=
              match found with
              | none => e
              | some (n, line) =>
                (e.complain (i.name ++ ": ".toList ++ QuotedName.ifNeeded name ++
                  ':' :: Text.decimal n ++ ": is not sorted: ".toList ++ line ++ ['\n'])).withCode 1
            let one := Joining.disorder? j 1 first (skip as)
            let two := Joining.disorder? j 2 first (skip bs)
            let e := tell (tell e a one) b two
            if (one.isSome || two.isSome) && !isGiven given 'c' then
              e.fail i.name 1 "input is not in sorted order".toList
            else e

end CallForest
