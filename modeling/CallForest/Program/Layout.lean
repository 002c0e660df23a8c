import CallForest.Program.Regex

/-!
# Layout of lines

`nl` puts numbers in front of lines, `fold` breaks lines that are too wide, and `expand` and
`unexpand` trade tabulators for blanks and back.
-/

namespace CallForest

namespace Layout

/-! ## Numbers in front of lines -/

/-- Which lines of a section get a number. -/
inductive Numbered where
  | all
  | filled
  | none
  | fitting (r : Regex)

/-- The parts of a page. -/
inductive Section where
  | header
  | body
  | footer
  deriving DecidableEq, Repr

/-- How lines are numbered. -/
structure Numbering where
  header : Numbered
  body : Numbered
  footer : Numbered
  start : Int
  step : Int
  width : Nat
  /-- What comes behind a number. -/
  separator : Octets
  /-- How a number fills its width: at the left, at the right, or with zeros. -/
  format : String
  /-- How many blank lines in a row count as one. -/
  joined : Nat
  /-- Whether the numbers begin anew in each section. -/
  restarts : Bool
  /-- The text of which the lines are made that separate sections. -/
  mark : Octets

/-- How far numbering has come. -/
structure NumberingPlace where
  part : Section
  next : Int
  blanks : Nat

/-- What can be wrong with the way of numbering that options ask for. -/
inductive NumberingError where
  /-- A word is not one of those that there are. -/
  | unknown (text : Octets)
  /-- A number or an expression is wrong. -/
  | malformed (text : Octets)

/-- What is said of it. -/
def NumberingError.message : NumberingError → Octets
  | .unknown text => text
  | .malformed text => text

/-- The way of numbering that a text names. -/
def numbered? (s : Octets) : Except NumberingError (Option Numbered) :=
  match s with
  | ['a'] => .ok (some .all)
  | ['t'] => .ok (some .filled)
  | ['n'] => .ok (some .none)
  | 'p' :: expression =>
    match Regex.ofText ⟨true, true, false⟩ expression with
    | .ok r => .ok (some (.fitting r))
    | .error problem => .error (.malformed problem.message.toList)
  | _ => .ok none

/-- The lines of a section that get a number. -/
def Numbering.of (n : Numbering) : Section → Numbered
  | .header => n.header
  | .body => n.body
  | .footer => n.footer

/-- The section that a line begins. -/
def Numbering.section? (n : Numbering) (line : Octets) : Option Section :=
  if n.mark.isEmpty then Option.none
  else if line = n.mark ++ n.mark ++ n.mark then some .header
  else if line = n.mark ++ n.mark then some .body
  else if line = n.mark then some .footer
  else Option.none

/-- A number in front of a line. -/
def Numbering.shown (n : Numbering) (value : Int) : Octets :=
  let digits := Text.decimal value.natAbs
  let sign : Octets := if value < 0 then ['-'] else []
  let missing := n.width - digits.length - sign.length
  (match n.format with
    | "ln" => sign ++ digits ++ List.replicate missing ' '
    | "rz" => sign ++ List.replicate missing '0' ++ digits
    | _ => List.replicate missing ' ' ++ sign ++ digits) ++ n.separator

/-- A line with what comes in front of it. -/
def Numbering.line (n : Numbering) (p : NumberingPlace) (line : Octets) : Octets × NumberingPlace :=
  let plain := List.replicate (n.width + n.separator.length) ' ' ++ line ++ ['\n']
  let counted (p : NumberingPlace) : Octets × NumberingPlace :=
    (n.shown p.next ++ line ++ ['\n'], { p with next := p.next + n.step })
  match n.section? line with
  | some part =>
    (['\n'], ⟨part, if n.restarts then n.start else p.next, p.blanks⟩)
  | Option.none =>
    match n.of p.part with
    | .none => (plain, p)
    | .filled => if line.isEmpty then (plain, p) else counted p
    | .fitting r => if (r.find? false line).isSome then counted p else (plain, p)
    | .all =>
      if n.joined ≤ 1 then counted p
      else if !line.isEmpty || p.blanks + 1 = n.joined then counted { p with blanks := 0 }
      else (plain, { p with blanks := p.blanks + 1 })

/-- The value of an option that has to be a number in bounds. -/
def numberOption (given : List GivenOption) (c : Char) (usual low high : Int) (what : String) :
    Except NumberingError Int :=
  match givenValue? given c with
  | Option.none => .ok usual
  | some s =>
    let wrong : Octets := ("invalid " ++ what ++ ": ").toList ++ QuotedName.ofArgument s
    match Numeral.decimal? s with
    | some n =>
      if low ≤ n ∧ n ≤ high then .ok n
      else .error (.malformed (wrong ++ Numeral.outOfBounds n))
    | Option.none => .error (.malformed wrong)

/-- How lines are numbered under options. -/
def Numbering.ofOptions (given : List GivenOption) : Except NumberingError Numbering := do
  let style (c : Char) (usual : Numbered) (what : String) : Except NumberingError Numbered :=
    match givenValue? given c with
    | Option.none => .ok usual
    | some s => do
      match ← numbered? s with
      | some style => .ok style
      | Option.none =>
        .error (.unknown
          (("invalid " ++ what ++ " numbering style: ").toList ++ QuotedName.ofArgument s))
  let body ← style 'b' .filled "body"
  let header ← style 'h' .none "header"
  let footer ← style 'f' .none "footer"
  let start ← numberOption given 'v' 1 (-Numeral.largest - 1) Numeral.largest
    "starting line number"
  let step ← numberOption given 'i' 1 (-Numeral.largest - 1) Numeral.largest
    "line number increment"
  let joined ← numberOption given 'l' 1 1 Numeral.largest "line number of blank lines"
  let width ← numberOption given 'w' 6 1 2147483647 "line number field width"
  let format := String.ofList ((givenValue? given 'n').getD "rn".toList)
  if ! ["ln", "rn", "rz"].contains format then
    throw (.unknown
      ("invalid line numbering format: ".toList ++ QuotedName.ofArgument format.toList))
  let mark := match givenValue? given 'd' with
    | some [c] => [c, ':']
    | some s => s
    | Option.none => ['\\', ':']
  return {
    header := header, body := body, footer := footer, start := start, step := step,
    width := width.toNat, separator := (givenValue? given 's').getD ['\t'], format := format,
    joined := joined.toNat, restarts := !isGiven given 'p', mark := mark }

end Layout

/-- Puts numbers in front of the lines of its inputs. -/
def nlProgram : Program := fun i =>
  let table : OptionTable :=
    ⟨("bdfhilnsvw".toList.map fun c => (c, .always)) ++ [('p', .never)],
      [("body-numbering", 'b', .always), ("section-delimiter", 'd', .always),
        ("footer-numbering", 'f', .always), ("header-numbering", 'h', .always),
        ("line-increment", 'i', .always), ("join-blank-lines", 'l', .always),
        ("number-format", 'n', .always), ("no-renumber", 'p', .never),
        ("number-separator", 's', .always), ("starting-line-number", 'v', .always),
        ("number-width", 'w', .always)], false⟩
  table.run "nl" 1 (fun _ => none) i fun given operands =>
    match Layout.Numbering.ofOptions given with
    | .error problem =>
      let e := i.start.fail i.name 1 problem.message
      if problem matches .unknown _ then e.complain (OptionTable.hint i.name) else e
    | .ok n =>
      let go (s : Octets) (state : Effect × Layout.NumberingPlace) :
          Effect × Layout.NumberingPlace :=
        (endedBy '\n' s).foldl (fun (e, p) line =>
          let (text, p) := n.line p line
          (e.print text, p)) state
      ((inputNames operands).foldl (fun (e, p) name =>
        match e.readAll name with
        | .ok (s, e) => go s (e, p)
        | .error x =>
          (e.fail i.name 1 (QuotedName.ifNeeded name ++ ": ".toList ++ x.reason.toList), p))
        (i.start, ⟨.body, n.start, 0⟩)).1

namespace Layout

/-! ## Breaking lines -/

/-- The column behind a character. -/
def columnBehind (bytes : Bool) (column : Nat) (c : Char) : Nat :=
  if bytes then column + 1
  else if c.toNat = 8 then column - 1
  else if c = '\r' then 0
  else if c = '\t' then column + (8 - column % 8)
  else column + 1

/-- A line, reversed, cut behind its last blank: the front, with the blank, and what is behind. -/
def atLastBlank? (line : Octets) : Option (Octets × Octets) :=
  let behind := line.takeWhile fun c => c ≠ ' ' && c ≠ '\t'
  if behind.length = line.length then none else some (line.drop behind.length, behind)

/-- Breaks lines that are wider than a width. `line` is the line in progress, reversed, and `done`
what is complete, reversed. The first argument bounds the number of steps. -/
def folded (bytes atBlanks : Bool) (width : Nat) : Nat → (column : Nat) → (line done : Octets) →
    Octets → Octets
  | 0, _, line, done, _ => (line ++ done).reverse
  | _ + 1, _, line, done, [] => (line ++ done).reverse
  | steps + 1, _, line, done, '\n' :: cs =>
    folded bytes atBlanks width steps 0 [] ('\n' :: line ++ done) cs
  | steps + 1, column, line, done, c :: cs =>
    let next := columnBehind bytes column c
    if next ≤ width then folded bytes atBlanks width steps next (c :: line) done cs
    else
      match if atBlanks then atLastBlank? line else none with
      | some (front, behind) =>
        let column := behind.reverse.foldl (columnBehind bytes) 0
        folded bytes atBlanks width steps column behind ('\n' :: front ++ done) (c :: cs)
      | none =>
        if line.isEmpty then folded bytes atBlanks width steps next [c] done cs
        else folded bytes atBlanks width steps 0 [] ('\n' :: line ++ done) (c :: cs)

end Layout

/-- Breaks the lines of its inputs that are too wide. -/
def foldProgram : Program := fun i =>
  let digits := "0123456789".toList.map fun c => (c, ValueKind.optional)
  let table : OptionTable :=
    ⟨[('b', .never), ('s', .never), ('w', .always)] ++ digits,
      [("bytes", 'b', .never), ("spaces", 's', .never), ("width", 'w', .always)], false⟩
  let widthOf (o : GivenOption) : Octets := if o.1.isDigit then o.1 :: o.2 else o.2
  let number? (s : Octets) : Option Nat :=
    if !s.isEmpty && s.all Char.isDigit then some (Numeral.digitsFrom 10 0 s).1 else none
  let width? (s : Octets) : Option Nat :=
    (number? s).filter fun n => 0 < n && n < Nat.pow 2 64 - 9
  let problem? (o : GivenOption) : Option Octets :=
    let s := widthOf o
    if (o.1 = 'w' || o.1.isDigit) && (width? s).isNone then
      some ("invalid number of columns: ".toList ++ QuotedName.ofArgument s ++
        ((number? s).map fun n => Numeral.outOfBounds n).getD [])
    else none
  table.run "fold" 1 problem? i fun given operands =>
    let width := ((given.reverse.find? fun o => o.1 = 'w' || o.1.isDigit).bind fun o =>
      width? (widthOf o)).getD 80
    i.start.eachInput i.name (inputNames operands) fun _ s e =>
      e.print (Layout.folded (isGiven given 'b') (isGiven given 's') width (3 * s.length + 3) 0 []
        [] s)

namespace Layout

/-! ## Tabulators -/

/-- Where tabulators stop: at the multiples of a width, or in a list of columns. -/
inductive TabStops where
  | every (width : Nat)
  | listed (columns : List Nat)

/-- The column of the next stop behind a column. None behind the last one. -/
def TabStops.next? (t : TabStops) (column : Nat) : Option Nat :=
  match t with
  | .every width => some (column + (width - column % width))
  | .listed columns => columns.find? (column < ·)

/-- The stops that a text lists. -/
def TabStops.ofText (s : Octets) : Except Octets TabStops :=
  let pieces := (s.splitBy fun a b =>
    (a == ',' || Numeral.isBlank a) == (b == ',' || Numeral.isBlank b)).filter fun p =>
      !p.any fun c => c == ',' || Numeral.isBlank c
  match pieces.find? fun p => !p.all Char.isDigit with
  | some bad =>
    let from' := bad.dropWhile Char.isDigit
    .error ("tab size contains invalid character(s): ".toList ++ QuotedName.ofArgument from')
  | none =>
    let columns := pieces.map fun p => (Numeral.digitsFrom 10 0 p).1
    let rec rises : List Nat → Bool
      | a :: b :: rest => a < b && rises (b :: rest)
      | _ => true
    if columns.contains 0 then .error "tab size cannot be 0".toList
    else if !rises columns then .error "tab sizes must be ascending".toList
    else
      match columns with
      | [] => .ok (.every 8)
      | [n] => .ok (.every n)
      | columns => .ok (.listed columns)

/-- Puts blanks for tabulators; `converts` tells that this is still to be done on the line. -/
def expanded (stops : TabStops) (initial : Bool) : (column : Nat) → (converts : Bool) → Octets →
    Octets
  | _, _, [] => []
  | _, _, '\n' :: cs => '\n' :: expanded stops initial 0 true cs
  | column, converts, c :: cs =>
    if !converts then c :: expanded stops initial column false cs
    else if c = '\t' then
      let next := (stops.next? column).getD (column + 1)
      List.replicate (next - column) ' ' ++ expanded stops initial next true cs
    else
      let column := if c.toNat = 8 then column - 1 else column + 1
      c :: expanded stops initial column (!initial || c == ' ') cs

/-- How far a line has come whose blanks give way to tabulators. -/
structure BlankPlace where
  converts : Bool
  column : Nat
  /-- The blanks that are held back, reversed. -/
  pending : Octets
  behindBlank : Bool
  /-- Whether the first of those stands just in front of a stop. -/
  beforeStop : Bool

/-- The beginning of a line. -/
def BlankPlace.start : BlankPlace := ⟨true, 0, [], true, false⟩

/-- What is held back, to be printed. -/
def BlankPlace.held (p : BlankPlace) : Octets :=
  let blanks := p.pending.reverse
  if 1 < blanks.length && p.beforeStop then '\t' :: blanks.drop 1 else blanks

/-- Puts a character behind what is held back. -/
def BlankPlace.put (p : BlankPlace) (wholeLine isBlank : Bool) : BlankPlace :=
  { p with
    pending := []
    beforeStop := if p.pending.isEmpty then p.beforeStop else false
    behindBlank := isBlank
    converts := p.converts && (wholeLine || isBlank) }

/-- Puts tabulators for blanks. -/
def unexpanded (stops : TabStops) (wholeLine : Bool) : BlankPlace → Octets → Octets
  | p, [] => p.held
  | p, '\n' :: cs => p.held ++ '\n' :: unexpanded stops wholeLine .start cs
  | p, c :: cs =>
    if !p.converts then c :: unexpanded stops wholeLine p cs
    else if c = ' ' ∨ c = '\t' then
      match stops.next? p.column with
      | none =>
        p.held ++ c :: unexpanded stops wholeLine
          { (p.put wholeLine true) with converts := false } cs
      | some next =>
        if c = '\t' then
          let kept : Octets := if p.beforeStop then ['\t'] else []
          kept ++ '\t' :: unexpanded stops wholeLine
            ({ p with column := next, pending := [' '] }.put wholeLine true) cs
        else
          let column := p.column + 1
          if p.behindBlank && column = next then
            let kept : Octets := if p.beforeStop then ['\t'] else []
            kept ++ '\t' :: unexpanded stops wholeLine
              ({ p with column := column, pending := [' '] }.put wholeLine true) cs
          else
            unexpanded stops wholeLine
              { p with
                column := column
                pending := c :: p.pending
                behindBlank := true
                beforeStop := p.beforeStop || column = next } cs
    else
      let column := if c.toNat = 8 then p.column - 1 else p.column + 1
      p.held ++ c :: unexpanded stops wholeLine
        ({ p with column := column }.put wholeLine false) cs

/-- The stops that options ask for; digits as letters stand for a list too. -/
def stopsOf (given : List GivenOption) : Except Octets TabStops :=
  let texts := given.filterMap fun o =>
    if o.1 = 't' then some o.2 else if o.1.isDigit then some (o.1 :: o.2) else none
  TabStops.ofText ([','].intercalate texts)

/-- The options of `expand` and `unexpand`. -/
def tabTable (letters : List (Char × ValueKind)) (words : List (String × Char × ValueKind)) :
    OptionTable :=
  ⟨letters ++ ('t', .always) :: "0123456789".toList.map fun c => (c, .optional),
    ("tabs", 't', .always) :: words, false⟩

end Layout

/-- Puts blanks for the tabulators of its inputs. -/
def expandProgram : Program := fun i =>
  let table := Layout.tabTable [('i', .never)] [("initial", 'i', .never)]
  table.run "expand" 1 (fun _ => none) i fun given operands =>
    match Layout.stopsOf given with
    | .error problem => i.start.fail i.name 1 problem
    | .ok stops =>
      i.start.eachInput i.name (inputNames operands) fun _ s e =>
        e.print (Layout.expanded stops (isGiven given 'i') 0 true s)

/-- Puts tabulators for blanks of its inputs. -/
def unexpandProgram : Program := fun i =>
  let table := Layout.tabTable [('a', .never)] [("all", 'a', .never), ("first-only", 'F', .never)]
  table.run "unexpand" 1 (fun _ => none) i fun given operands =>
    match Layout.stopsOf given with
    | .error problem => i.start.fail i.name 1 problem
    | .ok stops =>
      let wholeLine := (isGiven given 'a' || given.any fun o => o.1 = 't' || o.1.isDigit) &&
        !isGiven given 'F'
      i.start.eachInput i.name (inputNames operands) fun _ s e =>
        e.print (Layout.unexpanded stops wholeLine .start s)

end CallForest
