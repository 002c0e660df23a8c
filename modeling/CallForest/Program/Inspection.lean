import CallForest.Program.Calendar
import CallForest.Program.Permissions
import CallForest.Text.VersionOrder

/-!
# Listing files

`ls` lists files and directories: names alone, one to a line or in columns, or what else there is to
say of them. The entries of a directory are in the order of their names unless another is asked for.
-/

namespace CallForest

/-- The letter in front of permissions that tells what an entry is. -/
def Entry.letter : Entry → Char
  | .file _ | .program _ => '-'
  | .device _ => 'c'
  | .link _ => 'l'
  | .directory _ _ => 'd'

/-- The blocks of 1024 bytes that an entry takes up. -/
def FileSystem.blocksOf (fs : FileSystem) (e : Entry) : Nat :=
  match e with
  | .file _ | .program _ => (fs.sizeOf e + 4095) / 4096 * 4
  | .directory _ _ => 4
  | .device _ | .link _ => 0

/-- A size as people read it: with one decimal if that is below ten, and a letter. -/
def humanSize (base : Nat) (n : Nat) : Octets :=
  let letters := if base = 1000 then "kMGTPE".toList else "KMGTPE".toList
  let rec scaled : List Char → Nat → Octets
    | [], unit => Text.decimal (n / unit)
    | letter :: more, unit =>
      if n < base * unit || more.isEmpty then
        let tenths := (n * 10 + unit - 1) / unit
        if tenths < 100 then
          Text.decimal (tenths / 10) ++ '.' :: Text.decimal (tenths % 10) ++ [letter]
        else
          let whole := (n + unit - 1) / unit
          if whole < base || more.isEmpty then Text.decimal whole ++ [letter]
          else scaled more (unit * base)
      else scaled more (unit * base)
  if n < base then Text.decimal n else scaled letters base

namespace FileListing

/-- A thing that is listed: its name, what is listed, where a link leads to, and what it is. -/
structure Item where
  name : Octets
  entry : Entry
  /-- Where a link leads to, and what is there. -/
  goal : Option (Octets × Option Entry)

/-- How things are listed. -/
structure Style where
  files : FileSystem
  given : List GivenOption

/-- Whether an option is given. -/
def Style.has (s : Style) (c : Char) : Bool := isGiven s.given c

/-- How names are laid out: in lines, in columns, across, with commas, or with all that is known. -/
def Style.layout (s : Style) : Char :=
  let given := s.given.filterMap fun o =>
    if o.1 ∈ ['1', 'C', 'x', 'm', 'l'] then some o.1
    else if o.1 ∈ ['g', 'n', 'o'] then some 'l'
    else none
  let isLong := given.contains 'l'
  match given.getLast? with
  | some '1' => if isLong then 'l' else '1'
  | some c => c
  | none => '1'

/-- Whether all is told of the things that are listed. -/
def Style.isLong (s : Style) : Bool := s.layout == 'l'

/-- A character in a name that is quoted, or shown by an escape. -/
def Style.shownChar (s : Style) (c : Char) : Octets :=
  let isQuoted := s.has 'Q'
  if QuotedName.isShown c then
    if c = '\\' ∨ (c = '"' ∧ isQuoted) then ['\\', c]
    else if c = ' ' ∧ !isQuoted then ['\\', ' ']
    else [c]
  else QuotedName.escaped c

/-- A name as it is listed. -/
def Style.shownName (s : Style) (name : Octets) : Octets :=
  if s.has 'N' then name
  else if s.has 'Q' then '"' :: name.flatMap s.shownChar ++ ['"']
  else if s.has 'b' then name.flatMap s.shownChar
  else if s.has 'q' then name.map fun c => if QuotedName.isShown c then c else '?'
  else name

/-- The mark behind a name that tells what it stands for. -/
def Style.mark (s : Style) (e : Entry) : Octets :=
  match e with
  | .directory _ _ => if s.has 'p' || s.has 'F' || s.has 'e' then ['/'] else []
  | .link _ => if (s.has 'F' || s.has 'e') && !s.isLong then ['@'] else []
  | e => if s.has 'F' && s.files.isExecutable e then ['*'] else []

/-- A name with the mark behind it. -/
def Style.label (s : Style) (item : Item) : Octets :=
  let goal := match item.goal with
    | some (path, goal) =>
      if s.isLong then
        " -> ".toList ++ s.shownName path ++ ((goal.map s.mark).getD [])
      else []
    | none => []
  s.shownName item.name ++ s.mark item.entry ++ goal

/-- A size as it is wanted. -/
def Style.shownSize (s : Style) (n : Nat) : Octets :=
  if s.has 'h' then humanSize 1024 n
  else if s.has 'K' then humanSize 1000 n
  else Text.decimal n

/-- The blocks of things as they are wanted. -/
def Style.shownBlocks (s : Style) (n : Nat) : Octets :=
  if s.has 'h' then humanSize 1024 (n * 1024)
  else if s.has 'K' then humanSize 1000 (n * 1024)
  else Text.decimal n

/-- The time of a thing as it is wanted; one that is long ago is shown with its year. -/
def Style.shownTime (s : Style) (time : Int) : Octets :=
  let isRecent := time ≤ s.files.time && s.files.time - time < 15778476
  let format : Octets :=
    match givenValue? s.given 'Y' with
    | some ('+' :: format) => format
    | some ('f' :: _) => "%Y-%m-%d %H:%M:%S.%N %z".toList
    | some ('l' :: 'o' :: 'n' :: _) => "%Y-%m-%d %H:%M".toList
    | some ('i' :: _) => (if isRecent then "%m-%d %H:%M" else "%Y-%m-%d ").toList
    | _ => (if isRecent then "%b %e %H:%M" else "%b %e  %Y").toList
  Calendar.shown time 0 format

/-- A text with blanks in front up to a width. -/
def right (width : Nat) (s : Octets) : Octets := List.replicate (width - s.length) ' ' ++ s

/-- A text with blanks behind up to a width. -/
def left (width : Nat) (s : Octets) : Octets := s ++ List.replicate (width - s.length) ' '

/-- The greatest length of texts. -/
def widest (texts : List Octets) : Nat := texts.foldl (fun n s => max n s.length) 0

/-- The fields in front of the name in a line that tells all. -/
def Style.fields (s : Style) (item : Item) : List Octets :=
  let e := item.entry
  let owner := if s.has 'n' then ['0'] else "root".toList
  [e.letter :: Mode.shown (s.files.modeOf e), Text.decimal (s.files.namesOf e), owner, owner,
    match e with
    | .device .null => "1, 3".toList
    | .device .zero => "1, 5".toList
    | .device .full => "1, 7".toList
    | .device .terminal => "5, 0".toList
    | e => s.shownSize (s.files.sizeOf e),
    s.shownTime (s.files.modifiedAt e)]

/-- The lines that tell all of things. -/
def Style.longLines (s : Style) (items : List Item) : List Octets :=
  let rows := items.map fun item => (s.fields item, item)
  let width (n : Nat) : Nat := widest (rows.map fun r => r.1.getD n [])
  let blockWidth := widest (items.map fun item => s.shownBlocks (s.files.blocksOf item.entry))
  rows.map fun (fields, item) =>
    let field (n : Nat) : Octets := fields.getD n []
    let blocks := if s.has 's' then
      right blockWidth (s.shownBlocks (s.files.blocksOf item.entry)) ++ [' '] else []
    let owner := if s.has 'g' then [] else left (width 2) (field 2) ++ [' ']
    let group := if s.has 'o' || s.has 'G' then [] else left (width 3) (field 3) ++ [' ']
    blocks ++ field 0 ++ ' ' :: right (width 1) (field 1) ++ ' ' :: owner ++ group ++
      right (width 4) (field 4) ++ ' ' :: right (width 5) (field 5) ++ ' ' :: s.label item

/-- The blanks between two columns: tabulators as far as they reach. The first argument bounds their
number. -/
def gap : Nat → Nat → Nat → Octets
  | 0, _, _ => []
  | steps + 1, start, stop =>
    if stop ≤ start then []
    else if (start + 1) / 8 < stop / 8 then '\t' :: gap steps (start + 8 - start % 8) stop
    else ' ' :: gap steps (start + 1) stop

/-- Cells laid out in columns of those widths, row by row. -/
def rowText (cells : List (Octets × Nat)) : Octets :=
  let rec go (position column : Nat) : List (Octets × Nat) → Octets
    | [] => []
    | [(s, _)] => gap (position + column + 2) position column ++ s
    | (s, width) :: more =>
      gap (position + column + 2) position column ++ s ++
        go (column + s.length) (column + width) more
  go 0 0 cells

/-- The widths of columns if there are so many of them. -/
def columnWidths (across : Bool) (lengths : List Nat) (columns : Nat) : List Nat :=
  let rows := (lengths.length + columns - 1) / columns
  (List.range columns).map fun c =>
    let own := (lengths.zipIdx.filter fun (_, n) =>
      (if across then n % columns else n / rows) == c).map Prod.fst
    let last := c + 1 == columns
    (own.foldl max 0) + (if last then 0 else 2)

/-- Names laid out in as many columns as fit into a width. -/
def inColumns (across : Bool) (lineWidth : Nat) (names : List Octets) : List Octets :=
  let lengths := names.map List.length
  let count := names.length
  let most := max 1 (min count (lineWidth / 3 + (if lineWidth % 3 = 0 then 0 else 1)))
  let fits (columns : Nat) : Bool :=
    let widths := columnWidths across lengths columns
    widths.all (· ≤ 3) || widths.foldl (fun n w => n + max w 3) 0 < lineWidth
  let columns := ((List.range most).reverse.map (· + 1)).find? fits |>.getD 1
  let rows := (count + columns - 1) / columns
  let widths := (columnWidths across lengths columns)
  (List.range rows).map fun row =>
    let cells := (List.range columns).filterMap fun c =>
      let n := if across then row * columns + c else c * rows + row
      (names[n]?).map fun s => (s, max 3 (widths.getD c 0))
    rowText cells

/-- Names with commas between them, in lines of at most a width. -/
def withCommas (lineWidth : Nat) (names : List Octets) : Octets :=
  let rec go (position : Nat) : List Octets → Octets
    | [] => ['\n']
    | s :: more =>
      let length := s.length
      let (front, start) : Octets × Nat :=
        if position = 0 then ([], 0)
        else if position + length + 2 < lineWidth then ([',', ' '], position + 2)
        else ([',', '\n'], 0)
      front ++ s ++ go (start + length) more
  if names.isEmpty then [] else go 0 names

/-- The text that lists things. -/
def Style.text (s : Style) (items : List Item) : Octets :=
  let blockWidth := widest (items.map fun item => s.shownBlocks (s.files.blocksOf item.entry))
  let cell (item : Item) : Octets :=
    let isPlain := s.layout == 'm'
    let blocks := s.shownBlocks (s.files.blocksOf item.entry)
    (if s.has 's' then (if isPlain then blocks else right blockWidth blocks) ++ [' '] else []) ++
      s.label item
  let width := match (givenValue? s.given 'w').map Numeral.decimal? with
    | some (some n) => if n = 0 then 100000 else n.toNat
    | _ => 80
  match s.layout with
  | 'l' => Octets.ofLines (s.longLines items)
  | 'C' => Octets.ofLines (inColumns false width (items.map cell))
  | 'x' => Octets.ofLines (inColumns true width (items.map cell))
  | 'm' => withCommas width (items.map cell)
  | _ => Octets.ofLines (items.map cell)

/-! ## Order -/

/-- The ending of a name from its last dot on. -/
def ending (name : Octets) : Octets :=
  if '.' ∈ name then
    let behind := (name.reverse.takeWhile (· ≠ '.')).reverse
    '.' :: behind
  else []

/-- Whether one text comes before another, byte by byte, or is the same. -/
def textLe : Octets → Octets → Bool
  | [], _ => true
  | _ :: _, [] => false
  | a :: s, b :: t => a < b || (a == b && textLe s t)

/-- Things in the order that is asked for. -/
def Style.sorted (s : Style) (items : List Item) : List Item :=
  let order := (s.given.reverse.find? fun o => o.1 ∈ ['S', 't', 'U', 'v', 'X', 'O']).map fun o =>
    if o.1 ≠ 'O' then o.1
    else
      match o.2 with
      | 's' :: _ => 'S'
      | 't' :: _ => 't'
      | 'n' :: 'o' :: _ => 'U'
      | 'v' :: _ => 'v'
      | 'e' :: _ => 'X'
      | _ => 'n'
  let byName (a b : Item) : Bool := textLe a.name b.name
  let by' (rank : Item → Int) (a b : Item) : Bool :=
    if rank a = rank b then byName a b else rank b < rank a
  let sorted := match order with
    | some 'S' => items.mergeSort (by' fun x => s.files.sizeOf x.entry)
    | some 't' => items.mergeSort (by' fun x => s.files.modifiedAt x.entry)
    | some 'v' => items.mergeSort fun a b =>
      let d := Text.VersionOrder.compare a.name b.name
      d < 0 || (d = 0 && byName a b)
    | some 'X' => items.mergeSort fun a b =>
      if ending a.name = ending b.name then byName a b else textLe (ending a.name) (ending b.name)
    | some 'U' => items
    | _ => items.mergeSort byName
  let sorted := if s.has 'r' && order ≠ some 'U' then sorted.reverse else sorted
  if s.has 'D' then
    let isFolder (x : Item) : Bool :=
      x.entry.isDirectory || x.goal.any fun g => g.2.any Entry.isDirectory
    sorted.filter isFolder ++ sorted.filter fun x => !isFolder x
  else sorted

/-- The item of an entry under a name; `path` leads to it. -/
def Style.item (s : Style) (name path : Octets) (e : Entry) : Item :=
  match e with
  | .link target =>
    let goal := (s.files.entry (Octets.toText path)).toOption
    if s.has 'L' && goal.isSome then ⟨name, goal.getD e, none⟩
    else ⟨name, e, some (Octets.ofText target, goal)⟩
  | e => ⟨name, e, none⟩

/-- Whether a name in a directory is listed. -/
def Style.lists (s : Style) (name : String) : Bool :=
  let isHidden := name.toList.head? = some '.'
  (!isHidden || s.has 'a' || s.has 'A') && !(s.has 'B' && name.toList.getLast? = some '~')

/-- The things in a directory that are listed. -/
def Style.itemsOf (s : Style) (path : Octets) (d : Directory) : List Item :=
  let inside := (d.toList.filter fun e => s.lists e.1).map fun (n, e) =>
    s.item (Octets.ofText n) (Removal.within path n) e
  let above := (s.files.entry (Octets.toText (Removal.within path ".."))).toOption
  let dots : List Item :=
    if s.has 'a' then
      [⟨['.'], .folder d, none⟩, ⟨['.', '.'], above.getD (.folder .nil), none⟩]
    else []
  s.sorted (dots ++ inside)

/-- The listing of a directory. -/
def Style.directoryText (s : Style) (path : Octets) (d : Directory) : Octets :=
  let items := s.itemsOf path d
  let total := items.foldl (fun n x => n + s.files.blocksOf x.entry) 0
  (if s.isLong || s.has 's' then "total ".toList ++ s.shownBlocks total ++ ['\n'] else []) ++
    s.text items

/-- The directories that are listed with a directory, each with its path, if those below it are
wanted as well. The first argument bounds how deep they are in each other. -/
def Style.withBelow (s : Style) : Nat → Octets → Directory → List (Octets × Directory)
  | 0, _, _ => []
  | steps + 1, path, d =>
    (path, d) ::
      if !s.has 'R' then []
      else
        (s.itemsOf path d).flatMap fun item =>
          match item.entry with
          | .directory _ sub =>
            if item.name = ['.'] ∨ item.name = ['.', '.'] then []
            else s.withBelow steps (Removal.within path (Octets.toText item.name)) sub
          | _ => []

end FileListing

open FileListing

/-- Lists files and directories. -/
def lsProgram : Program := fun i =>
  let table : OptionTable :=
    ⟨("1aAbBcCdfFgGhHiklLmnNopqQrRsStuUvxXZ".toList.map fun c => (c, .never)) ++
      [('I', .always), ('w', .always), ('T', .always)],
      [("all", 'a', .never), ("almost-all", 'A', .never), ("author", 'Z', .never),
        ("escape", 'b', .never), ("ignore-backups", 'B', .never), ("classify", 'F', .optional),
        ("color", 'Z', .optional), ("directory", 'd', .never), ("dereference", 'L', .never),
        ("dereference-command-line", 'H', .never), ("file-type", 'e', .never),
        ("format", 'M', .always), ("full-time", 'W', .never),
        ("group-directories-first", 'D', .never), ("no-group", 'G', .never),
        ("human-readable", 'h', .never), ("si", 'K', .never), ("hide", 'I', .always),
        ("ignore", 'I', .always), ("inode", 'i', .never), ("kibibytes", 'k', .never),
        ("literal", 'N', .never), ("numeric-uid-gid", 'n', .never), ("quote-name", 'Q', .never),
        ("recursive", 'R', .never), ("reverse", 'r', .never), ("size", 's', .never),
        ("show-control-chars", 'Z', .never), ("hide-control-chars", 'q', .never),
        ("sort", 'O', .always), ("time", 'Z', .always), ("time-style", 'Y', .always),
        ("width", 'w', .always), ("indicator-style", 'Z', .always)], false⟩
  table.run "ls" 2 (fun _ => none) i fun given operands =>
    list i (given.flatMap expanded) operands
where
  /-- The options that an option stands for. -/
  expanded (o : GivenOption) : List GivenOption :=
    match o with
    | ('f', _) => [('a', []), ('U', [])]
    | ('W', _) => [('l', []), ('Y', ['f'])]
    | ('M', 'l' :: _) => [('l', [])]
    | ('M', 'v' :: 'e' :: 'r' :: 'b' :: _) => [('l', [])]
    | ('M', 's' :: _) | ('M', '1' :: _) => [('1', [])]
    | ('M', 'a' :: _) | ('M', 'h' :: _) => [('x', [])]
    | ('M', 'c' :: 'o' :: _) => [('m', [])]
    | ('M', _) => [('C', [])]
    | o => [o]
  /-- Lists what operands name. -/
  list (i : Invocation) (given : List GivenOption) (operands : List Octets) : Effect :=
    let s : Style := ⟨i.files, given⟩
    let names := if operands.isEmpty then [['.']] else operands
    let keepsLinks := (s.isLong || s.has 'd' || s.has 'F') && !s.has 'L' && !s.has 'H'
    let look (name : Octets) : Except OsError Entry :=
      let path := Octets.toText name
      if keepsLinks then i.files.named path
      else
        match i.files.entry path with
        | .ok e => .ok e
        | .error _ => i.files.named path
    let e := names.foldl (fun e name =>
      match look name with
      | .ok _ => e
      | .error x =>
        e.fail i.name 2
          ("cannot access ".toList ++ QuotedName.always name ++ ": ".toList ++ x.reason.toList))
      i.start
    let found := s.sorted (names.filterMap fun name =>
      (look name).toOption.map fun x => s.item name name x)
    let isListed (x : Item) : Bool := x.entry.isDirectory && !s.has 'd'
    let plain := found.filter fun x => !isListed x
    let directories := (found.filter isListed).flatMap fun x =>
      match x.entry with
      | .directory _ d => s.withBelow 100 x.name d
      | _ => []
    let e := e.print (s.text plain)
    let headed := 1 < names.length || s.has 'R'
    (directories.foldl (fun (e, first) (name, d) =>
      let front := if !headed then [] else
        (if first then [] else ['\n']) ++ s.shownName name ++ [':', '\n']
      ((e.print front).print (s.directoryText name d), false)) (e, plain.isEmpty)).1

end CallForest
