import CallForest.Program.Regex
import CallForest.Shell.Pattern

/-!
# Searching lines

`grep` prints the lines of its inputs that match one of several patterns, with the lines around
them, or tells how many there are or which inputs have any. It may look for files in directories
too.
-/

namespace CallForest

/-- What is searched for, and what is printed of the lines found. -/
structure LineSearch where
  patterns : List Regex
  ignoreCase : Bool
  inverted : Bool
  wholeLines : Bool
  wholeWords : Bool

namespace LineSearch

/-- Whether a match stands for whole words. -/
def isWord (text : Octets) (a b : Nat) : Bool :=
  let before := if a = 0 then none else text[a - 1]?
  !(before.any Regex.isWordChar) && !((text[b]?).any Regex.isWordChar)

/-- The first match of a pattern in a line that the search accepts. -/
def accepted? (s : LineSearch) (r : Regex) (line : Octets) : Nat → Regex.Place →
    Option (Nat × Regex.Place)
  | 0, _ => none
  | attempts + 1, p =>
    match r.findFrom? s.ignoreCase line (line.length + 1) p with
    | none => none
    | some (a, q) =>
      if s.wholeLines then if a = 0 ∧ q.rest.isEmpty then some (a, q) else none
      else if s.wholeWords && !isWord line a q.offset then
        match p.rest with
        | c :: rest => accepted? s r line attempts (p.advance c rest)
        | [] => none
      else some (a, q)

/-- The first and longest match of the patterns in a line, from a place on. -/
def find? (s : LineSearch) (line : Octets) (p : Regex.Place) : Option (Nat × Regex.Place) :=
  s.patterns.foldl (fun best r =>
    match best, s.accepted? r line (line.length + 1) p with
    | none, found => found
    | best, none => best
    | some (a, p), some (b, q) =>
      if b < a || (a == b && p.offset < q.offset) then some (b, q) else some (a, p)) none

/-- Whether a line is selected. -/
def selects (s : LineSearch) (line : Octets) : Bool :=
  (s.find? line (.ofText line)).isSome != s.inverted

/-- The matches in a line that are not empty, with their places. The first argument bounds their
number. -/
def matchesFrom (s : LineSearch) (line : Octets) : Nat → Regex.Place → List (Nat × Octets)
  | 0, _ => []
  | steps + 1, p =>
    match s.find? line p with
    | none => []
    | some (a, q) =>
      if a < q.offset then (a, (line.drop a).take (q.offset - a)) :: matchesFrom s line steps q
      else
        match q.rest with
        | c :: rest => matchesFrom s line steps (q.advance c rest)
        | [] => []

/-- The matches in a line that are not empty, with their places. -/
def matchesIn (s : LineSearch) (line : Octets) : List (Nat × Octets) :=
  s.matchesFrom line (line.length + 1) (.ofText line)

end LineSearch

/-- What is shown of an input. -/
inductive GrepListing where
  | lines
  | count
  /-- Its name, if a line was found. -/
  | found
  /-- Its name, if no line was found. -/
  | missed
  | nothing
  deriving DecidableEq, Repr

/-- What is done with lines of an input that is no text. -/
inductive BinaryPolicy where
  | announce
  | show
  | skip
  deriving DecidableEq, Repr

/-- How the lines found are printed. -/
structure GrepStyle where
  listing : GrepListing
  numbersLines : Bool
  numbersBytes : Bool
  onlyMatches : Bool
  aligned : Bool
  /-- Whether a null byte ends names. -/
  nullNames : Bool
  colored : Bool
  /-- What ends lines. -/
  newline : Char
  before : Nat
  after : Nat
  /-- What stands between groups of lines, if there are groups. -/
  separator : Option Octets
  /-- After how many lines an input is done. -/
  limit : Option Nat
  binary : BinaryPolicy
  /-- What the program's own input is called. -/
  ownName : Octets
  /-- Whether inputs that cannot be read are passed over in silence. -/
  silent : Bool

namespace GrepStyle

/-- A text in a colour. -/
def paint (style : GrepStyle) (colour : String) (s : Octets) : Octets :=
  let escape := Char.ofNat 27
  if style.colored then
    escape :: '[' :: colour.toList ++ 'm' :: escape :: "[K".toList ++ s ++
      escape :: "[m".toList ++ escape :: "[K".toList
  else s

/-- A name in front of a line. -/
def namePart (style : GrepStyle) (mark : Char) (name : Octets) : Octets :=
  style.paint "35" name ++ (if style.nullNames then [Char.ofNat 0] else style.paint "36" [mark])

/-- A number in front of a line. -/
def numberPart (style : GrepStyle) (mark : Char) (n : Nat) : Octets :=
  let digits := Text.decimal n
  let width := if style.aligned then 2 else 0
  style.paint "32" (List.replicate (width - digits.length) ' ' ++ digits) ++ style.paint "36" [mark]

/-- What stands in front of a line or a match. -/
def front (style : GrepStyle) (label : Option Octets) (mark : Char) (number place : Nat)
    (isEmpty : Bool) : Octets :=
  let parts :=
    (label.map (style.namePart mark)).toList ++
      (if style.numbersLines then [style.numberPart mark number] else []) ++
      (if style.numbersBytes then [style.numberPart mark place] else [])
  parts.flatten ++ (if style.aligned && !parts.isEmpty && !isEmpty then ['\t'] else [])

/-- A line with the matches in it in colour. -/
def painted (style : GrepStyle) (search : LineSearch) (line : Octets) : Octets :=
  if !style.colored then line
  else
    let (pieces, place) := (search.matchesIn line).foldl
      (fun ((pieces : List Octets), (place : Nat)) (start, text) =>
        (style.paint "01;31" text :: (line.drop place).take (start - place) :: pieces,
          start + text.length)) ([], 0)
    ((line.drop place) :: pieces).reverse.flatten

/-- A line of an input, with its number and the place where it begins. -/
structure NumberedLine where
  text : Octets
  number : Nat
  place : Nat

/-- Lines with their numbers and places. -/
def numbered (number place : Nat) : List Octets → List NumberedLine
  | [] => []
  | l :: ls => ⟨l, number, place⟩ :: numbered (number + 1) (place + l.length + 1) ls

/-- What is printed of a line. `isFound` tells that it is one of those found, and not one around
them. -/
def shownLine (style : GrepStyle) (search : LineSearch) (label : Option Octets) (isFound : Bool)
    (l : NumberedLine) : Octets :=
  let mark := if isFound then ':' else '-'
  let matching := isFound != search.inverted
  if style.onlyMatches then
    if !isFound || search.inverted then []
    else
      (search.matchesIn l.text).flatMap fun (start, text) =>
        style.front label mark l.number (l.place + start) false ++ style.paint "01;31" text ++
          [style.newline]
  else
    style.front label mark l.number l.place l.text.isEmpty ++
      (if matching then style.painted search l.text else l.text) ++ [style.newline]

/-- The lines that are shown: those found and those around them, with a mark between groups. `used`
tells that groups were shown of other inputs. -/
def shownLines (style : GrepStyle) (search : LineSearch) (label : Option Octets) (used : Bool)
    (lines : List NumberedLine) (found : List Nat) : Octets :=
  let marks := found.foldl (fun (marks : Array Bool) n => marks.set! n true)
    (Array.replicate (lines.length + 1) false)
  let isFound (n : Nat) : Bool := marks.getD n false
  let isShown (n : Nat) : Bool :=
    if style.separator.isNone && style.before + style.after = 0 then isFound n
    else
      (List.range (style.before + style.after + 1)).any fun k =>
        style.after ≤ n + style.before && k ≤ n + style.before && isFound (n + style.before - k)
  let (pieces, _) := (lines.filter fun l => isShown l.number).foldl (fun (pieces, last) l =>
    let gap :=
      match last with
      | none => used
      | some n => n + 1 < l.number
    let between :=
      match style.separator with
      | some s => if gap then style.paint "36" s ++ ['\n'] else []
      | none => []
    (style.shownLine search label (isFound l.number) l :: between :: pieces, some l.number))
    (([] : List Octets), (none : Option Nat))
  pieces.reverse.flatten

end GrepStyle

/-- How far a search has come: its effect, whether a line was found, and whether lines were
shown. -/
structure GrepState where
  effect : Effect
  any : Bool
  used : Bool

/-- Searches one input. -/
def searchInput (i : Invocation) (style : GrepStyle) (search : LineSearch) (labelled : Bool)
    (state : GrepState) (name content : Octets) : GrepState :=
  let e := state.effect
  let quick := ! [GrepListing.lines, .count].contains style.listing
  let shownName := if name = ['-'] then style.ownName else name
  let label := if labelled then some shownName else none
  let lines := GrepStyle.numbered 1 0 (endedBy style.newline content)
  let found := (lines.filter fun l => search.selects l.text).map (·.number)
  let found := match style.limit with
    | some n => found.take n
    | none => found
  let isFound := !found.isEmpty
  let isFull := style.limit.any (found.length == ·)
  let e :=
    if !isOwnInput name || !(isFull || (quick && isFound)) then e
    else
      let used := lines.take (if isFull then found.getLastD 0 else lines.length)
      e.leave i 98304 (i.input.length - used.foldl (fun n l => n + l.text.length + 1) 0)
  let named : Octets :=
    style.paint "35" shownName ++ [if style.nullNames then Char.ofNat 0 else '\n']
  let isBinary := content.any fun c => c.toNat = 0 && style.newline ≠ c
  if isBinary && style.binary = .skip then { state with effect := e }
  else
    let isAnnounced := isBinary && style.binary = .announce
    let e :=
      match style.listing with
      | .nothing => e
      | .found => if isFound then e.print named else e
      | .missed => if isFound then e else e.print named
      | .count =>
        e.print ((label.map (style.namePart ':')).getD [] ++ Text.decimal found.length ++ ['\n'])
      | .lines =>
        if !isAnnounced then
          e.print (style.shownLines search label state.used lines found)
        else if isFound then
          e.complain (i.name ++ ": ".toList ++ shownName ++ ": binary file matches\n".toList)
        else e
    ⟨e, state.any || isFound, state.used || isFound⟩

/-! ## Files in directories -/

/-- Which files are searched: names of files and of directories that are taken up or left out, the
last that fits decides. -/
structure FileFilter where
  files : List (Bool × Shell.Pattern)
  directories : List Shell.Pattern

namespace FileFilter

/-- The parts of a name behind its slashes. -/
def behindSlashes : Octets → List Octets
  | [] => []
  | c :: cs =>
    (if c = '/' ∧ cs.head?.any (· ≠ '/') then [cs] else []) ++ behindSlashes cs

/-- A name and the parts of it behind its slashes. -/
def endings (name : Octets) : List Octets := name :: behindSlashes name

/-- Whether a file is left out. If no pattern fits, it is if the first is one for files to take
up. -/
def leavesOut (f : FileFilter) (name : Octets) : Bool :=
  let fitting := f.files.filter fun (_, p) => (endings name).any p.fits
  match fitting.getLast?, f.files.head? with
  | some (isTaken, _), _ => !isTaken
  | none, some (isTaken, _) => isTaken
  | none, none => false

/-- Whether a directory is left out. -/
def leavesOutDirectory (f : FileFilter) (name : Octets) : Bool :=
  let name := (name.reverse.dropWhile (· == '/')).reverse
  f.directories.any fun p => (endings name).any p.fits

/-- The files below a directory, by their paths. Links are followed if that is wanted. The first
argument bounds the depth. -/
def filesBelow (f : FileFilter) (files : FileSystem) (follows : Bool) :
    Nat → Octets → List Octets
  | 0, _ => []
  | depth + 1, path =>
    match files.readDirectory (Octets.toText path) with
    | .error _ => []
    | .ok d =>
      let front := if path.getLast? = some '/' then path else path ++ ['/']
      d.toList.flatMap fun (name, entry) =>
        let name := Octets.ofText name
        let path := front ++ name
        let entry? : Option Entry :=
          if !entry.isLink then some entry
          else if follows then (files.entry (Octets.toText path)).toOption
          else none
        match entry? with
        | some (.directory _ _) =>
          if f.leavesOutDirectory name then [] else filesBelow f files follows depth path
        | some (.file _) | some (.program _) => if f.leavesOut name then [] else [path]
        | _ => []

end FileFilter

/-- What is done with directories among the inputs. -/
inductive DirectoryPolicy where
  | read
  | skip
  | search (follows : Bool)
  deriving DecidableEq, Repr

/-- The inputs to search: their names, and whether they are shown in front of lines. -/
def grepNames (i : Invocation) (policy : DirectoryPolicy) (f : FileFilter)
    (operands : List Octets) : List Octets × Bool :=
  let depth := 64
  match policy with
  | .search follows =>
    if operands.isEmpty then ((f.filesBelow i.files follows depth ['.']).map (·.drop 2), true)
    else
      let isFolder (name : Octets) : Bool :=
        !isOwnInput name && i.files.isDirectory (Octets.toText name)
      (operands.flatMap fun name =>
        if isFolder name then
          if f.leavesOutDirectory name then [] else f.filesBelow i.files follows depth name
        else if !isOwnInput name && f.leavesOut name then []
        else [name], 1 < operands.length || operands.any isFolder)
  | _ =>
    ((inputNames operands).filter fun name => isOwnInput name || !f.leavesOut name,
      1 < operands.length)

/-- Searches inputs, behind what is done already. -/
def searchInputs (i : Invocation) (done : Effect) (style : GrepStyle) (search : LineSearch)
    (policy : DirectoryPolicy) (names : List Octets) (labelled : Bool) : Effect :=
  let quiet := style.listing = .nothing
  let isOutput (name : Octets) (e : Effect) : Bool :=
    let number := if isOwnInput name then none
      else (e.files.entry (Octets.toText name)).toOption.bind Entry.number?
    i.outputFile.isSome && number == i.outputFile && style.limit ≠ some 1 &&
      [GrepListing.lines, .count].contains style.listing
  let state := names.foldl (fun (state : GrepState) name =>
    let e := state.effect
    if isOutput name e then
      { state with effect :=
          if style.silent then e.withCode 2
          else e.fail i.name 2 (name ++ ": input file is also the output".toList) }
    else
      match e.readAll name with
      | .ok (content, e) =>
        searchInput i style search labelled { state with effect := e } name content
      | .error x =>
        if x = .isDirectory && policy = .skip then state
        else
          let shown := if name = ['-'] then style.ownName else name
          let e := if style.silent then e.withCode 2
            else e.fail i.name 2 (shown ++ ": ".toList ++ x.reason.toList)
          if x = .isDirectory && policy = .read then
            searchInput i style search labelled { state with effect := e } name []
          else { state with effect := e }) ⟨done, false, false⟩
  let e := state.effect
  if state.any && (e.code = 0 || quiet) then { e with code := 0 }
  else if e.code = 0 then { e with code := 1 }
  else e

/-! ## Options -/

namespace GrepOption

/-- The number of lines around those found that a value tells. -/
def length? (s : Octets) : Option Nat :=
  let digits := if s.head? = some '+' then s.tail else s
  if digits.isEmpty || !digits.all Char.isDigit then none
  else some (Numeral.digitsFrom 10 0 digits).1

/-- The limit of lines that a value tells; a negative one is none. -/
def limit? (s : Octets) : Option (Option Nat) :=
  match s with
  | '-' :: digits => (length? digits).map fun _ => none
  | s => (length? s).map some

/-- The values that options have which have to be one of several words. -/
def words? (letter : Char) : Option (String × List String) :=
  match letter with
  | 'd' => some ("directories", ["read", "recurse", "skip"])
  | 'k' => some ("binary-files", ["binary", "text", "without-match"])
  | _ => none

/-- What is wrong with an option. -/
def problem? (usage : Octets) (o : GivenOption) : Option Octets :=
  if ['A', 'B', 'C'].contains o.1 then
    if (length? o.2).isSome then none
    else some (o.2 ++ ": invalid context length argument".toList)
  else if o.1 = 'm' then
    if (limit? o.2).isSome then none else some "invalid max count".toList
  else if o.1 = 'D' && ! ["read".toList, "skip".toList].contains o.2 then
    some "unknown devices method".toList
  else if o.1 = 'k' && !((words? 'k').any fun w => w.2.any (·.toList == o.2)) then
    some "unknown binary-files type".toList
  else
    match words? o.1 with
    | none => none
    | some (name, words) =>
      if words.any (·.toList == o.2) then none
      else
        some ("invalid argument ".toList ++ QuotedName.ofArgument o.2 ++ " for '--".toList ++
          name.toList ++ "'\nValid arguments are:\n".toList ++
          (words.flatMap fun w => "  - '".toList ++ w.toList ++ ['\'', '\n']) ++ usage.dropLast)

/-- The options by letters and words. -/
def table : OptionTable :=
  ⟨("aEFGPHLRchiIlnoqrsTuUvVwxyzZb0123456789".toList.map fun c => (c, .never)) ++
      "eABCmfdD".toList.map fun c => (c, ValueKind.always),
    [("basic-regexp", 'G', .never), ("extended-regexp", 'E', .never), ("fixed-regexp", 'F', .never),
      ("fixed-strings", 'F', .never), ("perl-regexp", 'P', .never), ("regexp", 'e', .always),
      ("after-context", 'A', .always), ("before-context", 'B', .always),
      ("context", 'C', .always), ("group-separator", 'g', .always),
      ("no-group-separator", 'j', .never), ("binary", 'U', .never),
      ("binary-files", 'k', .always), ("byte-offset", 'b', .never), ("color", 'K', .optional),
      ("colour", 'K', .optional), ("count", 'c', .never), ("devices", 'D', .always),
      ("directories", 'd', .always), ("exclude", 'p', .always), ("exclude-dir", 'J', .always),
      ("file", 'f', .always), ("files-with-matches", 'l', .never),
      ("files-without-match", 'L', .never), ("ignore-case", 'i', .never),
      ("no-ignore-case", 'N', .never), ("include", 'M', .always), ("initial-tab", 'T', .never),
      ("invert-match", 'v', .never), ("label", 'O', .always), ("line-buffered", 'Q', .never),
      ("line-number", 'n', .never), ("line-regexp", 'x', .never), ("max-count", 'm', .always),
      ("no-filename", 'h', .never), ("no-messages", 's', .never), ("null", 'Z', .never),
      ("null-data", 'z', .never), ("only-matching", 'o', .never), ("quiet", 'q', .never),
      ("silent", 'q', .never), ("recursive", 'r', .never), ("dereference-recursive", 'R', .never),
      ("text", 'a', .never), ("unix-byte-offsets", 'u', .never), ("version", 'V', .never),
      ("with-filename", 'H', .never), ("word-regexp", 'w', .never)], false⟩

/-- The number that digits among the options make up, if it is the last that tells of lines around
both ways. -/
def around? (given : List GivenOption) : Option Nat :=
  let step (state : Option Nat × Bool) (o : GivenOption) : Option Nat × Bool :=
    let (n, inNumber) := state
    if o.1.isDigit then
      (some ((if inNumber then 10 * n.getD 0 else 0) + (o.1.toNat - 48)), true)
    else if o.1 = 'C' then (length? o.2, false)
    else (n, false)
  (given.foldl step (none, false)).1

/-- How lines are printed under options. -/
def style (given : List GivenOption) : GrepStyle :=
  let has (c : Char) : Bool := isGiven given c
  let last? (letters : List Char) : Option Char :=
    (given.reverse.find? fun o => letters.contains o.1).map Prod.fst
  let value? (c : Char) : Option Nat := (givenValue? given c).bind length?
  let around := around? given
  let hasGroups := around.isSome || has 'A' || has 'B'
  let listing : GrepListing :=
    if has 'q' then .nothing
    else
      match last? ['l', 'L'] with
      | some 'l' => .found
      | some _ => .missed
      | none => if has 'c' then .count else .lines
  let binary : BinaryPolicy :=
    match given.reverse.find? fun o => ['a', 'I', 'k', 'U'].contains o.1 && o.1 ≠ 'U' with
    | some ('a', _) => .show
    | some ('I', _) => .skip
    | some ('k', v) =>
      if v = "text".toList then .show
      else if v = "without-match".toList then .skip
      else .announce
    | _ => .announce
  { listing
    numbersLines := has 'n'
    numbersBytes := has 'b'
    onlyMatches := has 'o'
    aligned := has 'T'
    nullNames := has 'Z'
    colored := givenValue? given 'K' == some "always".toList
    newline := if has 'z' then Char.ofNat 0 else '\n'
    before := (value? 'B').getD (around.getD 0)
    after := (value? 'A').getD (around.getD 0)
    separator :=
      if !hasGroups || has 'j' then none else some ((givenValue? given 'g').getD ['-', '-'])
    limit := (givenValue? given 'm').bind fun v => (limit? v).join
    binary
    ownName := (givenValue? given 'O').getD "(standard input)".toList
    silent := has 's' }

/-- What is done with directories under options. -/
def policy (given : List GivenOption) : DirectoryPolicy :=
  match given.reverse.find? fun o => ['r', 'R', 'd'].contains o.1 with
  | some ('r', _) => .search false
  | some ('R', _) => .search true
  | some ('d', v) =>
    if v = "skip".toList then .skip else if v = "recurse".toList then .search false else .read
  | _ => .read

/-- Which files are searched under options. -/
def filter (given : List GivenOption) : FileFilter :=
  ⟨given.filterMap fun o =>
      if o.1 = 'M' then some (true, Shell.Pattern.ofName o.2)
      else if o.1 = 'p' then some (false, Shell.Pattern.ofName o.2)
      else none,
    (given.filter fun o => o.1 = 'J').map fun o =>
      Shell.Pattern.ofName (o.2.reverse.dropWhile (· == '/')).reverse⟩

end GrepOption

/-- Prints the lines of its inputs that match. `mode` is the letter of the way of writing that
patterns have without an option. -/
def grepProgram (mode : Char) : Program := fun invocation =>
  let i := { invocation with name := "grep".toList }
  let usage : Octets :=
    "Usage: grep [OPTION]... PATTERNS [FILE]...\n".toList ++ OptionTable.hint i.name
  let refuse (text : Octets) : Effect := i.start.fail i.name 2 text
  let (given, read) := GrepOption.table.readFrom none i.args
  let modes := (given.filter fun o => ['E', 'F', 'G', 'P'].contains o.1).map Prod.fst
  let modes := if mode = 'G' then modes else mode :: modes
  let chosen := modes.headD 'G'
  let isLess (o : GivenOption) : Bool := (GrepOption.problem? usage o).isSome
  match given.find? isLess, read with
  | some o, _ =>
    let problem := (GrepOption.problem? usage o).getD []
    i.start.fail i.name (if o.1 = 'd' then 1 else 2) problem
  | none, .error problem => (refuse problem).complain usage
  | none, .ok operands =>
    let isPattern (o : GivenOption) : Bool := o.1 = 'e' || o.1 = 'f'
    let explicit : Except (Octets × OsError) (List (List Octets)) :=
      (given.filter isPattern).mapM fun o =>
        if o.1 = 'e' then .ok [o.2]
        else
          match i.start.readAll o.2 with
          | .ok (content, _) => .ok (endedBy '\n' content)
          | .error x => .error (o.2, x)
    if isGiven given 'V' then i.start.print "grep 3.8\n".toList
    else if modes.any (· ≠ chosen) then refuse "conflicting matchers specified".toList
    else
      match explicit, operands with
      | .error (path, x), _ => refuse (path ++ ": ".toList ++ x.reason.toList)
      | .ok [], [] => (i.start.complain usage).withCode 2
      | .ok explicit, operands =>
        let (patterns, operands) :=
          if explicit.isEmpty then (operands.take 1, operands.drop 1)
          else (explicit.flatten, operands)
        let style := GrepOption.style given
        let alternatives := patterns.flatMap fun p => p.splitOn '\n'
        let compiled : Except Regex.Problem (List (Regex × List String)) :=
          if chosen = 'F' then .ok (alternatives.map fun a => (Regex.ofLiteral a, []))
          else alternatives.mapM (Regex.read ⟨chosen == 'G', true, false⟩)
        match compiled with
        | .error problem => refuse problem.message.toList
        | .ok read =>
          if style.limit = some 0 then i.start.withCode 1
          else
            let start :=
              if isGiven given 'u' then
                i.start.complain
                  "grep: warning: --unix-byte-offsets (-u) is obsolete\n".toList
              else i.start
            let warned := (read.flatMap Prod.snd).foldl (fun e w =>
              e.complain (i.name ++ ": warning: ".toList ++ w.toList ++ ['\n'])) start
            let ignoreCase :=
              (given.reverse.find? fun o => ['i', 'y', 'N'].contains o.1).any fun o => o.1 ≠ 'N'
            let policy := GrepOption.policy given
            let (names, labelled) := grepNames i policy (GrepOption.filter given) operands
            let labelled :=
              match given.reverse.find? fun o => o.1 = 'H' || o.1 = 'h' with
              | some (c, _) => c = 'H'
              | none => labelled
            searchInputs i warned style
              ⟨read.map Prod.fst, ignoreCase, isGiven given 'v', isGiven given 'x',
                isGiven given 'w'⟩ policy names labelled

end CallForest
