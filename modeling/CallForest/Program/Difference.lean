import CallForest.Program.Alignment
import CallForest.Program.Calendar
import CallForest.Program.Input
import CallForest.Shell.Pattern

/-!
# Differences

`diff` shows which lines of a text have to be changed to get another one: as changes line by line,
in groups with the lines around them, or as a script for an editor. Directories are compared entry
by entry.
-/

namespace CallForest

/-- How differences are shown. -/
inductive DiffForm where
  | normal
  | unified (context : Nat)
  | copied (context : Nat)
  | script
  | counted
  | brief
  deriving DecidableEq, Repr

/-- What `diff` is asked for: the form, which lines count as the same, and what is done with files
that are missing, that are the same, or that are no texts. -/
structure DiffRequest where
  form : DiffForm
  ignoresCase : Bool
  /-- Whether white space does not count at all, its amount does not, or that at the ends of lines
  does not. -/
  ignoresBlanks : Bool
  ignoresAmounts : Bool
  ignoresEnds : Bool
  ignoresBlankLines : Bool
  reportsSame : Bool
  fillsMissing : Bool
  recursive : Bool
  anyText : Bool
  tabbed : Bool
  labels : List Octets
  /-- The names of entries that are left out. -/
  excluded : List Shell.Pattern
  /-- The options as they were given. -/
  switches : List Octets

namespace DiffRequest

/-- How many lines are shown around a change. -/
def context (r : DiffRequest) : Nat :=
  match r.form with
  | .unified n | .copied n => n
  | _ => 0

/-- What a line is compared by. -/
def key (r : DiffRequest) (line : Octets) : Octets :=
  let withoutEnd (s : Octets) : Octets := (s.reverse.dropWhile Numeral.isBlank).reverse
  let line := if r.ignoresCase then line.map Char.toLower else line
  if r.ignoresBlanks then line.filter (!Numeral.isBlank ·)
  else if r.ignoresAmounts then
    let line := withoutEnd line
    (line.zip (none :: line.map some)).filterMap fun (c, before) =>
      if !Numeral.isBlank c then some c
      else if before.any Numeral.isBlank then none else some ' '
  else if r.ignoresEnds then withoutEnd line
  else line

/-- Whether a line counts as blank. -/
def isBlank (r : DiffRequest) (line : Octets) : Bool :=
  if r.ignoresBlanks || r.ignoresAmounts || r.ignoresEnds then line.all Numeral.isBlank
  else line.all (· == '\n')

end DiffRequest

/-- The lines of a text with the newlines that end them. -/
def linesWithEnds (s : Octets) : List Octets :=
  match s.splitOn '\n' with
  | [] => []
  | pieces =>
    (pieces.dropLast.map (· ++ ['\n'])) ++ (pieces.getLast?.toList.filter fun l => !l.isEmpty)

/-- Two texts that are compared, with their names, and the times they were written. -/
structure DiffPair where
  oldName : Octets
  newName : Octets
  oldTime : Int
  newTime : Int
  oldLines : Array Octets
  newLines : Array Octets

namespace DiffPair

/-- A line behind a mark. What is said of a line that lacks its newline stands behind it. -/
def marked (mark line : Octets) : Octets :=
  mark ++ line ++
    (if line.getLast? = some '\n' then [] else "\n\\ No newline at end of file\n".toList)

/-- Lines behind marks. -/
def allMarked (mark : Octets) (lines : Array Octets) (start count : Nat) : Octets :=
  (lines.extract start (start + count)).toList.flatMap (marked mark)

/-- A range of lines by their numbers. Of no lines it is the number of the one in front. -/
def range (start count : Nat) : Octets :=
  if count ≤ 1 then Text.decimal (start + count)
  else Text.decimal (start + 1) ++ ',' :: Text.decimal (start + count)

/-- The letter of a change. -/
def letter (h : Hunk) : Char :=
  if h.oldCount = 0 then 'a' else if h.newCount = 0 then 'd' else 'c'

/-- A change line by line. -/
def normalText (p : DiffPair) (tabbed : Bool) (h : Hunk) : Octets :=
  let blank := if tabbed then '\t' else ' '
  range h.oldStart h.oldCount ++ letter h :: range h.newStart h.newCount ++ '\n' ::
    allMarked ['<', blank] p.oldLines h.oldStart h.oldCount ++
    (if h.oldCount ≠ 0 ∧ h.newCount ≠ 0 then "---\n".toList else []) ++
    allMarked ['>', blank] p.newLines h.newStart h.newCount

/-- A change as a command of an editor, with the new lines. -/
def scriptText (p : DiffPair) (h : Hunk) : Octets :=
  let line (l : Octets) : Octets := if l.getLast? = some '\n' then l else l ++ ['\n']
  range h.oldStart h.oldCount ++ letter h :: '\n' ::
    (if h.newCount = 0 then []
      else
        (p.newLines.extract h.newStart (h.newStart + h.newCount)).toList.flatMap line ++
          ['.', '\n'])

/-- A change as commands with numbers of lines, and the new lines. -/
def countedText (p : DiffPair) (h : Hunk) : Octets :=
  (if h.oldCount = 0 then []
    else 'd' :: Text.decimal (h.oldStart + 1) ++ ' ' :: Text.decimal h.oldCount ++ ['\n']) ++
  (if h.newCount = 0 then []
    else
      'a' :: Text.decimal (h.oldStart + h.oldCount) ++ ' ' :: Text.decimal h.newCount ++ '\n' ::
        (p.newLines.extract h.newStart (h.newStart + h.newCount)).toList.flatten)

/-- Changes in groups: those with few lines between them stand together. `isMinor` tells of the
changes that do not count by themselves. -/
def groups (context : Nat) (isMinor : Hunk → Bool) : List Hunk → List (List Hunk)
  | [] => []
  | h :: hs =>
    match hs, groups context isMinor hs with
    | next :: _, g :: gs =>
      let limit := if isMinor h || isMinor next then context else 2 * context + 1
      if next.oldStart - (h.oldStart + h.oldCount) < limit then (h :: g) :: gs
      else [h] :: g :: gs
    | _, gs => [h] :: gs

/-- The lines that a group of changes comprises with those around: where they start and end in both
texts. -/
def extent (p : DiffPair) (context : Nat) (first last : Hunk) : (Nat × Nat) × (Nat × Nat) :=
  ((first.oldStart - context,
      min p.oldLines.size (last.oldStart + last.oldCount + context)),
    (first.newStart - context,
      min p.newLines.size (last.newStart + last.newCount + context)))

/-- The lines of a group of changes, from a line of the old text on. -/
def unifiedLines (p : DiffPair) (blank : Octets) (stop : Nat) : Nat → List Hunk → Octets
  | start, [] => allMarked (' ' :: blank) p.oldLines start (stop - start)
  | start, h :: hs =>
    allMarked (' ' :: blank) p.oldLines start (h.oldStart - start) ++
      allMarked ('-' :: blank) p.oldLines h.oldStart h.oldCount ++
      allMarked ('+' :: blank) p.newLines h.newStart h.newCount ++
      unifiedLines p blank stop (h.oldStart + h.oldCount) hs

/-- A group of changes with the lines around them, old and new lines among each other. -/
def unifiedText (p : DiffPair) (context : Nat) (tabbed : Bool) (group : List Hunk) : Octets :=
  match group.head?, group.getLast? with
  | some first, some last =>
    let ((a, b), (c, d)) := p.extent context first last
    let range (start count : Nat) : Octets :=
      if count = 0 then Text.decimal start ++ ",0".toList
      else if count = 1 then Text.decimal (start + 1)
      else Text.decimal (start + 1) ++ ',' :: Text.decimal count
    "@@ -".toList ++ range a (b - a) ++ " +".toList ++ range c (d - c) ++ " @@\n".toList ++
      p.unifiedLines (if tabbed then ['\t'] else []) b a group
  | _, _ => []

/-- One side of a group of changes: the lines from `start` to `stop`, those of changes marked.
`sides` gives the place of a change on this side and the number of its lines here and on the
other. -/
def copiedLines (lines : Array Octets) (blank mark : Char) (sides : Hunk → Nat × Nat × Nat)
    (stop : Nat) : Nat → List Hunk → Octets
  | start, [] => allMarked [' ', blank] lines start (stop - start)
  | start, h :: hs =>
    let (place, count, others) := sides h
    allMarked [' ', blank] lines start (place - start) ++
      allMarked [if others = 0 then mark else '!', blank] lines place count ++
      copiedLines lines blank mark sides stop (place + count) hs

/-- A group of changes with the lines around them, the old lines in front of the new ones. -/
def copiedText (p : DiffPair) (context : Nat) (tabbed : Bool) (group : List Hunk) : Octets :=
  match group.head?, group.getLast? with
  | some first, some last =>
    let ((a, b), (c, d)) := p.extent context first last
    let blank := if tabbed then '\t' else ' '
    "***************\n*** ".toList ++ range a (b - a) ++ " ****\n".toList ++
      (if group.all fun h => h.oldCount = 0 then []
        else copiedLines p.oldLines blank '-' (fun h => (h.oldStart, h.oldCount, h.newCount)) b a
          group) ++
      "--- ".toList ++ range c (d - c) ++ " ----\n".toList ++
      (if group.all fun h => h.newCount = 0 then []
        else copiedLines p.newLines blank '+' (fun h => (h.newStart, h.newCount, h.oldCount)) d c
          group)
  | _, _ => []

/-- The two lines in front of groups of changes. -/
def heading (p : DiffPair) (r : DiffRequest) (old new format : String) : Octets :=
  let line (mark : String) (label? : Option Octets) (name : Octets) (time : Int) : Octets :=
    mark.toList ++ ' ' ::
      label?.getD (name ++ '\t' :: Calendar.shown time 0 format.toList) ++ ['\n']
  line old r.labels.head? p.oldName p.oldTime ++ line new r.labels[1]? p.newName p.newTime

/-- The changes between two texts, and which of them do not count by themselves. For an editor all
lines end with a newline. -/
def changes (p : DiffPair) (r : DiffRequest) : List Hunk × (Hunk → Bool) :=
  let whole (line : Octets) : Octets :=
    if r.form = .script && line.getLast? ≠ some '\n' then line ++ ['\n'] else line
  let (old, new) := (p.oldLines.map whole, p.newLines.map whole)
  let pair : LinePair := ⟨old.map r.key, new.map r.key⟩
  let isMinor (h : Hunk) : Bool :=
    r.ignoresBlankLines &&
      (p.oldLines.extract h.oldStart (h.oldStart + h.oldCount)).all r.isBlank &&
      (p.newLines.extract h.newStart (h.newStart + h.newCount)).all r.isBlank
  (pair.hunks r.context old.toList new.toList, isMinor)

/-- The text that shows changes. -/
def changesText (p : DiffPair) (r : DiffRequest) (hunks : List Hunk) (isMinor : Hunk → Bool) :
    Octets :=
  let major := hunks.filter (!isMinor ·)
  let grouped := (groups r.context isMinor hunks).filter fun g => g.any (!isMinor ·)
  match r.form with
  | .normal => major.flatMap (p.normalText r.tabbed)
  | .script => major.reverse.flatMap p.scriptText
  | .counted => major.flatMap p.countedText
  | .unified n =>
    p.heading r "---" "+++" "%Y-%m-%d %H:%M:%S.%N %z" ++ grouped.flatMap (p.unifiedText n r.tabbed)
  | .copied n =>
    p.heading r "***" "---" "%a %b %e %T %Y" ++ grouped.flatMap (p.copiedText n r.tabbed)
  | .brief => []

end DiffPair

/-! ## Files and directories -/

/-- What stands for a file that is compared. -/
inductive DiffSide where
  | missing
  | folder (names : List String)
  | text (content : Octets) (time : Int)

namespace DiffSide

/-- What a name stands for, or why it cannot be read. The program's own input is read to its end. -/
def read (e : Effect) (name : Octets) : Except OsError (DiffSide × Effect) :=
  if name = ['-'] then
    (e.readAll name).map fun (content, e) => (.text content e.files.time, e)
  else
    match e.files.entry (Octets.toText name) with
    | .ok (.directory _ d) => .ok (.folder d.names, e)
    | .ok entry =>
      (e.readAll name).map fun (content, e) => (.text content (e.files.modifiedAt entry), e)
    | .error x => .error x

/-- A text under a name in quotes if that is needed. -/
def quoted (name : Octets) : Octets := QuotedName.ifNeeded name

end DiffSide

namespace DiffRequest

/-- A line of text. -/
def said (e : Effect) (code : Nat) (parts : List Octets) : Effect :=
  (e.print (parts.flatten ++ ['\n'])).withCode code

/-- Compares two texts. Inside directories the names stand in front of the changes. -/
def compareTexts (r : DiffRequest) (program : Octets) (isInside : Bool) (names : Octets × Octets)
    (old new : Octets) (times : Int × Int) (e : Effect) : Effect :=
  let same (e : Effect) : Effect :=
    if r.reportsSame then
      said e 0 ["Files ".toList, names.1, " and ".toList, names.2, " are identical".toList]
    else e
  let isBinary (s : Octets) : Bool := !r.anyText && s.any fun c => c.toNat = 0
  let differ (what : String) : Effect :=
    said e 1 [what.toList, names.1, " and ".toList, names.2, " differ".toList]
  let complained (s name : Octets) (e : Effect) : Effect :=
    if r.form = .script && !s.isEmpty && s.getLast? ≠ some '\n' then
      e.fail program 2 (name ++ ": No newline at end of file\n".toList)
    else e
  let complained (e : Effect) : Effect := complained new names.2 (complained old names.1 e)
  if old == new then complained (same e)
  else if isBinary old || isBinary new then
    differ (if r.form = .brief then "Files " else "Binary files ")
  else
    let p : DiffPair :=
      ⟨names.1, names.2, times.1, times.2, (linesWithEnds old).toArray, (linesWithEnds new).toArray⟩
    let (hunks, isMinor) := p.changes r
    if hunks.all isMinor then complained (same e)
    else if r.form = .brief then differ "Files "
    else
      let labelled (k : Nat) (name : Octets) : Octets := (r.labels[k]?).getD name
      let front :=
        if isInside then
          "diff".toList ++ r.switches.flatMap (' ' :: DiffSide.quoted ·) ++
            ' ' :: DiffSide.quoted (labelled 0 names.1) ++
            ' ' :: DiffSide.quoted (labelled 1 names.2) ++ ['\n']
        else []
      complained ((e.print (front ++ p.changesText r hunks isMinor)).withCode 1)

/-- What an entry is called. -/
def kindOf : DiffSide → Octets
  | .missing => "nothing".toList
  | .folder _ => "directory".toList
  | .text content _ =>
    if content.isEmpty then "regular empty file".toList else "regular file".toList

/-- A path below a directory. -/
def below (directory : Octets) (name : String) : Octets :=
  directory ++ (if directory.getLast? = some '/' then [] else ['/']) ++ Octets.ofText name

/-- What is read of a name, if missing files count as empty ones: nothing if there is no such
file. -/
def sideOf (r : DiffRequest) (program : Octets) (name : Octets) (e : Effect) :
    Option DiffSide × Effect :=
  match DiffSide.read e name with
  | .ok (side, e) => (some side, e)
  | .error x =>
    if r.fillsMissing && x = .notFound then (some .missing, e)
    else (none, e.fail program 2 (name ++ ": ".toList ++ x.reason.toList))

/-- Compares what two names stand for. The first argument bounds the depth of directories. -/
def compare (r : DiffRequest) (program : Octets) :
    Nat → Nat → Octets × Octets → Effect → Effect
  | 0, _, _, e => e
  | steps + 1, depth, names, e =>
    let (old?, e) := r.sideOf program names.1 e
    let isMissing := old?.isNone
    let (new?, e) :=
      if names.2 = names.1 && !isMissing then (old?, e) else r.sideOf program names.2 e
    match old?, new? with
    | some .missing, some .missing =>
      (e.fail program 2 (names.1 ++ ": No such file or directory".toList)).fail program 2
        (names.2 ++ ": No such file or directory".toList)
    | some (.text a m), some (.text b n) =>
      r.compareTexts program (0 < depth) names a b (m, n) e
    | some (.text a m), some .missing =>
      r.compareTexts program (0 < depth) names a [] (m, 0) e
    | some .missing, some (.text b n) =>
      r.compareTexts program (0 < depth) names [] b (0, n) e
    | some old, some new =>
      let entries : DiffSide → Option (List String)
        | .folder names => some names
        | .missing => some []
        | .text _ _ => none
      match entries old, entries new with
      | some first, some second =>
        if names.1 = names.2 then e
        else if depth ≠ 0 && !r.recursive then
          said e 0 ["Common subdirectories: ".toList, names.1, " and ".toList, names.2]
        else
          let isKept (name : String) : Bool :=
            !r.excluded.any fun x => x.fits (Octets.ofText name)
          let all := ((first ++ second.filter (!first.contains ·)).filter isKept).mergeSort
            (fun a b => decide (a ≤ b))
          all.foldl (fun e name =>
            let only (directory : Octets) : Effect :=
              said e 1 ["Only in ".toList, directory, ": ".toList, Octets.ofText name]
            if !r.fillsMissing && !first.contains name then only names.2
            else if !r.fillsMissing && !second.contains name then only names.1
            else
              compare r program steps (depth + 1) (below names.1 name, below names.2 name) e) e
      | _, _ =>
        if depth = 0 then
          let last (s : Octets) : String := Octets.toText ((s.splitOn '/').getLastD s)
          let names :=
            if (entries old).isSome then (below names.1 (last names.2), names.2)
            else (names.1, below names.2 (last names.1))
          compare r program steps 0 names e
        else
          said e 1 ["File ".toList, names.1, " is a ".toList, kindOf old, " while file ".toList,
            names.2, " is a ".toList, kindOf new]
    | _, _ => e

/-- Compares two operands. A directory is not compared with the program's own input. -/
def run (r : DiffRequest) (i : Invocation) (old new : Octets) : Effect :=
  let isFolder (name : Octets) : Bool := name ≠ ['-'] && i.files.isDirectory (Octets.toText name)
  if (old = ['-'] && isFolder new) || (new = ['-'] && isFolder old) then
    i.start.fail i.name 2 "cannot compare '-' to a directory".toList
  else r.compare i.name 64 0 (old, new) i.start

end DiffRequest

/-- Shows the differences between files. -/
def diffProgram : Program := fun i =>
  let letters : List (Char × ValueKind) :=
    "qscuenrNiwbBZaTtEdHp0123456789".toList.map (·, .never) ++ "CULxI".toList.map (·, .always)
  let table : OptionTable :=
    ⟨letters,
      [("brief", 'q', .never), ("report-identical-files", 's', .never), ("context", 'C', .optional),
        ("unified", 'U', .optional), ("ed", 'e', .never), ("rcs", 'n', .never),
        ("normal", 'o', .never), ("recursive", 'r', .never), ("new-file", 'N', .never),
        ("ignore-case", 'i', .never), ("ignore-all-space", 'w', .never),
        ("ignore-space-change", 'b', .never), ("ignore-blank-lines", 'B', .never),
        ("ignore-trailing-space", 'Z', .never), ("text", 'a', .never), ("label", 'L', .always),
        ("initial-tab", 'T', .never), ("expand-tabs", 't', .never), ("minimal", 'd', .never),
        ("exclude", 'x', .always), ("color", 'K', .optional), ("strip-trailing-cr", 'R', .never),
        ("show-c-function", 'p', .never), ("ignore-matching-lines", 'I', .always)], false⟩
  let hint := i.name ++ ": ".toList ++ OptionTable.hint i.name
  let refuse (text : Octets) : Effect := (i.start.fail i.name 2 text).complain hint
  let problem? (o : GivenOption) : Option Octets :=
    if (o.1 = 'U' ∨ o.1 = 'C') ∧ !(o.2.all Char.isDigit) then
      some ("invalid context length ".toList ++ QuotedName.ofArgument o.2 ++ '\n' :: hint.dropLast)
    else none
  table.runHinting "diff" 2 problem? hint i fun given operands =>
    let digits := (given.filter fun o => o.1.isDigit).map Prod.fst
    let lengths := given.filterMap fun o =>
      if o.1 = 'U' ∨ o.1 = 'C' then
        some (if o.2.isEmpty then 3 else (Numeral.digitsFrom 10 0 o.2).1)
      else if o.1 = 'u' ∨ o.1 = 'c' ∨ o.1 = 'p' then some 3
      else none
    let context :=
      if digits.isEmpty then lengths.foldl max 0 else (Numeral.digitsFrom 10 0 digits).1
    let explicit := given.filterMap fun o =>
      if o.1 = 'U' ∨ o.1 = 'C' then some ((Numeral.digitsFrom 10 0 o.2).1) else none
    let context := match digits, explicit with
      | [], n :: ns => ns.foldl max n
      | _, _ => context
    let forms := given.filterMap fun o =>
      match o.1 with
      | 'u' | 'U' => some (DiffForm.unified context)
      | 'c' | 'C' => some (DiffForm.copied context)
      | 'e' => some .script
      | 'n' => some .counted
      | 'o' => some .normal
      | _ => none
    let form := forms.headD (if isGiven given 'p' then .copied context else .normal)
    let labels := (given.filter fun o => o.1 = 'L').map Prod.snd
    if forms.any (· ≠ form) then refuse "conflicting output style options".toList
    else if 2 < labels.length then i.start.fail i.name 2 "too many file label options".toList
    else
      let r : DiffRequest :=
        { form := if isGiven given 'q' then .brief else form
          ignoresCase := isGiven given 'i'
          ignoresBlanks := isGiven given 'w'
          ignoresAmounts := isGiven given 'b'
          ignoresEnds := isGiven given 'Z'
          ignoresBlankLines := isGiven given 'B'
          reportsSame := isGiven given 's'
          fillsMissing := isGiven given 'N'
          recursive := isGiven given 'r'
          anyText := isGiven given 'a'
          tabbed := isGiven given 'T'
          labels := labels
          excluded := (given.filter fun o => o.1 = 'x').map fun o => Shell.Pattern.ofName o.2
          switches := i.args.filter fun a => !operands.contains a && a ≠ ['-', '-'] }
      match operands with
      | [] | [_] =>
        refuse ("missing operand after ".toList ++ QuotedName.ofArgument (i.args.getLastD i.name))
      | [old, new] => r.run i old new
      | _ :: _ :: extra :: _ => refuse ("extra operand ".toList ++ QuotedName.ofArgument extra)

end CallForest
