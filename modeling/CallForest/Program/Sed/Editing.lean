import CallForest.Program.Sed.Script

/-!
# Editing lines by a script

A script is run on each line in turn. Its commands work on the line at hand, which is the pattern
space, and on a text that is kept aside, the hold space. A line knows whether something ended it:
the last line of a content may have no end, and then gets none where it is printed, unless more
follows.
-/

namespace CallForest

namespace Sed

/-- A line, and whether something ended it. -/
structure Line where
  text : Octets
  isEnded : Bool

/-- The lines of a content. -/
def linesOf (newline : Char) (content : Octets) : List Line :=
  let lines := endedBy newline content
  lines.zipIdx.map fun (l, n) =>
    ⟨l, n + 1 < lines.length || content.getLast? == some newline⟩

/-- Where lines are printed to: the place of the edited text, the two outputs of the program, or a
file. -/
inductive Destination where
  | result
  | output
  | errors
  | file (path : Octets)
  deriving DecidableEq

/-- The destination that a name in a script means. -/
def Destination.ofName (name : Octets) : Destination :=
  if name = "/dev/stdout".toList then .output
  else if name = "/dev/stderr".toList then .errors
  else .file name

/-- The state of editing. -/
structure Editing where
  space : Line
  hold : Line
  /-- What ends lines. -/
  newline : Char
  number : Nat
  /-- The lines that are still to come. -/
  coming : List Line
  /-- What is printed but not to files, the last first. -/
  printed : List (Destination × Octets)
  /-- The destinations whose last line is still to be ended. -/
  owing : List Destination
  /-- What is printed behind the line, the last first. -/
  queued : List Octets
  substituted : Bool
  lastPattern : Option Regex
  /-- The commands whose ranges have begun, with the line at which they end if that is known. -/
  active : List (Nat × Option Nat)
  /-- The lines that are left of the files that are read line by line. -/
  opened : List (Octets × List Line)
  files : FileSystem

/-- How a script goes on. -/
inductive Step where
  | next (index : Nat)
  | endCycle (prints : Bool)
  /-- Begins again with what is left of the pattern space. -/
  | again
  | quit (prints : Bool) (code : Nat)
  /-- Gives up, because no expression was used before. -/
  | fails

/-- How editing ends. -/
inductive Outcome where
  | done
  | quit (code : Nat)
  | failed

namespace Editing

/-! ## Printing -/

/-- Prints a text, behind what ends the line before. -/
def put (e : Editing) (d : Destination) (s : Octets) : Editing :=
  let s := if d ∈ e.owing then e.newline :: s else s
  let e := { e with owing := e.owing.filter (· ≠ d) }
  if s.isEmpty then e
  else
    match d with
    | .file path =>
      { e with files := (e.files.append (Octets.toText path) (Octets.toBytes s)).1 }
    | d => { e with printed := (d, s) :: e.printed }

/-- Prints a line. -/
def print (e : Editing) (d : Destination) (l : Line) : Editing :=
  if l.isEnded then e.put d (l.text ++ [e.newline])
  else
    let e := e.put d l.text
    { e with owing := d :: e.owing }

/-- The first of the lines in the pattern space. -/
def firstLine (e : Editing) : Line :=
  let first := e.space.text.takeWhile (· ≠ e.newline)
  ⟨first, e.space.isEnded || first.length < e.space.text.length⟩

/-- Prints what is queued behind the line. -/
def flushed (e : Editing) : Editing :=
  if e.queued.isEmpty then e
  else { e.put .result e.queued.reverse.flatten with queued := [] }

/-- Takes the next line. -/
def nextLine (e : Editing) : Editing :=
  match e.coming with
  | [] => e
  | l :: ls => { e with space := l, coming := ls, number := e.number + 1, substituted := false }

/-- A line with all of its characters made visible; unless the width is zero, it goes on behind a
backslash where it would get wider. -/
def visible (width : Nat) (s : Octets) : Octets :=
  let shown (c : Char) : Octets :=
    if c = '\\' then ['\\', '\\'] else if QuotedName.isShown c then [c] else QuotedName.escaped c
  let rec wrap (column : Nat) : List Octets → Octets
    | [] => ['$']
    | t :: ts =>
      if width = 0 || column + t.length < width then t ++ wrap (column + t.length) ts
      else '\\' :: '\n' :: t ++ wrap t.length ts
  wrap 0 (s.map shown)

/-! ## Addresses -/

/-- Whether an address means the line at hand, after which its expression is the last used. -/
def test (e : Editing) : Address → Bool × Editing
  | .line n => (e.number = n, e)
  | .last => (e.coming.isEmpty, e)
  | .fits r ignoreCase =>
    match r.or e.lastPattern with
    | none => (false, e)
    | some r => ((r.find? ignoreCase e.space.text).isSome, { e with lastPattern := some r })
  | .every first step => (first ≤ e.number && (e.number - first) % step = 0, e)
  | .further _ | .multiple _ => (false, e)

/-- Whether a command is for the line at hand. -/
def isMeant (e : Editing) (index : Nat) (i : Instruction) : Bool × Editing :=
  let ended (e : Editing) : Editing := { e with active := e.active.filter fun a => a.1 ≠ index }
  let lasting (e : Editing) (last : Option Nat) : Editing :=
    { ended e with active := (index, last) :: (ended e).active }
  let upTo (e : Editing) (n : Nat) : Editing := if n ≤ e.number then e else lasting e (some n)
  match i.first, i.second with
  | none, _ => (true, e)
  | some a, none => e.test a
  | some a, some b =>
    let running := e.active.lookup index
    match running, a with
    | some (some n), _ => if e.number < n then (true, e) else (e.number = n, ended e)
    | none, .line 0 =>
      if e.number = 1 then
        let (last, e) := e.test b
        (true, if last then e else lasting e none)
      else (false, e)
    | some none, _ =>
      let (last, e) := e.test b
      (true, if last then ended e else e)
    | none, a =>
      let (begins, e) := e.test a
      if !begins then (false, e)
      else
        match b with
        | .line n => (true, upTo e n)
        | .further n => (true, upTo e (e.number + n))
        | .multiple n => (true, if n = 0 then e else upTo e ((e.number / n + 1) * n))
        | _ => (true, lasting e none)

/-- Whether a command needs the expression that was used last. -/
def needsPattern (i : Instruction) : Bool :=
  let isOpen : Option Address → Bool
    | some (.fits none _) => true
    | _ => false
  isOpen i.first || match i.action with
    | .substitute s => s.pattern.isNone && i.first.isNone
    | _ => false

/-! ## Substitutions -/

/-- A text in the case that is asked for: `next` for its first character, `mode` for the others. -/
def inCase (mode next : Option Char) : Octets → Octets
  | [] => []
  | c :: cs =>
    let shown (how : Option Char) (c : Char) : Char :=
      match how with
      | some 'U' | some 'u' => c.toUpper
      | some 'L' | some 'l' => c.toLower
      | _ => c
    shown (next.or mode) c :: cs.map (shown mode)

/-- What is put in the place of a match. -/
def replacement (s : Substitution) (text : Octets) (a : Nat) (q : Regex.Place) : Octets :=
  let add (state : List Octets × Option Char × Option Char) (t : Octets) :=
    let (pieces, mode, next) := state
    (inCase mode next t :: pieces, mode, if t.isEmpty then next else none)
  let (pieces, _) := s.parts.foldl (fun state p =>
    match p with
    | .text t => add state t
    | .group 0 => add state ((text.drop a).take (q.offset - a))
    | .group n => add state (q.groupText text n)
    | .letterCase c =>
      let (pieces, mode, _) := state
      if c = 'u' ∨ c = 'l' then (pieces, mode, some c)
      else (pieces, if c = 'E' then none else some c, none))
    (([] : List Octets), (none : Option Char), (none : Option Char))
  pieces.reverse.flatten

/-- Puts replacements in the place of the matches from a place on; `n` counts the matches. The first
argument bounds their number. -/
def replaceFrom (s : Substitution) (r : Regex) (text : Octets) : Nat → Nat → Regex.Place →
    Octets × Bool
  | 0, _, p => (p.rest, false)
  | steps + 1, n, p =>
    match r.findFrom? s.flags.ignoreCase text (text.length + 1) p with
    | none => (p.rest, false)
    | some (a, q) =>
      let before := p.rest.take (a - p.offset)
      let number := s.flags.number.getD 1
      let wanted := n = number || (s.flags.all && number ≤ n)
      let shown := if wanted then replacement s text a q else (text.drop a).take (q.offset - a)
      if wanted && !s.flags.all then (before ++ shown ++ q.rest, true)
      else if a = q.offset then
        match q.rest with
        | c :: rest =>
          let (t, done) := replaceFrom s r text steps (n + 1) (q.advance c rest)
          (before ++ shown ++ c :: t, done || wanted)
        | [] => (before ++ shown, wanted)
      else
        -- Behind a match no empty one begins.
        let (t, done) :=
          match r.matchAt? s.flags.ignoreCase text q, q.rest with
          | some z, c :: rest =>
            if z.offset = q.offset then
              let (t, done) := replaceFrom s r text steps (n + 1) (q.advance c rest)
              (c :: t, done)
            else replaceFrom s r text steps (n + 1) q
          | some _, [] => ([], false)
          | none, _ => replaceFrom s r text steps (n + 1) q
        (before ++ shown ++ t, done || wanted)

/-- Makes a substitution. -/
def substitute (e : Editing) (s : Substitution) : Editing :=
  match s.pattern.or e.lastPattern with
  | none => e
  | some r =>
    let e := { e with lastPattern := some r }
    let text := e.space.text
    let (text, done) := replaceFrom s r text (text.length + 2) 1 (.ofText text)
    if !done then e
    else
      let e := { e with space := ⟨text, e.space.isEnded⟩, substituted := true }
      let e := if s.flags.prints then e.print .result e.space else e
      match s.flags.file with
      | some path => e.print (.ofName path) e.space
      | none => e

/-! ## Commands -/

/-- Does what a command without arguments does. -/
def simple (e : Editing) (quiet : Bool) (index : Nat) (c : Char) : Step × Editing :=
  let go (e : Editing) : Step × Editing := (.next (index + 1), e)
  match c with
  | '=' => go (e.put .result (Text.decimal e.number ++ ['\n']))
  | 'd' => (.endCycle false, e)
  | 'D' =>
    match e.space.text.dropWhile (· ≠ e.newline) with
    | _ :: rest => (.again, { e with space := ⟨rest, e.space.isEnded⟩ })
    | [] => (.endCycle false, e)
  | 'g' => go { e with space := e.hold }
  | 'G' => go { e with space := ⟨e.space.text ++ e.newline :: e.hold.text, e.hold.isEnded⟩ }
  | 'h' => go { e with hold := e.space }
  | 'H' => go { e with hold := ⟨e.hold.text ++ e.newline :: e.space.text, e.space.isEnded⟩ }
  | 'x' => go { e with space := e.hold, hold := e.space }
  | 'z' => go { e with space := ⟨[], e.space.isEnded⟩ }
  | 'p' => go (e.print .result e.space)
  | 'P' => go (e.print .result e.firstLine)
  | 'n' =>
    if e.coming.isEmpty then (.endCycle true, e)
    else go ((if quiet then e else e.print .result e.space).flushed).nextLine
  | 'N' =>
    if e.coming.isEmpty then (.endCycle true, e)
    else
      let front := e.space.text
      let e := e.flushed.nextLine
      go { e with space := ⟨front ++ e.newline :: e.space.text, e.space.isEnded⟩ }
  | _ => go e

/-- Queues the next line of a file that is read line by line. -/
def appendLine (e : Editing) (path : Octets) : Editing :=
  let lines := (e.opened.lookup path).getD
    (match e.files.read (Octets.toText path) with
      | .ok bs => linesOf e.newline (Octets.ofBytes bs)
      | .error _ => [])
  let e := { e with opened := (path, lines.drop 1) :: e.opened.filter fun o => o.1 ≠ path }
  match lines with
  | l :: _ => { e with queued := (l.text ++ if l.isEnded then [e.newline] else []) :: e.queued }
  | [] => e

/-- The position behind the end of the block that begins before `index`. -/
def behindBlock (script : Script) (index : Nat) : Nat :=
  let rec go (depth n : Nat) : List Instruction → Nat
    | [] => n
    | i :: rest =>
      match i.action, depth with
      | .openBlock, _ => go (depth + 1) (n + 1) rest
      | .closeBlock, 0 => n + 1
      | .closeBlock, d + 1 => go d (n + 1) rest
      | _, _ => go depth (n + 1) rest
  go 0 index (script.drop index)

/-- The position of a label; the end of the script if there is none. -/
def labelled (script : Script) (name : Octets) : Nat :=
  if name.isEmpty then script.length
  else
    (script.findIdx? fun i =>
      match i.action with
      | .label l => l == name
      | _ => false).getD script.length

/-- The character that another becomes: that of the second text at its place in the first. -/
def exchanged (first second : Octets) (c : Char) : Char :=
  match first.idxOf? c with
  | some n => second.getD n c
  | none => c

/-- Does what a command does. `width` is that of the pieces of visible lines. -/
def perform (e : Editing) (script : Script) (quiet : Bool) (width : Nat) (index : Nat)
    (i : Instruction) : Step × Editing :=
  let go (e : Editing) : Step × Editing := (.next (index + 1), e)
  match i.action with
  | .openBlock | .closeBlock | .label _ => go e
  | .simple c => e.simple quiet index c
  | .list own => go (e.put .result (visible (own.getD width) e.space.text ++ ['\n']))
  | .substitute s => go (e.substitute s)
  | .exchange first second =>
    go { e with space := ⟨e.space.text.map (exchanged first second), e.space.isEnded⟩ }
  | .quit prints code => (.quit prints code, e)
  | .append text => go { e with queued := text :: e.queued }
  | .insert text => go (e.put .result text)
  | .change text =>
    let inRange := i.second.isSome && (e.active.lookup index).isSome && !i.negated
    (.endCycle false, if inRange then e else e.put .result text)
  | .appendFile path =>
    let content := match e.files.read (Octets.toText path) with
      | .ok bs => Octets.ofBytes bs
      | .error _ => []
    go { e with queued := content :: e.queued }
  | .appendLine path => go (e.appendLine path)
  | .write path => go (e.print (.ofName path) e.space)
  | .writeFirst path => go (e.print (.ofName path) e.firstLine)
  | .branch kind label =>
    let taken := match kind with
      | .always => true
      | .ifSubstituted => e.substituted
      | .unlessSubstituted => !e.substituted
    let e := match kind with
      | .always => e
      | _ => { e with substituted := false }
    if taken then (.next (labelled script label), e) else go e

/-! ## Running -/

/-- Runs the script on the line at hand, from a position on. The first argument bounds the number of
commands. -/
def runFrom (script : Script) (quiet : Bool) (width : Nat) :
    Nat → Nat → Editing → Step × Editing
  | 0, _, e => (.quit false 0, e)
  | steps + 1, index, e =>
    match script[index]? with
    | none => (.endCycle true, e)
    | some i =>
      if needsPattern i && e.lastPattern.isNone then (.fails, e)
      else
        let (meant, e) := e.isMeant index i
        if meant != i.negated then
          match e.perform script quiet width index i with
          | (.next n, e) => runFrom script quiet width steps n e
          | other => other
        else
          match i.action with
          | .openBlock => runFrom script quiet width steps (behindBlock script (index + 1)) e
          | _ => runFrom script quiet width steps (index + 1) e

/-- Runs the script on all lines that come, the one at hand first. The first argument bounds the
number of rounds. -/
def runAll (script : Script) (quiet : Bool) (width : Nat) : Nat → Editing → Outcome × Editing
  | 0, e => (.done, e)
  | rounds + 1, e =>
    let (step, e) := runFrom script quiet width 100000 0 e
    let printed (prints : Bool) (e : Editing) : Editing :=
      (if prints && !quiet then e.print .result e.space else e).flushed
    match step with
    | .quit prints code =>
      (.quit code, if prints then (printed true e).put .result [] else e)
    | .fails => (.failed, e)
    | .again => runAll script quiet width rounds e.flushed
    | .endCycle prints =>
      let e := printed prints e
      if e.coming.isEmpty then (.done, e) else runAll script quiet width rounds e.nextLine
    | .next _ => (.done, e)

/-- Edits a content whose lines a character ends. -/
def ofContent (script : Script) (quiet : Bool) (width : Nat) (newline : Char)
    (owing : List Destination) (files : FileSystem) (content : Octets) : Outcome × Editing :=
  let lines := linesOf newline content
  let start : Editing :=
    { space := ⟨[], true⟩
      hold := ⟨[], true⟩
      newline := newline
      number := 0
      coming := lines
      printed := []
      owing := owing
      queued := []
      substituted := false
      lastPattern := none
      active := []
      opened := []
      files := files }
  if lines.isEmpty then (.done, start)
  else runAll script quiet width (lines.length * 2 + 2000) start.nextLine

end Editing

end Sed

end CallForest
