import CallForest.Program.Sed.Editing

/-!
# Editing

`sed` edits the lines of its inputs by a script and prints them, or puts them in the place of the
files that they came from.
-/

namespace CallForest

namespace Sed

/-- A piece of a script, and the file that it came from unless it was an argument. -/
structure ScriptPiece where
  file : Option Octets
  text : Octets

/-- The pieces of the script that options and operands give, and the operands that are left. -/
def scriptPieces (given : List GivenOption) (operands : List Octets) (files : FileSystem) :
    Except Octets (List ScriptPiece × List Octets) := do
  let pieces ← (given.filter fun o => o.1 = 'e' || o.1 = 'f').mapM fun o =>
    if o.1 = 'e' then .ok ⟨none, o.2⟩
    else
      match files.read (Octets.toText o.2) with
      | .ok bs => .ok ⟨some o.2, Octets.ofBytes bs⟩
      | .error .isDirectory =>
        .error ("read error on ".toList ++ o.2 ++ ": Is a directory".toList)
      | .error x =>
        .error ("couldn't open file ".toList ++ o.2 ++ ": ".toList ++ x.reason.toList)
  match pieces, operands with
  | [], [] => return ([], [])
  | [], s :: rest => return ([⟨none, s⟩], rest)
  | ps, rest => return (ps, rest)

/-- How a place of a script is told: by the number of the expression and of the character, or by the
file and the line. `number` is that of the next expression, and `position` counts from the beginning
of the next piece. -/
def placeText (isFront : Bool) : (number : Nat) → List ScriptPiece → (position : Nat) → Octets
  | _, [], _ => []
  | number, p :: ps, position =>
    if p.text.length < position && !ps.isEmpty then
      placeText isFront (if p.file.isSome then number else number + 1) ps
        (position - p.text.length - 1)
    else
      match p.file with
      | some file =>
        file ++ " line ".toList ++ Text.decimal ((p.text.take (position - 1)).count '\n' + 1)
      | none =>
        "-e expression #".toList ++ Text.decimal number ++ ", char ".toList ++
          Text.decimal (if isFront then 0 else position)

/-- Complains of a fault of a script. -/
def failWith (i : Invocation) (e : Effect) (pieces : List ScriptPiece) (size : Nat) (f : Fault) :
    Effect :=
  let place (isFront : Bool) (position : Nat) : Octets :=
    let shown := placeText isFront 1 pieces position
    (if (['-', 'e']).isPrefixOf shown then shown else "file ".toList ++ shown) ++ ": ".toList
  match f.place with
  | .left n => e.fail i.name 1 (place false (size - n) ++ f.text.toList)
  | .front => e.fail i.name 1 (place true size ++ f.text.toList)
  | .nowhere => e.fail i.name 4 f.text.toList

/-- The contents of inputs, each as what is to be edited as a whole; what cannot be read is
complained of. A directory ends the reading. -/
def contents (separate : Bool) (i : Invocation) (newline : Char) :
    List Octets → Effect → List Octets → List Octets × Effect
  | [], e, done => (done.reverse, e)
  | name :: names, e, done =>
    match e.readAll name with
    | .ok (content, e) =>
      match done, separate with
      | last :: others, false =>
        let gap := !last.isEmpty && last.getLast? ≠ some newline
        contents separate i newline names e
          ((last ++ (if gap then [newline] else []) ++ content) :: others)
      | done, _ => contents separate i newline names e (content :: done)
    | .error x =>
      if x = .isDirectory || x = .badDescriptor then
        let shown := if isOwnInput name then "stdin".toList else name
        (done.reverse,
          e.fail i.name 4 ("read error on ".toList ++ shown ++ ": ".toList ++ x.reason.toList))
      else
        contents separate i newline names
          (e.fail i.name 2 ("can't read ".toList ++ name ++ ": ".toList ++ x.reason.toList)) done

/-- How a script is run. -/
structure Mode where
  script : Script
  pieces : List ScriptPiece
  quiet : Bool
  width : Nat
  newline : Char
  /-- Whether the program's own input is all that is read. -/
  isAlone : Bool

namespace Mode

/-- What was printed, to the program's outputs; the last comes first. -/
def written (printed : List (Destination × Octets)) : List (Bool × Octets) :=
  printed.map fun (d, s) => (decide (d = .errors), s)

/-- Ends as editing ended. -/
def ended (m : Mode) (i : Invocation) (e : Effect) : Outcome → Effect
  | .done => e
  | .quit code => if e.code = 0 then e.withCode code else e
  | .failed =>
    failWith i e m.pieces 0 ⟨"no previous regular expression", .front⟩

/-- Edits contents one after the other and prints them. -/
def printAll (m : Mode) (i : Invocation) : List Destination → List Octets → Effect → Effect
  | _, [], e => e
  | owing, content :: more, e =>
    let (outcome, editing) :=
      Editing.ofContent m.script m.quiet m.width m.newline owing e.files content
    let e := { e with files := editing.files, written := written editing.printed ++ e.written }
    match outcome with
    | .done => m.printAll i editing.owing more e
    | outcome =>
      let rest := editing.coming.foldl (fun n l => n + l.text.length + l.isEnded.toNat) 0
      m.ended i (if m.isAlone then e.leave i 4096 rest else e) outcome

/-- The name of the copy that is kept of a file: a star stands for its name, which otherwise comes
in front. -/
def copyName (suffix name : Octets) : Octets :=
  if '*' ∈ suffix then suffix.flatMap fun c => if c = '*' then name else [c] else name ++ suffix

/-- Edits files in their places; of each, a copy is kept unless the suffix is empty. -/
def editInPlace (m : Mode) (i : Invocation) (suffix : Octets) : List Octets → Effect → Effect
  | [], e => e
  | name :: names, e =>
    match e.files.read (Octets.toText name) with
    | .error .isDirectory =>
      m.editInPlace i suffix names
        (e.fail i.name 4 ("couldn't edit ".toList ++ name ++ ": not a regular file".toList))
    | .error x =>
      m.editInPlace i suffix names
        (e.fail i.name 2 ("can't read ".toList ++ name ++ ": ".toList ++ x.reason.toList))
    | .ok bs =>
      let (outcome, editing) := Editing.ofContent m.script m.quiet m.width m.newline [] e.files
        (Octets.ofBytes bs)
      let (result, other) := editing.printed.partition fun p => decide (p.1 = .result)
      let output := Octets.toBytes (result.reverse.flatMap Prod.snd)
      let e := { e with files := editing.files, written := written other ++ e.written }
      let copied := if suffix.isEmpty then e.files
        else (e.files.write (Octets.toText (copyName suffix name)) bs).1
      let edited := { e with files := (copied.write (Octets.toText name) output).1 }
      match outcome with
      | .done => m.editInPlace i suffix names edited
      | .quit _ => m.ended i edited outcome
      | .failed => m.ended i e outcome

end Mode

/-- Makes the files that a script writes to, all of them empty. -/
def makeOutputs (script : Script) (files : FileSystem) : Except Octets FileSystem :=
  script.outputFiles.foldlM (fun files path =>
    match files.write (Octets.toText path) [] with
    | (files, .ok ()) => .ok files
    | (_, .error x) =>
      .error ("couldn't open file ".toList ++ path ++ ": ".toList ++ x.reason.toList)) files

end Sed

/-- Edits the lines of its inputs. -/
def sedProgram : Program := fun i =>
  let table : OptionTable :=
    ⟨[('n', .never), ('E', .never), ('r', .never), ('s', .never), ('u', .never), ('z', .never),
      ('b', .never), ('e', .always), ('f', .always), ('l', .always), ('i', .optional)],
      [("quiet", 'n', .never), ("silent", 'n', .never), ("expression", 'e', .always),
        ("regexp-extended", 'E', .never), ("in-place", 'i', .optional), ("file", 'f', .always),
        ("line-length", 'l', .always), ("posix", 'p', .never), ("sandbox", 'S', .never),
        ("binary", 'b', .never), ("follow-symlinks", 'F', .never), ("separate", 's', .never),
        ("unbuffered", 'u', .never), ("null-data", 'z', .never),
        ("zero-terminated", 'z', .never)], false⟩
  table.run "sed" 1 (fun _ => none) i fun given operands =>
    match Sed.scriptPieces given operands i.files with
    | .error problem => i.start.fail i.name 4 problem
    | .ok (pieces, operands) =>
      let text := ['\n'].intercalate (pieces.map Sed.ScriptPiece.text)
      match Sed.Script.read (isGiven given 'E' || isGiven given 'r') text with
      | .error fault => Sed.failWith i i.start pieces text.length fault
      | .ok script =>
        match script.missingLabel?, Sed.makeOutputs script i.files with
        | some l, _ =>
          i.start.fail i.name 4
            (("can't find label for jump to " ++ Sed.quoted (String.ofList l)).toList)
        | none, .error problem => i.start.fail i.name 4 problem
        | none, .ok files =>
          let i := { i with files := files }
          let mode : Sed.Mode :=
            { script := script
              pieces := pieces
              quiet := isGiven given 'n' || ['#', 'n'].isPrefixOf text
              width := ((givenValue? given 'l').map fun s => (Sed.readNumber s).1).getD 70
              newline := if isGiven given 'z' then Char.ofNat 0 else '\n'
              isAlone := (inputNames operands).all isOwnInput && operands.length ≤ 1 }
          match givenValue? given 'i' with
          | some suffix =>
            if operands.isEmpty then i.start.fail i.name 4 "no input files".toList
            else mode.editInPlace i suffix operands i.start
          | none =>
            let (all, e) :=
              Sed.contents (isGiven given 's') i mode.newline (inputNames operands) i.start []
            mode.printAll i [] all e

end CallForest
