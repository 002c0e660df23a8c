import CallForest.Program.Options
import CallForest.Text.Decimal

/-!
# Programs that remove

Removing files, and directories with all that is below them. What is below a directory is removed
before it; a directory below which something is kept is kept too.
-/

namespace CallForest

/-- What is said of a missing operand. -/
def missingOperand (i : Invocation) (text : String) : Effect :=
  (i.start.fail i.name 1 text.toList).complain (OptionTable.hint i.name)

/-- Asks a question and reads the answer, which is yes if it begins so. -/
def Effect.asked (e : Effect) (question : Octets) : Bool × Effect :=
  let line := e.unread.takeWhile (· ≠ '\n')
  (line.head?.any fun c => c == 'y' || c == 'Y',
    { e.complain question with unread := e.unread.drop (line.length + 1) })

/-- What an entry is called. -/
def Entry.kindName (files : FileSystem) : Entry → String
  | .file n => if (files.contentOf n).isEmpty then "regular empty file" else "regular file"
  | .program _ => "regular file"
  | .device _ => "character special file"
  | .link _ => "symbolic link"
  | .directory _ _ => "directory"

namespace Removal

/-- How things are removed. -/
structure Manner where
  program : Octets
  recursive : Bool
  /-- Whether directories without entries are removed. -/
  removesEmpty : Bool
  asks : Bool
  tells : Bool
  /-- Whether what is not there is passed over. -/
  forgives : Bool

/-- Says that something cannot be removed. -/
def Manner.refuse (m : Manner) (e : Effect) (path : Octets) (x : OsError) : Effect :=
  e.fail m.program 1
    ("cannot remove ".toList ++ QuotedName.always path ++ ": ".toList ++ x.reason.toList)

/-- Asks about something if questions are wanted. -/
def Manner.permits (m : Manner) (e : Effect) (what : String) (path : Octets) : Bool × Effect :=
  if m.asks then
    e.asked (m.program ++ ": ".toList ++ what.toList ++ ' ' :: QuotedName.always path ++
      ['?', ' '])
  else (true, e)

/-- Takes away the name at a location; tells that it is gone. -/
def Manner.takeAway (m : Manner) (e : Effect) (path : Octets) (location : List String)
    (isDirectory : Bool) : Bool × Effect :=
  let e := { e with files := e.files.drop location }
  let what := if isDirectory then "removed directory " else "removed "
  (true, if m.tells then e.print (what.toList ++ QuotedName.always path ++ ['\n']) else e)

/-- A path within a directory. -/
def within (path : Octets) (name : String) : Octets :=
  let name := Octets.ofText name
  if path.getLast? = some '/' then path ++ name else path ++ '/' :: name

/-- Removes a name that is not that of a directory. -/
def removeFile (m : Manner) (path : Octets) (location : List String) (entry : Entry) (e : Effect) :
    Bool × Effect :=
  match m.permits e ("remove " ++ entry.kindName e.files) path with
  | (true, e) => m.takeAway e path location false
  | (false, e) => (false, e)

mutual

/-- Removes what is at a location, with all that is below it; tells whether it is gone. -/
def removeEntry (m : Manner) (path : Octets) (location : List String) :
    Entry → Effect → Bool × Effect
  | .directory _ .nil, e =>
    match m.permits e "remove directory" path with
    | (true, e) => m.takeAway e path location true
    | (false, e) => (false, e)
  | .directory _ d, e =>
    match m.permits e "descend into directory" path with
    | (false, e) => (false, e)
    | (true, e) =>
      match removeEntries m path location d e with
      | (false, e) => (false, e)
      | (true, e) =>
        match m.permits e "remove directory" path with
        | (true, e) => m.takeAway e path location true
        | (false, e) => (false, e)
  | .file n, e => removeFile m path location (.file n) e
  | .device d, e => removeFile m path location (.device d) e
  | .program name, e => removeFile m path location (.program name) e
  | .link target, e => removeFile m path location (.link target) e

/-- Removes the entries of a directory; tells whether all are gone. -/
def removeEntries (m : Manner) (path : Octets) (location : List String) :
    Directory → Effect → Bool × Effect
  | .nil, e => (true, e)
  | .cons name entry rest, e =>
    let (gone, e) := removeEntry m (within path name) (location ++ [name]) entry e
    let (others, e) := removeEntries m path location rest e
    (gone && others, e)

end

/-- Removes what an operand names. -/
def removeOperand (m : Manner) (e : Effect) (operand : Octets) : Effect :=
  let path := Octets.toText operand
  match e.files.locate path with
  | .error x =>
    if m.forgives ∧ (x = .notFound ∨ x = .notDirectory) then e else m.refuse e operand x
  | .ok target =>
    match target.entry with
    | none => if m.forgives then e else m.refuse e operand .notFound
    | some (.directory mode d) =>
      if m.recursive && target.location.isEmpty then
        (e.fail m.program 1 "it is dangerous to operate recursively on '/'".toList).fail m.program 1
          "use --no-preserve-root to override this failsafe".toList
      else if m.recursive && Path.endsInDots path then
        e.fail m.program 1
          ("refusing to remove '.' or '..' directory: skipping ".toList ++
            QuotedName.always operand)
      else if path.endsWith "/" && (e.files.readLink? (Path.withoutSlashes path)).isSome then
        if m.recursive then m.refuse (removeEntries m operand target.location d e).2 operand
          .notDirectory
        else if m.removesEmpty then m.refuse e operand .notDirectory
        else m.refuse e operand .isDirectory
      else if m.recursive || (m.removesEmpty && d.isEmpty) then
        (removeEntry m operand target.location (.directory mode d) e).2
      else if m.removesEmpty then m.refuse e operand .notEmpty
      else m.refuse e operand .isDirectory
    | some entry =>
      if target.slash then m.refuse e operand .notDirectory
      else (removeEntry m operand target.location entry e).2

/-- When questions are asked that are asked once: before many things are removed, or directories. -/
def question? (count : Nat) (recursive : Bool) : Option Octets :=
  if recursive || 3 < count then
    some ("remove ".toList ++ Text.decimal count ++
      (if count = 1 then " argument" else " arguments").toList ++
      (if recursive then " recursively? " else "? ").toList)
  else none

end Removal

/-- The last of some options that is given. -/
def lastGiven? (given : List GivenOption) (letters : List Char) : Option GivenOption :=
  given.reverse.find? fun o => o.1 ∈ letters

/-- Removes files, and directories if that is wanted. -/
def rmProgram : Program := fun i =>
  let table : OptionTable :=
    ⟨"dfiIrRv".toList.map fun c => (c, .never),
      [("force", 'f', .never), ("recursive", 'r', .never), ("dir", 'd', .never),
        ("verbose", 'v', .never), ("interactive", 'P', .optional),
        ("no-preserve-root", 'N', .never), ("preserve-root", 'N', .optional),
        ("one-file-system", 'N', .never)], false⟩
  table.run "rm" 1 (fun _ => none) i fun given operands =>
    let given := given.map fun o =>
      if o.1 ≠ 'P' then o
      else if ['n'].isPrefixOf o.2 then ('Q', [])
      else if ['o'].isPrefixOf o.2 then ('I', [])
      else ('i', [])
    let manners := ((lastGiven? given ['f', 'i', 'I', 'Q']).map Prod.fst).getD 'Q'
    let m : Removal.Manner :=
      { program := i.name
        recursive := isGiven given 'r' || isGiven given 'R'
        removesEmpty := isGiven given 'd'
        asks := manners = 'i'
        tells := isGiven given 'v'
        forgives := manners = 'f' }
    if operands.isEmpty then
      if m.forgives then i.start else missingOperand i "missing operand"
    else
      match if manners = 'I' then Removal.question? operands.length m.recursive else none with
      | none => operands.foldl (Removal.removeOperand m) i.start
      | some text =>
        match i.start.asked (i.name ++ ": ".toList ++ text) with
        | (true, e) => operands.foldl (Removal.removeOperand m) e
        | (false, e) => e

/-- Removes directories without entries, and with `-p` those that they stand in. -/
def rmdirProgram : Program := fun i =>
  let table := OptionTable.ofLetters "pv"
    [("parents", 'p'), ("verbose", 'v'), ("ignore-fail-on-non-empty", 'I')]
  table.run "rmdir" 1 (fun _ => none) i fun given operands =>
    if operands.isEmpty then missingOperand i "missing operand"
    else operands.foldl (fun e operand => (along given i.name operand e).2) i.start
where
  /-- Removes the directory that an operand names and those above it, up to the first that cannot
  be. -/
  along (given : List GivenOption) (program operand : Octets) (e : Effect) : Bool × Effect :=
    let path := Octets.toText operand
    let all := if isGiven given 'p' then
      (Path.ancestors path).filter fun p => !p.isEmpty && p ≠ "/" else [path]
    all.foldl (fun (goesOn, e) p =>
      if !goesOn then (false, e)
      else
        let shown := QuotedName.always (Octets.ofText p)
        let e := if isGiven given 'v' then
          e.print (program ++ ": removing directory, ".toList ++ shown ++ ['\n']) else e
        match e.files.removeDirectory p with
        | (files, .ok ()) => (true, { e with files := files })
        | (_, .error x) =>
          if x = .notEmpty ∧ isGiven given 'I' then (false, e)
          else
            let what := if p = path then "failed to remove " else "failed to remove directory "
            let leads := x = .notDirectory && p.endsWith "/" && e.files.isDirectory p
            let reason := if leads then "Symbolic link not followed" else x.reason
            (false, e.fail program 1
              (what.toList ++ shown ++ ": ".toList ++ reason.toList))) (true, e)

/-- Takes one name away. -/
def unlinkProgram : Program := fun i =>
  (OptionTable.ofLetters "" []).run "unlink" 1 (fun _ => none) i fun _ operands =>
    match operands with
    | [] => missingOperand i "missing operand"
    | [operand] =>
      i.start.change i.name ("cannot unlink ".toList ++ QuotedName.always operand) fun files =>
        files.removeFile (Octets.toText operand)
    | _ :: extra :: _ =>
      (i.start.fail i.name 1
        ("extra operand ".toList ++ QuotedName.ofArgument extra)).complain
        (OptionTable.hint i.name)

end CallForest
