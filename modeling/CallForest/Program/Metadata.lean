import CallForest.Program.Inspection

/-!
# What is known of files

`stat` tells what is known of a file, `readlink` and `realpath` where a path leads.
-/

namespace CallForest

/-! ## Where paths lead -/

namespace RealPath

/-- What has to be there for a path to lead somewhere. -/
inductive Demand where
  | all
  /-- All but the last name. -/
  | allButLast
  | nothing
  deriving DecidableEq, Repr

/-- The location that names lead to from a location. Names that lead nowhere are kept if that is
allowed. The first argument bounds the number of links, the second that of the names. -/
def locate (root : Directory) (demand : Demand) :
    Nat → Nat → List String → List String → Except OsError (List String)
  | _, 0, here, _ => .ok here
  | _, _ + 1, here, [] => .ok here
  | links, steps + 1, here, name :: names =>
    if name = "." then locate root demand links steps here names
    else if name = ".." then locate root demand links steps here.dropLast names
    else
      match root.get? (here ++ [name]) with
      | some (.link path) =>
        match links with
        | 0 => .error .tooManyLinks
        | links + 1 =>
          locate root demand links steps (if Path.isAbsolute path then [] else here)
            (Path.pieces path ++ names)
      | some e =>
        if e.isDirectory || names.isEmpty || demand = .nothing then
          locate root demand links steps (here ++ [name]) names
        else .error .notDirectory
      | none =>
        if demand = .nothing || (demand = .allButLast && names.isEmpty) then
          locate root demand links steps (here ++ [name]) names
        else .error .notFound

/-- The location that a path leads to. -/
def find (files : FileSystem) (demand : Demand) (path : String) :
    Except OsError (List String) :=
  if path.isEmpty then .error .notFound
  else
    let start := if Path.isAbsolute path then [] else files.workingDirectory
    match locate files.root demand FileSystem.maxLinks 4096 start (Path.pieces path) with
    | .ok location =>
      let isFile := (files.root.get? location).any fun e => !e.isDirectory
      if path.endsWith "/" && isFile && demand ≠ .nothing then .error .notDirectory
      else .ok location
    | .error x => .error x

/-- The location that a path names if links are left alone. -/
def plain (files : FileSystem) (path : String) : List String :=
  (Path.pieces (files.absolute path)).foldl (fun here name =>
    if name = "." then here else if name = ".." then here.dropLast else here ++ [name]) []

/-- What has to be there by the options that are given. -/
def demandOf (usual : Demand) (given : List GivenOption) : Demand :=
  match lastGiven? given ['e', 'm', 'f'] with
  | some ('e', _) => .all
  | some ('m', _) => .nothing
  | some _ => .allButLast
  | none => usual

end RealPath

/-- Prints what links lead to. -/
def readlinkProgram : Program := fun i =>
  let table := OptionTable.ofLetters "femnqsvz"
    [("canonicalize", 'f'), ("canonicalize-existing", 'e'), ("canonicalize-missing", 'm'),
      ("no-newline", 'n'), ("quiet", 'q'), ("silent", 's'), ("verbose", 'v'), ("zero", 'z')]
  table.run "readlink" 1 (fun _ => none) i fun given operands =>
    let resolves := given.any fun o => o.1 ∈ ['f', 'e', 'm']
    let (noNewline, e) : Bool × Effect :=
      if isGiven given 'n' && 1 < operands.length then
        (false, i.start.complain
          (i.name ++ ": ignoring --no-newline with multiple arguments\n".toList))
      else (isGiven given 'n', i.start)
    let finish : Octets := if noNewline then [] else if isGiven given 'z' then [Char.ofNat 0]
      else ['\n']
    if operands.isEmpty then missingOperand i "missing operand"
    else
      operands.foldl (fun e name =>
        let path := Octets.toText name
        let result : Except OsError Octets :=
          if resolves then
            (RealPath.find e.files (RealPath.demandOf .allButLast given) path).map fun location =>
              Octets.ofText (FileSystem.pathOf location)
          else
            match e.files.named path with
            | .error x => .error x
            | .ok (.link target) => .ok (Octets.ofText target)
            | .ok _ => .error .invalid
        match result with
        | .ok s => e.print (s ++ finish)
        | .error x =>
          if isGiven given 'v' then
            e.fail i.name 1 (QuotedName.ifNeeded name ++ ": ".toList ++ x.reason.toList)
          else e.withCode 1) e

/-- Prints the paths by which files are found without links. -/
def realpathProgram : Program := fun i =>
  let table : OptionTable :=
    ⟨"eEmLPqsz".toList.map fun c => (c, .never),
      [("canonicalize-existing", 'e', .never), ("canonicalize-missing", 'm', .never),
        ("logical", 'L', .never), ("physical", 'P', .never), ("quiet", 'q', .never),
        ("strip", 's', .never), ("no-symlinks", 's', .never), ("zero", 'z', .never),
        ("relative-to", 't', .always), ("relative-base", 'b', .always)], false⟩
  table.run "realpath" 1 (fun _ => none) i fun given operands =>
    let demand := RealPath.demandOf .allButLast given
    let find (path : String) : Except OsError (List String) :=
      if isGiven given 's' then .ok (RealPath.plain i.files path)
      else RealPath.find i.files demand path
    let finish : Octets := if isGiven given 'z' then [Char.ofNat 0] else ['\n']
    let base? (c : Char) : Option (List String) :=
      (givenValue? given c).bind fun s => (find (Octets.toText s)).toOption
    if operands.isEmpty then missingOperand i "missing operand"
    else
      operands.foldl (fun e name =>
        match find (Octets.toText name) with
        | .error x =>
          if isGiven given 'q' then e.withCode 1
          else e.fail i.name 1 (QuotedName.ifNeeded name ++ ": ".toList ++ x.reason.toList)
        | .ok location =>
          let isWithin := (base? 'b').all fun b => b.isPrefixOf location
          let start := (base? 't').orElse fun _ => base? 'b'
          let shown := match start with
            | some start =>
              if isWithin then relative start location else FileSystem.pathOf location
            | none => FileSystem.pathOf location
          e.print (Octets.ofText shown ++ finish)) i.start
where
  /-- The path from one location to another. -/
  relative (source target : List String) : String :=
    let rec common : List String → List String → Nat
      | a :: as, b :: bs => if a = b then common as bs + 1 else 0
      | _, _ => 0
    let shared := common source target
    let steps := List.replicate (source.length - shared) ".." ++ target.drop shared
    if steps.isEmpty then "." else String.intercalate "/" steps

/-! ## What is known of a file -/

namespace Stat

/-- What an entry is called. -/
def kind (files : FileSystem) (e : Entry) : String := e.kindName files

/-- The number by which the system knows an entry. -/
def number : Entry → Nat
  | .file n => 1000 + n
  | _ => 2

/-- The text of a letter of a format; none if the letter stands for nothing. -/
def field? (files : FileSystem) (name : Octets) (e : Entry) (letter : Char) : Option Octets :=
  let time := files.modifiedAt e
  let full (time : Int) : Octets := Calendar.shown time 0 "%Y-%m-%d %H:%M:%S.%N %z".toList
  let mode := files.modeOf e
  let typeBits := match e with
    | .file _ | .program _ => 0o100000
    | .device _ => 0o020000
    | .link _ => 0o120000
    | .directory _ _ => 0o040000
  match letter with
  | 'n' => some name
  | 'N' => some (QuotedName.always name ++
      (match e with
        | .link target => " -> ".toList ++ QuotedName.always (Octets.ofText target)
        | _ => []))
  | 's' => some (Text.decimal (files.sizeOf e))
  | 'a' => some (if mode = 0 then ['0'] else Mode.octal 1 mode)
  | 'A' => some (e.letter :: Mode.shown mode)
  | 'F' => some (kind files e).toList
  | 'f' => some (Numeral.inBase false 16 (typeBits + mode))
  | 'h' => some (Text.decimal (files.namesOf e))
  | 'u' | 'g' => some ['0']
  | 'U' | 'G' => some "root".toList
  | 'b' => some (Text.decimal (2 * files.blocksOf e))
  | 'B' => some "512".toList
  | 'o' => some "4096".toList
  | 'i' => some (Text.decimal (number e))
  | 'd' => some "2049".toList
  | 'D' => some "801".toList
  | 't' | 'T' => some ['0']
  | 'm' => some ['/']
  | 'W' => some ['0']
  | 'w' => some ['-']
  | 'X' | 'Y' | 'Z' => some (Calendar.shown time 0 ['%', 's'])
  | 'x' | 'y' | 'z' => some (full time)
  | '%' => some ['%']
  | _ => none

/-- The text of an escape behind a backslash, and the rest of the format. -/
def escape (s : Octets) : Octets × Octets :=
  match s with
  | 'n' :: cs => (['\n'], cs)
  | 't' :: cs => (['\t'], cs)
  | '\\' :: cs => (['\\'], cs)
  | '"' :: cs => (['"'], cs)
  | 'a' :: cs => ([Char.ofNat 7], cs)
  | 'b' :: cs => ([Char.ofNat 8], cs)
  | 'e' :: cs => ([Char.ofNat 27], cs)
  | 'f' :: cs => ([Char.ofNat 12], cs)
  | 'r' :: cs => (['\r'], cs)
  | 'v' :: cs => ([Char.ofNat 11], cs)
  | cs =>
    let digits := (cs.take 3).takeWhile Mode.isOctal
    if digits.isEmpty then (['\\'], cs)
    else ([Char.ofNat ((Numeral.digitsFrom 8 0 digits).1 % 256)], cs.drop digits.length)

/-- The text that a format makes of what is known of an entry. The first argument bounds the number
of its letters. -/
def format (files : FileSystem) (escapes : Bool) (name : Octets) (e : Entry) :
    Nat → Octets → Octets
  | 0, _ => []
  | _ + 1, [] => []
  | steps + 1, '%' :: cs =>
    let flags := cs.takeWhile fun c => c ∈ "-+ #0".toList
    let rest := cs.drop flags.length
    let widthDigits := rest.takeWhile Char.isDigit
    let rest := rest.drop widthDigits.length
    let rest := match rest with
      | '.' :: more => more.dropWhile Char.isDigit
      | more => more
    let width := (Numeral.digitsFrom 10 0 widthDigits).1
    match rest with
    | [] => '%' :: cs
    | letter :: more =>
      match field? files name e letter with
      | some s =>
        let s := if letter = 'a' && flags.contains '#' then '0' :: s else s
        let filling := List.replicate (width - s.length) (if flags.contains '0' then '0' else ' ')
        (if flags.contains '-' then s ++ List.replicate (width - s.length) ' ' else filling ++ s) ++
          format files escapes name e steps more
      | none => '?' :: format files escapes name e steps more
  | steps + 1, c :: cs =>
    if c = '\\' && escapes then
      let (s, rest) := escape cs
      s ++ format files escapes name e steps rest
    else c :: format files escapes name e steps cs

/-- The format that is used if none is given. -/
def usual (e : Entry) : String :=
  "  File: %N\n  Size: %-10s\tBlocks: %-10b IO Block: %-6o %F\n" ++
    "Device: 8,1\tInode: %-11i Links: %h" ++
    (match e with
      | .device _ => "     Device type: %t,%T"
      | _ => "") ++
    "\nAccess: (%04a/%10.10A)  Uid: (%5u/%8U)   Gid: (%5g/%8G)\n" ++
    "Access: %x\nModify: %y\nChange: %z\n Birth: %w\n"

end Stat

/-- Tells what is known of files. -/
def statProgram : Program := fun i =>
  let table : OptionTable :=
    ⟨[('L', .never), ('f', .never), ('t', .never), ('c', .always)],
      [("dereference", 'L', .never), ("file-system", 'f', .never), ("terse", 't', .never),
        ("format", 'c', .always), ("printf", 'p', .always)], false⟩
  table.run "stat" 1 (fun _ => none) i fun given operands =>
    if operands.isEmpty then missingOperand i "missing operand"
    else
      operands.foldl (fun e name =>
        let path := Octets.toText name
        let found := if isGiven given 'L' then e.files.entry path else e.files.named path
        match found with
        | .error x =>
          e.fail i.name 1 ("cannot statx ".toList ++ QuotedName.always name ++ ": ".toList ++
            x.reason.toList)
        | .ok entry =>
          let shown (escapes : Bool) (s : Octets) : Octets :=
            Stat.format e.files escapes name entry (s.length + 1) s
          match lastGiven? given ['c', 'p'] with
          | some ('p', s) => e.print (shown true s)
          | some (_, s) => e.print (shown false s ++ ['\n'])
          | none =>
            if isGiven given 't' then
              e.print (shown false "%n %s %b %f %u %g %D %i %h %t %T %X %Y %Z %W %o".toList ++
                ['\n'])
            else e.print (shown false (Stat.usual entry).toList)) i.start

end CallForest
