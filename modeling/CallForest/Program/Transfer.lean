import CallForest.Program.Permissions

/-!
# Copying, moving and linking

`cp`, `mv`, `install` and `ln` give what is at one path another path as well, or instead. What is
there already is replaced, unless it is the same thing, or a directory is to take the place of a
file or a file that of a directory.
-/

namespace CallForest

namespace Transfer

/-- What is done if there is something at the target. -/
inductive Overwriting where
  | always
  | asks
  | never
  deriving DecidableEq, Repr

/-- Which links among the sources are followed. -/
inductive Following where
  | always
  | operands
  | never
  deriving DecidableEq, Repr

/-- What is made at the target. -/
inductive Form where
  | copy
  | move
  | name
  | link
  deriving DecidableEq, Repr

/-- How things are transferred. -/
structure Manner where
  program : Octets
  form : Form
  recursive : Bool
  following : Following
  overwriting : Overwriting
  /-- Whether only what is newer than the target is transferred. -/
  updates : Bool
  tells : Bool
  /-- Whether permissions and times are kept. -/
  preserves : Bool
  /-- Whether what is at the target is removed first. -/
  removesFirst : Bool
  /-- Whether a name or a link takes the place of what is at the target. -/
  forces : Bool
  /-- Whether files that have several names keep them. -/
  keepsNames : Bool
  /-- What is put behind the names of things that are kept. -/
  backup : Option Octets

/-- What has been done: the effect so far, and the locations where something has been put. -/
structure Progress where
  effect : Effect
  made : List (List String)

/-- Fails with a text. -/
def Progress.fail (p : Progress) (m : Manner) (text : Octets) : Progress :=
  { p with effect := p.effect.fail m.program 1 text }

/-- Prints a line if that is wanted. -/
def Progress.tell (p : Progress) (m : Manner) (text : Octets) : Progress :=
  if m.tells then { p with effect := p.effect.print (text ++ ['\n']) } else p

/-- A name in quotes in a message. -/
def shown (path : Octets) : Octets := QuotedName.always path

/-- What an entry is known by: the number of a file, or where it is. -/
def isSame (a b : FileSystem.Target) : Bool :=
  match a.entry.bind Entry.number?, b.entry.bind Entry.number? with
  | some m, some n => m == n
  | _, _ => a.entry.isSome && a.location == b.location

/-- Whether a target may take what is at a source, although they may be the same. -/
def Manner.permits (m : Manner) (files : FileSystem) (source target : Octets) : Bool :=
  let find (f : FileSystem → String → Except OsError FileSystem.Target) (path : Octets) :
      Option FileSystem.Target :=
    ((f files (Octets.toText path)).toOption).filter fun t => t.entry.isSome
  match find FileSystem.locate source, find FileSystem.locate target with
  | some s, some t =>
    let isLink (x : FileSystem.Target) : Bool := x.entry.any Entry.isLink
    let followed := match find FileSystem.resolve source, find FileSystem.resolve target with
      | some s, some t => isSame s t
      | _, _ => false
    let sameName := s.location == t.location
    if m.form = .name && (isSame s t || followed) then true
    else if m.following = .never && isLink s && isLink t then !sameName
    else if m.following ≠ .never && !followed then true
    else if m.backup.isSome then
      if isSame s t then !sameName
      else m.form = .move || m.following = .never || !isLink s || isLink t
    else if (m.form = .move || m.removesFirst) && isLink t then true
    else if (m.form = .move || m.removesFirst) && isSame s t && !sameName then m.form ≠ .move
    else if !isLink s && !isLink t then !isSame s t
    else if m.form = .link && isLink t then true
    else m.following = .never && !followed
  | _, _ => true

/-- What is made of the permissions of a source for a new target. -/
def Manner.newMode (m : Manner) (files : FileSystem) (mode : Mode) : Mode :=
  if m.preserves then mode else Mode.without (Mode.without mode 0o7000) files.mask

/-- Sets permissions and time of what has been copied, as far as they are to be kept. -/
def Manner.preserve (m : Manner) (source : Entry) (location : List String) (files : FileSystem) :
    FileSystem :=
  if !m.preserves then files
  else
    let files := files.setMode location (files.modeOf source)
    match (files.root.get? location).bind Entry.number? with
    | some number =>
      match files.stored[number]? with
      | some file =>
        files.store number { file with modified := files.modifiedAt source }
      | none => files
    | none => files

/-- Keeps what is at a target under another name. -/
def Manner.keepOld (m : Manner) (p : Progress) (target : Octets) : Progress × Octets :=
  match m.backup with
  | none => (p, [])
  | some suffix =>
    let files := (p.effect.files.rename (Octets.toText target)
      (Octets.toText (target ++ suffix))).1
    ({ p with effect := { p.effect with files := files } },
      " (backup: ".toList ++ shown (target ++ suffix) ++ [')'])

/-- Removes what is at a target. -/
def Manner.clear (m : Manner) (p : Progress) (target : Octets) : Progress :=
  let files := (p.effect.files.removeFile (Octets.toText target)).1
  let p := { p with effect := { p.effect with files := files } }
  if m.tells then { p with effect := p.effect.print ("removed ".toList ++ shown target ++ ['\n']) }
  else p

/-- Changes the files by an operation; fails if that does. -/
def Progress.change (p : Progress) (m : Manner) (text : Octets)
    (operation : FileSystem → FileSystem × Except OsError Unit) : Progress :=
  { p with effect := p.effect.change m.program text operation }

/-- Notes that something has been put at a location. -/
def Progress.note (p : Progress) (location : List String) : Progress :=
  { p with made := location :: p.made }

/-- Moves what is at a source; `note` is what is told of a copy that is kept. -/
def move (m : Manner) (source target note : Octets) (p : Progress) : Progress :=
  match p.effect.files.rename (Octets.toText source) (Octets.toText target) with
  | (files, .ok ()) =>
    let p := { p with effect := { p.effect with files := files } }
    let p := p.tell m ("renamed ".toList ++ shown source ++ " -> ".toList ++ shown target ++ note)
    match files.locate (Octets.toText target) with
    | .ok t => p.note t.location
    | .error _ => p
  | (_, .error .invalid) =>
    p.fail m ("cannot move ".toList ++ shown source ++ " to a subdirectory of itself, ".toList ++
      shown target)
  | (_, .error x) =>
    p.fail m ("cannot move ".toList ++ shown source ++ " to ".toList ++ shown target ++
      ": ".toList ++ x.reason.toList)

/-- Makes a copy of a file, a device or a link at a target; `isNew` tells that there was nothing. -/
def copyFile (m : Manner) (source target : Octets) (entry : Entry) (isNew : Bool) (p : Progress) :
    Progress :=
  let path := Octets.toText target
  let files := p.effect.files
  let located := (files.locate path).toOption
  match entry with
  | .link to' =>
    p.change m ("cannot create symbolic link ".toList ++ shown target) fun files =>
      files.createLink path to'
  | entry =>
    match files.bytes entry with
    | .error x => p.fail m (shown source ++ ": ".toList ++ x.reason.toList)
    | .ok content =>
      if isNew && located.any fun t => t.entry.any Entry.isLink then
        p.fail m ("not writing through dangling symlink ".toList ++ shown target)
      else
        let mode := m.newMode files (files.modeOf entry)
        let failure := "cannot create regular file ".toList ++ shown target
        match files.write path content with
        | (_, .error x) =>
          let x := if isNew && path.endsWith "/" then .notDirectory else x
          p.fail m (failure ++ ": ".toList ++ x.reason.toList)
        | (after, .ok ()) =>
          match after.resolve path with
          | .error _ => p
          | .ok t =>
            let after := if isNew then after.setMode t.location mode else after
            let after := m.preserve entry t.location after
            { p with effect := { p.effect with files := after } }.note t.location

/-- A thing to be transferred: its path and that of the target, where it has been found, and what it
is. -/
structure Task where
  source : Octets
  target : Octets
  found : FileSystem.Target
  entry : Entry

/-- What a task is told of by. -/
def Task.arrow (t : Task) : Octets := shown t.source ++ " -> ".toList ++ shown t.target

/-- Transfers what is at one path to another; `above` are the directories that have been made on the
way. -/
abbrev Step := (above : List (List String)) → (source target : Octets) → Progress → Progress

/-- Puts a file at a target. -/
def put (m : Manner) (t : Task) (isNew : Bool) (note : Octets) (p : Progress) : Progress :=
  let path := Octets.toText t.target
  let p := p.tell m (t.arrow ++ note)
  match m.form with
  | .name =>
    p.change m ("cannot create hard link ".toList ++ shown t.target ++ " to ".toList ++
      shown t.source) fun files => files.createName path t.entry
  | .link =>
    let folder := (Path.parent? path).getD ""
    let isElsewhere :=
      match p.effect.files.resolve (if folder.isEmpty then "." else folder) with
      | .ok place => place.entry.isSome && place.location ≠ p.effect.files.workingDirectory
      | .error _ => false
    if t.source.head? ≠ some '/' && isElsewhere then
      p.fail m (QuotedName.ifNeeded t.target ++
        ": can make relative symbolic links only in current directory".toList)
    else
      p.change m ("cannot create symbolic link ".toList ++ shown t.target ++ " to ".toList ++
        shown t.source) fun files => files.createLink path (Octets.toText t.source)
  | .copy | .move => copyFile m t.source t.target t.entry isNew p

/-- Transfers what is below a directory by `step`. -/
def transferBelow (m : Manner) (step : Step) (above : List (List String)) (t : Task)
    (p : Progress) : Progress :=
  match t.entry with
  | .directory _ d =>
    let names := match p.effect.files.root.get? t.found.location with
      | some (.directory _ d) => d.names
      | _ => d.names
    let (inside, outside) := names.partition fun name =>
      above.contains (t.found.location ++ [name])
    let p := outside.foldl (fun p name =>
      step above (Removal.within t.source name) (Removal.within t.target name) p) p
    let p := if inside.isEmpty then p
      else
        p.fail m ("cannot copy a directory, ".toList ++ shown t.source ++
          ", into itself, ".toList ++ shown t.target)
    match p.effect.files.resolve (Octets.toText t.target) with
    | .ok target =>
      { p with effect := { p.effect with
        files := m.preserve t.entry target.location p.effect.files } }
    | .error _ => p
  | _ => p

/-- Transfers to a path where there is nothing. -/
def transferToNew (m : Manner) (step : Step) (above : List (List String)) (t : Task)
    (p : Progress) : Progress :=
  if m.form = .move then move m t.source t.target [] p
  else
    match t.entry with
    | .directory mode _ =>
      let path := Octets.toText t.target
      match p.effect.files.createDirectory path with
      | (_, .error x) =>
        p.fail m ("cannot create directory ".toList ++ shown t.target ++ ": ".toList ++
          x.reason.toList)
      | (files, .ok ()) =>
        match files.resolve path with
        | .error _ => p
        | .ok target =>
          let files := files.setMode target.location (m.newMode files mode)
          let p := { p with effect := { p.effect with files := files } }
          let p := (p.note target.location).tell m t.arrow
          transferBelow m step (target.location :: above) t p
    | _ => put m t true [] p

/-- Whether a target may be replaced that is there; asks if that is wanted. -/
def mayReplace (m : Manner) (t : Task) (p : Progress) : Bool × Progress :=
  if m.overwriting = .asks then
    let (yes, e) := p.effect.asked
      (m.program ++ ": overwrite ".toList ++ shown t.target ++ "? ".toList)
    (yes, { p with effect := if yes || m.form ≠ .move then e else e.withCode 1 })
  else (true, p)

/-- What is wrong with a task whose target is there. -/
def conflict? (m : Manner) (isOperand : Bool) (above : List (List String)) (t : Task)
    (old : FileSystem.Target) (there : Entry) (p : Progress) : Option Octets :=
  let bothFolders := t.entry.isDirectory && there.isDirectory
  if t.entry.isDirectory && above.contains t.found.location then
    some ("cannot copy a directory, ".toList ++ shown t.source ++ ", into itself, ".toList ++
      shown t.target)
  else if !m.permits p.effect.files t.source t.target &&
      !(bothFolders && old.location ≠ t.found.location) then
    some (shown t.source ++ " and ".toList ++ shown t.target ++ " are the same file".toList)
  else if isOperand && !t.entry.isDirectory && !there.isDirectory &&
      p.made.contains old.location && m.backup.isNone then
    some ("will not overwrite just-created ".toList ++ shown t.target ++ " with ".toList ++
      shown t.source)
  else none

/-- What is wrong with a task whose target is there, because only one of them is a directory. -/
def mismatch? (m : Manner) (t : Task) (there : Entry) : Option Octets :=
  if m.form = .move && m.backup.isSome then none
  else if t.entry.isDirectory && !there.isDirectory then
    some ("cannot overwrite non-directory ".toList ++ shown t.target ++ " with directory ".toList ++
      shown t.source)
  else if !t.entry.isDirectory && there.isDirectory then
    some ("cannot overwrite directory ".toList ++ shown t.target ++ " with non-directory".toList)
  else none

/-- Whether a task is passed over because of what is at its target. -/
def isPassedOver (m : Manner) (t : Task) (old : FileSystem.Target) (there : Entry)
    (files : FileSystem) : Bool :=
  let bothFolders := t.entry.isDirectory && there.isDirectory
  (m.form = .name && isSame t.found old) ||
    (m.updates && !t.entry.isDirectory && files.modifiedAt t.entry ≤ files.modifiedAt there) ||
    (m.overwriting = .never && !bothFolders)

/-- Transfers to a path where there is something. -/
def transferToOld (m : Manner) (step : Step) (above : List (List String)) (t : Task)
    (old : FileSystem.Target) (p : Progress) : Progress :=
  let (p, note) := if t.entry.isDirectory && m.form ≠ .move then (p, [])
    else m.keepOld p t.target
  if m.form = .move then move m t.source t.target note p
  else if t.entry.isDirectory then transferBelow m step (old.location :: above) t p
  else
    let hasNames := m.keepsNames && old.entry.any fun e => 1 < p.effect.files.namesOf e
    let clears := m.backup.isNone &&
      (m.removesFirst || hasNames || (m.following = .never && !t.entry.isRegular))
    let p := if clears then m.clear p t.target
      else if m.forces then { m with tells := false }.clear p t.target
      else p
    put m t (clears || m.backup.isSome) note p

/-- Transfers what has been found. -/
def transferFound (m : Manner) (step : Step) (isOperand : Bool) (above : List (List String))
    (t : Task) (p : Progress) : Progress :=
  let files := p.effect.files
  let goal := Octets.toText t.target
  let looksAtLink := !t.entry.isRegular || m.form ≠ .copy || m.backup.isSome || m.removesFirst
  match if looksAtLink then files.locate goal else files.resolve goal with
  | .error .notDirectory =>
    let isThere := match files.locate (Path.withoutSlashes goal) with
      | .ok place => place.entry.isSome
      | .error _ => false
    if goal.endsWith "/" && !isThere && !t.entry.isDirectory then transferToNew m step above t p
    else p.fail m ("cannot stat ".toList ++ shown t.target ++ ": Not a directory".toList)
  | .error .notFound => transferToNew m step above t p
  | .error x =>
    p.fail m ("cannot stat ".toList ++ shown t.target ++ ": ".toList ++ x.reason.toList)
  | .ok old =>
    match old.entry with
    | none => transferToNew m step above t p
    | some there =>
      match conflict? m isOperand above t old there p with
      | some problem => p.fail m problem
      | none =>
        if isPassedOver m t old there files then p
        else
          let (goesOn, p) :=
            if t.entry.isDirectory && there.isDirectory then (true, p) else mayReplace m t p
          if !goesOn then p
          else
            match mismatch? m t there with
            | some problem => p.fail m problem
            | none => transferToOld m step above t old p

/-- Transfers what is at one path to another. The first argument bounds how deep directories are in
each other; `isOperand` tells that the source is named by an operand. -/
def transfer (m : Manner) : Nat → (isOperand : Bool) → Step
  | 0, _, _, _, _, p => p
  | steps + 1, isOperand, above, source, target, p =>
    let files := p.effect.files
    let place := Octets.toText source
    let follows := m.following = .always || (m.following = .operands && isOperand)
    match (if follows then files.resolve place else files.locate place).bind fun t =>
        t.found.map fun e => (t, e) with
    | .error x => p.fail m ("cannot stat ".toList ++ shown source ++ ": ".toList ++ x.reason.toList)
    | .ok (found, entry) =>
      if entry.isDirectory && m.form ≠ .move && !m.recursive then
        p.fail m ("-r not specified; omitting directory ".toList ++ shown source)
      else
        transferFound m (transfer m steps false) isOperand above ⟨source, target, found, entry⟩ p

/-- How deep directories that are transferred may be in each other. -/
def maxDepth : Nat := 200

/-- The path of a thing within a directory. -/
def withinDirectory (directory source : Octets) : Octets :=
  Removal.within directory (((Path.pieces (Octets.toText source)).getLast?).getD "")

/-- The path of a copy within a directory; what stands above the working directory is not copied to
above the directory. -/
def copyWithin (m : Manner) (directory source : Octets) : Octets :=
  if m.form ≠ .move && (Path.pieces (Octets.toText source)).getLast? = some ".." then directory
  else withinDirectory directory source

/-- The suffix of what is kept, if something is to be kept. -/
def backup? (i : Invocation) (given : List GivenOption) : Option Octets :=
  let suffix := ((givenValue? given 'S').orElse fun _ =>
    i.environment.lookup "SIMPLE_BACKUP_SUFFIX").getD ['~']
  let isNone := (givenValue? given 'B').any fun s => s == "none".toList || s == "off".toList
  if (isGiven given 'b' || isGiven given 'B' || isGiven given 'S') && !isNone then some suffix
  else none

/-- Transfers what operands name: all but the last to the last, which may be a directory, unless
the directory is named by an option. -/
def toTarget (m : Manner) (i : Invocation) (given : List GivenOption) (operands : List Octets)
    (one : Octets → Octets → Progress → Progress) : Effect :=
  let into (directory : Octets) (sources : List Octets) : Effect :=
    (sources.foldl (fun p source => one source (copyWithin m directory source) p)
      ⟨i.start, []⟩).effect
  let noTarget (target : Octets) (x : OsError) : Effect :=
    i.start.fail i.name 1 ("target ".toList ++ QuotedName.always target ++ ": ".toList ++
      x.reason.toList)
  let whyNot (target : Octets) : OsError :=
    match i.files.entry (Octets.toText target) with
    | .ok _ => .notDirectory
    | .error x => x
  match givenValue? given 't', operands.reverse with
  | _, [] => missingOperand i "missing file operand"
  | some directory, _ =>
    if isGiven given 'T' then
      i.start.fail i.name 1 ("cannot combine --target-directory (-t) and " ++
        "--no-target-directory (-T)").toList
    else if i.files.isDirectory (Octets.toText directory) then into directory operands
    else
      i.start.fail i.name 1 ("target directory ".toList ++ QuotedName.always directory ++
        ": ".toList ++ (whyNot directory).reason.toList)
  | none, [only] =>
    (i.start.fail i.name 1
      ("missing destination file operand after ".toList ++ QuotedName.always only)).complain
      (OptionTable.hint i.name)
  | none, target :: sources =>
    if isGiven given 'T' then
      match sources with
      | [source] => (one source target ⟨i.start, []⟩).effect
      | _ =>
        (i.start.fail i.name 1
          ("extra operand ".toList ++ QuotedName.always (operands.getD 2 []))).complain
          (OptionTable.hint i.name)
    else if i.files.isDirectory (Octets.toText target) then into target sources.reverse
    else
      match sources with
      | [source] =>
        if target.getLast? = some '/' && m.form ≠ .copy && m.form ≠ .move then
          noTarget target (whyNot target)
        else (one source target ⟨i.start, []⟩).effect
      | _ => noTarget target (whyNot target)

end Transfer

open Transfer

/-- Copies files and directories. -/
def cpProgram : Program := fun i =>
  let table : OptionTable :=
    ⟨("abdfHilLnPpRrsTuvx".toList.map fun c => (c, .never)) ++ [('S', .always), ('t', .always)],
      [("archive", 'a', .never), ("backup", 'B', .optional), ("dereference", 'L', .never),
        ("no-dereference", 'P', .never), ("force", 'f', .never), ("interactive", 'i', .never),
        ("link", 'l', .never), ("no-clobber", 'n', .never), ("no-target-directory", 'T', .never),
        ("one-file-system", 'x', .never), ("parents", 'A', .never), ("preserve", 'p', .optional),
        ("no-preserve", 'N', .always), ("recursive", 'r', .never),
        ("remove-destination", 'D', .never), ("suffix", 'S', .always),
        ("symbolic-link", 's', .never), ("target-directory", 't', .always),
        ("update", 'u', .never), ("verbose", 'v', .never), ("attributes-only", 'x', .never),
        ("strip-trailing-slashes", 'x', .never), ("reflink", 'x', .optional),
        ("sparse", 'x', .always)], false⟩
  table.run "cp" 1 (fun _ => none) i fun given operands =>
    let recursive := given.any fun o => o.1 ∈ ['r', 'R', 'a']
    let following : Following :=
      match lastGiven? given ['H', 'L', 'P', 'a', 'd'] with
      | some ('L', _) => .always
      | some ('H', _) => .operands
      | some _ => .never
      | none => if recursive || isGiven given 's' then .never else .always
    let m : Manner :=
      { program := i.name
        form := if isGiven given 'l' then .name else if isGiven given 's' then .link else .copy
        recursive := recursive
        following := if isGiven given 'l' && following = .always && !isGiven given 'L' then .never
          else following
        overwriting := match lastGiven? given ['i', 'n'] with
          | some ('n', _) => .never
          | some _ => .asks
          | none => .always
        updates := isGiven given 'u'
        tells := isGiven given 'v'
        preserves := isGiven given 'p' || isGiven given 'a'
        removesFirst := isGiven given 'D'
        forces := isGiven given 'f' && (isGiven given 'l' || isGiven given 's')
        keepsNames := isGiven given 'a' || isGiven given 'd'
        backup := backup? i given }
    if isGiven given 'l' && isGiven given 's' then
      (i.start.fail i.name 1 "cannot make both hard and symbolic links".toList).complain
        (OptionTable.hint i.name)
    else
      toTarget m i given operands fun source target p =>
        transfer m maxDepth true [] source target p

/-- Moves files and directories. -/
def mvProgram : Program := fun i =>
  let table : OptionTable :=
    ⟨("bfinTuvZ".toList.map fun c => (c, .never)) ++ [('S', .always), ('t', .always)],
      [("backup", 'B', .optional), ("force", 'f', .never), ("interactive", 'i', .never),
        ("no-clobber", 'n', .never), ("no-target-directory", 'T', .never),
        ("suffix", 'S', .always), ("target-directory", 't', .always), ("update", 'u', .never),
        ("verbose", 'v', .never), ("strip-trailing-slashes", 'Z', .never)], false⟩
  table.run "mv" 1 (fun _ => none) i fun given operands =>
    let m : Manner :=
      { program := i.name
        form := .move
        recursive := true
        following := .never
        overwriting := match lastGiven? given ['f', 'i', 'n'] with
          | some ('n', _) => .never
          | some ('i', _) => .asks
          | _ => .always
        updates := isGiven given 'u'
        tells := isGiven given 'v'
        preserves := true
        removesFirst := false
        forces := false
        keepsNames := false
        backup := backup? i given }
    toTarget m i given operands fun source target p => transfer m maxDepth true [] source target p

/-! ## Links -/

/-- The path from one location to another. -/
def relativePath (source target : List String) : String :=
  let rec common : List String → List String → Nat
    | a :: as, b :: bs => if a = b then common as bs + 1 else 0
    | _, _ => 0
  let shared := common source target
  let steps := List.replicate (source.length - shared) ".." ++ target.drop shared
  if steps.isEmpty then "." else String.intercalate "/" steps

/-- Gives files further names, or makes links to paths. -/
def lnProgram : Program := fun i =>
  let table : OptionTable :=
    ⟨("bfinLPrsTvdF".toList.map fun c => (c, .never)) ++ [('S', .always), ('t', .always)],
      [("backup", 'B', .optional), ("directory", 'd', .never), ("force", 'f', .never),
        ("interactive", 'i', .never), ("logical", 'L', .never), ("no-dereference", 'n', .never),
        ("physical", 'P', .never), ("relative", 'r', .never), ("symbolic", 's', .never),
        ("suffix", 'S', .always), ("target-directory", 't', .always),
        ("no-target-directory", 'T', .never), ("verbose", 'v', .never)], false⟩
  table.run "ln" 1 (fun _ => none) i fun given operands =>
    if isGiven given 'r' && !isGiven given 's' then
      i.start.fail i.name 1 "cannot do --relative without --symbolic".toList
    else
      let into (directory : Octets) (sources : List Octets) : Effect :=
        (sources.foldl (fun (e, made) source =>
          make i given source (withinDirectory directory source) e made) (i.start, [])).1
      let isPlace (target : Octets) : Bool :=
        i.files.isDirectory (Octets.toText target) &&
          !(isGiven given 'n' && (i.files.readLink? (Octets.toText target)).isSome)
      let whyNot (target : Octets) : OsError :=
        match i.files.entry (Octets.toText target) with
        | .ok _ => .notDirectory
        | .error x => x
      match givenValue? given 't', operands with
      | _, [] => missingOperand i "missing file operand"
      | some directory, sources =>
        if isGiven given 'T' then
          i.start.fail i.name 1
            "cannot combine --target-directory and --no-target-directory".toList
        else if i.files.isDirectory (Octets.toText directory) then into directory sources
        else
          i.start.fail i.name 1 ("target directory ".toList ++ QuotedName.always directory ++
            ": ".toList ++ (whyNot directory).reason.toList)
      | none, [source] =>
        if isGiven given 'T' then
          (i.start.fail i.name 1
            ("missing destination file operand after ".toList ++ QuotedName.always source)).complain
            (OptionTable.hint i.name)
        else (make i given source (withinDirectory ['.'] source) i.start []).1
      | none, [source, target] =>
        if isPlace target && !isGiven given 'T' then into target [source]
        else (make i given source target i.start []).1
      | none, operands =>
        let target := operands.getLast?.getD []
        if isGiven given 'T' then
          (i.start.fail i.name 1
            ("extra operand ".toList ++ QuotedName.always (operands.getD 2 []))).complain
            (OptionTable.hint i.name)
        else if isPlace target then into target operands.dropLast
        else
          i.start.fail i.name 1 ("target ".toList ++ QuotedName.always target ++ ": ".toList ++
            (whyNot target).reason.toList)
where
  /-- Makes one name or link; `made` are the locations where this has been done. -/
  make (i : Invocation) (given : List GivenOption) (source target : Octets) (e : Effect)
      (made : List (List String)) : Effect × List (List String) :=
    let isLink := isGiven given 's'
    let path := Octets.toText target
    let name := i.name
    let fail (text : Octets) : Effect × List (List String) := (e.fail name 1 text, made)
    let kind := (if isLink then "symbolic link " else "hard link ").toList
    let files := e.files
    let sourceEntry :=
      if (lastGiven? given ['L', 'P']).any (·.1 = 'L') then files.entry (Octets.toText source)
      else files.named (Octets.toText source)
    let there := (files.locate path).toOption.filter fun t => t.entry.isSome
    let origin := (files.locate (Octets.toText source)).toOption.filter fun t => t.entry.isSome
    match if isLink then .ok (.link "") else sourceEntry with
    | .error x =>
      fail ("failed to access ".toList ++ QuotedName.always source ++ ": ".toList ++
        x.reason.toList)
    | .ok entry =>
      if entry.isDirectory then
        fail (QuotedName.ifNeeded source ++ ": hard link not allowed for directory".toList)
      else
        let replaces := isGiven given 'f' || isGiven given 'i' || (backup? i given).isSome
        let unclear : Option OsError := match files.locate path with
          | .error .notFound | .ok _ => none
          | .error x => if replaces then some x else none
        if let some x := unclear then
          fail ("failed to access ".toList ++ QuotedName.always target ++ ": ".toList ++
            x.reason.toList)
        else match there with
        | some old =>
          if replaces && old.entry.any Entry.isDirectory then
            fail (QuotedName.ifNeeded target ++ ": cannot overwrite directory".toList)
          else if !replaces then
            fail ("failed to create ".toList ++ kind ++ QuotedName.always target ++
              ": File exists".toList)
          else if made.contains old.location then
            fail ("will not overwrite just-created ".toList ++ QuotedName.always target ++
              " with ".toList ++ QuotedName.always source)
          else if origin.any fun o => o.location == old.location ||
              (!isLink && isSame o old) then
            fail (QuotedName.always source ++ " and ".toList ++ QuotedName.always target ++
              " are the same file".toList)
          else
            let (goesOn, e) : Bool × Effect :=
              if isGiven given 'i' then
                e.asked (name ++ ": replace ".toList ++ QuotedName.always target ++ "? ".toList)
              else (true, e)
            if !goesOn then (e.withCode 1, made)
            else
              let (files, note) : FileSystem × Octets := match backup? i given with
                | some suffix =>
                  ((e.files.rename path (Octets.toText (target ++ suffix))).1,
                    QuotedName.always (target ++ suffix) ++ " ~ ".toList)
                | none => ((e.files.removeFile path).1, [])
              place i given source target entry note { e with files := files } made
        | none => place i given source target entry [] e made
  /-- Puts a name or a link where there is nothing. -/
  place (i : Invocation) (given : List GivenOption) (source target : Octets) (entry : Entry)
      (note : Octets) (e : Effect) (made : List (List String)) : Effect × List (List String) :=
    let isLink := isGiven given 's'
    let path := Octets.toText target
    let origin : Octets :=
      if isGiven given 'r' then
        let folder := (Path.parent? path).getD ""
        let base := ((e.files.resolve (if folder.isEmpty then "." else folder)).toOption.map
          FileSystem.Target.location).getD []
        let goal := match e.files.resolve (Octets.toText source) with
          | .ok t => t.location
          | .error _ => Path.pieces (e.files.absolute (Octets.toText source))
        Octets.ofText (relativePath base goal)
      else source
    let (files, result) :=
      if isLink then e.files.createLink path (Octets.toText origin)
      else e.files.createName path entry
    match result with
    | .error x =>
      let kind := (if isLink then "symbolic link " else "hard link ").toList
      let arrow := if isLink || x = .fileExists then []
        else " => ".toList ++ QuotedName.always source
      (e.fail i.name 1 ("failed to create ".toList ++ kind ++ QuotedName.always target ++ arrow ++
        ": ".toList ++ x.reason.toList), made)
    | .ok () =>
      let e := { e with files := files }
      let arrow := if isLink then " -> ".toList else " => ".toList
      let e := if isGiven given 'v' then
        e.print (note ++ QuotedName.always target ++ arrow ++ QuotedName.always origin ++ ['\n'])
      else e
      (e, match files.locate path with
        | .ok t => t.location :: made
        | .error _ => made)

/-- Gives a file a further name. -/
def linkProgram : Program := fun i =>
  (OptionTable.ofLetters "" []).run "link" 1 (fun _ => none) i fun _ operands =>
    match operands with
    | [] => missingOperand i "missing operand"
    | [source] =>
      (i.start.fail i.name 1
        ("missing operand after ".toList ++ QuotedName.ofArgument source)).complain
        (OptionTable.hint i.name)
    | [source, target] =>
      i.start.change i.name ("cannot create link ".toList ++ QuotedName.always target ++
        " to ".toList ++ QuotedName.always source) fun files =>
        match files.named (Octets.toText source) with
        | .error x => (files, .error x)
        | .ok entry => files.createName (Octets.toText target) entry
    | _ :: _ :: extra :: _ =>
      (i.start.fail i.name 1
        ("extra operand ".toList ++ QuotedName.ofArgument extra)).complain
        (OptionTable.hint i.name)

/-! ## Installing -/

/-- Copies files with permissions, or makes directories. -/
def installProgram : Program := fun i =>
  let table : OptionTable :=
    ⟨("bcCdDpsTv".toList.map fun c => (c, .never)) ++
      [('m', .always), ('o', .always), ('g', .always), ('S', .always), ('t', .always)],
      [("mode", 'm', .always), ("directory", 'd', .never), ("verbose", 'v', .never),
        ("target-directory", 't', .always), ("preserve-timestamps", 'p', .never),
        ("no-target-directory", 'T', .never)], false⟩
  table.run "install" 1 (fun _ => none) i fun given operands =>
    let text := (givenValue? given 'm').getD "755".toList
    match Mode.change? text with
    | none => i.start.fail i.name 1 ("invalid mode ".toList ++ QuotedName.ofArgument text)
    | some steps =>
      let withMode (path : Octets) (e : Effect) : Effect :=
        match e.files.resolve (Octets.toText path) with
        | .ok t =>
          let isDirectory := t.entry.any Entry.isDirectory
          { e with files := e.files.setMode t.location (Mode.changed isDirectory 0 steps 0) }
        | .error _ => e
      if isGiven given 'd' then
        if operands.isEmpty then missingOperand i "missing file operand"
        else
          operands.foldl (fun e path =>
            withMode path (e.change i.name ("cannot create directory ".toList ++
              QuotedName.ofArgument path) fun files =>
                files.createDirectories (Octets.toText path))) i.start
      else
        let m : Manner :=
          { program := i.name, form := .copy, recursive := false, following := .always,
            overwriting := .always, updates := false, tells := isGiven given 'v',
            preserves := isGiven given 'p', removesFirst := true, forces := false,
            keepsNames := false, backup := backup? i given }
        toTarget m i given operands fun source target p =>
          let p := if isGiven given 'D' then
            let folder := (Path.parent? (Octets.toText target)).getD ""
            { p with effect := { p.effect with
              files := (p.effect.files.createDirectories folder).1 } }
          else p
          if p.effect.files.isDirectory (Octets.toText source) then
            p.fail m ("omitting directory ".toList ++ QuotedName.always source)
          else
            let code := p.effect.code
            let p := transfer m maxDepth true [] source target p
            if p.effect.code = code then { p with effect := withMode target p.effect } else p

end CallForest
