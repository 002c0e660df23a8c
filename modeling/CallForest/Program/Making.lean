import CallForest.Program.Dates
import CallForest.Program.Input
import CallForest.Program.Permissions
import CallForest.Program.Removing

/-!
# Programs that make files and directories

`mkdir` makes directories, `touch` files that are missing, `truncate` files of a size, and `mktemp`
files that nobody else has.
-/

namespace CallForest

/-! ## Directories -/

/-- Makes directories, and with `-p` those that they stand in. -/
def mkdirProgram : Program := fun i =>
  let table : OptionTable :=
    ⟨[('p', .never), ('v', .never), ('m', .always), ('Z', .never)],
      [("parents", 'p', .never), ("verbose", 'v', .never), ("mode", 'm', .always)], false⟩
  table.run "mkdir" 1 (fun _ => none) i fun given operands =>
    if operands.isEmpty then missingOperand i "missing operand"
    else
      match (givenValue? given 'm').map fun m => (m, Mode.change? m) with
      | some (m, none) => i.start.fail i.name 1 ("invalid mode ".toList ++ QuotedName.ofArgument m)
      | some (_, some steps) => operands.foldl (make i.name given (some steps)) i.start
      | none => operands.foldl (make i.name given none) i.start
where
  /-- Makes one directory unless a failure came before. -/
  makeStep (program : Octets) (given : List GivenOption) (exact : Bool) (state : Effect × Bool)
      (path : String) : Effect × Bool :=
    let (e, failed) := state
    if failed || (!exact && e.files.isDirectory path) then state
    else
      match e.files.createDirectory path with
      | (files, .ok ()) =>
        let e := { e with files := files }
        let told := program ++ ": created directory ".toList ++
          QuotedName.always (Octets.ofText path) ++ ['\n']
        (if isGiven given 'v' then e.print told else e, false)
      | (_, .error x) =>
        let x := if !exact && x = .fileExists && (Path.pieces path).length = 0 then .notFound else x
        (e.fail program 1
          ("cannot create directory ".toList ++ QuotedName.ofArgument (Octets.ofText path) ++
            ": ".toList ++ x.reason.toList), true)
  /-- Makes what an operand names. -/
  make (program : Octets) (given : List GivenOption) (steps? : Option (List Mode.Step))
      (e : Effect) (operand : Octets) : Effect :=
    let path := Octets.toText operand
    let isThere := e.files.isDirectory path
    let (e, failed) :=
      if isGiven given 'p' then
        let above := ((Path.ancestors path).filter fun p => !p.isEmpty && p ≠ "/").reverse
        let blocked := above.dropLast.find? fun p => e.files.exists? p && !e.files.isDirectory p
        match blocked with
        | some p =>
          (e.fail program 1
            ("cannot create directory ".toList ++ QuotedName.ofArgument (Octets.ofText p) ++
              ": Not a directory".toList), true)
        | none =>
          if path.isEmpty then makeStep program given true (e, false) path
          else above.foldl (makeStep program given false) (e, false)
      else makeStep program given true (e, false) path
    match steps?, e.files.resolve path with
    | some steps, .ok target =>
      if failed || isThere then e
      else
        let mode := Mode.changed true e.files.mask steps Mode.ofDirectory
        { e with files := e.files.setMode target.location mode }
    | _, _ => e

/-! ## Files that are missing -/

/-- The time of a file that is touched, or what is wrong with how it is told. -/
def touchTime? (i : Invocation) (given : List GivenOption) : Except Octets Int :=
  let now := i.files.time
  match givenValue? given 'r', givenValue? given 'd', givenValue? given 't' with
  | some name, _, _ =>
    match i.files.entry (Octets.toText name) with
    | .ok e => .ok (i.files.modifiedAt e)
    | .error x =>
      .error ("failed to get attributes of ".toList ++ QuotedName.always name ++ ": ".toList ++
        x.reason.toList)
  | none, some s, _ =>
    match Date.time? now s with
    | some t => .ok t.1
    | none => .error ("invalid date format ".toList ++ QuotedName.ofArgument s)
  | none, none, some s =>
    match Date.stamp? now s with
    | some t => .ok t
    | none => .error ("invalid date format ".toList ++ QuotedName.ofArgument s)
  | none, none, none => .ok now

/-- Makes files that are missing, and sets when files were changed. -/
def touchProgram : Program := fun i =>
  let table : OptionTable :=
    ⟨[('a', .never), ('c', .never), ('m', .never), ('f', .never), ('h', .never), ('d', .always),
      ('r', .always), ('t', .always)],
      [("no-create", 'c', .never), ("no-dereference", 'h', .never), ("date", 'd', .always),
        ("reference", 'r', .always), ("time", 'T', .always)], false⟩
  table.run "touch" 1 (fun _ => none) i fun given operands =>
    match touchTime? i given with
    | .error problem => i.start.fail i.name 1 problem
    | .ok time =>
      if operands.isEmpty then missingOperand i "missing file operand"
      else operands.foldl (touch i.name given time) i.start
where
  /-- Makes one file or sets its time. -/
  touch (program : Octets) (given : List GivenOption) (time : Int) (e : Effect)
      (operand : Octets) : Effect :=
    let path := Octets.toText operand
    let isThere := e.files.exists? path
    if operand = ['-'] || e.files.isDirectory path || (isGiven given 'c' && !isThere) then e
    else if path.endsWith "/" then
      let x := match e.files.entry path with
        | .ok _ => OsError.notFound
        | .error x => x
      e.fail program 1 ("setting times of ".toList ++ QuotedName.always operand ++
        ": ".toList ++ x.reason.toList)
    else
      let e := e.change program ("cannot touch ".toList ++ QuotedName.always operand) fun files =>
        files.append path []
      match e.files.entry path with
      | .ok (.file number) =>
        match e.files.stored[number]? with
        | some file =>
          if isGiven given 'a' && !isGiven given 'm' then e
          else { e with files := e.files.store number { file with modified := time } }
        | none => e
      | _ => e

/-! ## Files of a size -/

/-- Sets the sizes of files. -/
def truncateProgram : Program := fun i =>
  let table : OptionTable :=
    ⟨[('c', .never), ('o', .never), ('r', .always), ('s', .always)],
      [("no-create", 'c', .never), ("io-blocks", 'o', .never), ("reference", 'r', .always),
        ("size", 's', .always)], false⟩
  table.run "truncate" 1 (fun _ => none) i fun given operands =>
    let relation? : Option (Option Char × Octets) := (givenValue? given 's').map fun s =>
      match s.dropWhile Numeral.isBlank with
      | c :: cs => if c ∈ "<>/%+-".toList then (some c, cs) else (none, c :: cs)
      | [] => (none, [])
    let reference? := (givenValue? given 'r').map fun name =>
      (name, i.files.entry (Octets.toText name))
    match reference?, relation?.map fun r => (r.1, size? r.2) with
    | none, none =>
      (i.start.fail i.name 1 "you must specify either '--size' or '--reference'".toList).complain
        (OptionTable.hint i.name)
    | _, some (_, .error x) =>
      i.start.fail i.name 1 (x.message "Invalid number" ((givenValue? given 's').getD []))
    | some (name, .error x), _ =>
      i.start.fail i.name 1
        ("cannot stat ".toList ++ QuotedName.always name ++ ": ".toList ++ x.reason.toList)
    | some (_, .ok entry), relation =>
      let (kind, n) : Option Char × Nat := match relation with
        | some (kind, .ok n) => (kind, n)
        | _ => (some '+', 0)
      if operands.isEmpty then missingOperand i "missing file operand"
      else operands.foldl (resize i.name given kind n (some (i.files.sizeOf entry))) i.start
    | none, some (kind, .ok n) =>
      if operands.isEmpty then missingOperand i "missing file operand"
      else if n = 0 && (kind = some '/' || kind = some '%') then
        i.start.fail i.name 1 "division by zero".toList
      else operands.foldl (resize i.name given kind n none) i.start
where
  /-- The size that a size is changed to. -/
  newSize (kind : Option Char) (n old : Nat) : Nat :=
    match kind with
    | some '+' => old + n
    | some '-' => old - n
    | some '<' => min old n
    | some '>' => max old n
    | some '/' => old / n * n
    | some '%' => (old + n - 1) / n * n
    | _ => n
  /-- Sets the size of one file. -/
  resize (program : Octets) (given : List GivenOption) (kind : Option Char) (n : Nat)
      (base : Option Nat) (e : Effect) (operand : Octets) : Effect :=
    let path := Octets.toText operand
    if isGiven given 'c' && !e.files.exists? path then e
    else
      match e.files.update path fun old =>
          let size := newSize kind n (base.getD old.length)
          old.take size ++ List.replicate (size - old.length) 0 with
      | (files, .ok ()) => { e with files := files }
      | (_, .error x) =>
        e.fail program 1 ("cannot open ".toList ++ QuotedName.always operand ++
          " for writing: ".toList ++ x.reason.toList)

/-! ## Files that nobody else has -/

/-- A name that is made of a template by putting letters in the place of its last letters X. -/
def filledTemplate? (seed : Nat) (template suffix : Octets) : Option Octets :=
  let count := (template.reverse.takeWhile (· = 'X')).length
  if count < 3 then none
  else
    let letters := "abcdefghijklmnopqrstuvwxyzABCDEFGHIJKLMNOPQRSTUVWXYZ0123456789".toList
    let letter (n : Nat) : Char :=
      letters.getD ((seed * 7919 + n * 104729 + seed / 31 * (n + 17)) % letters.length) 'a'
    some (template.take (template.length - count) ++ (List.range count).map letter ++ suffix)

/-- Makes a file or a directory that nobody else has, and prints its path. -/
def mktempProgram : Program := fun i =>
  let table : OptionTable :=
    ⟨[('d', .never), ('u', .never), ('q', .never), ('t', .never), ('p', .always)],
      [("directory", 'd', .never), ("dry-run", 'u', .never), ("quiet", 'q', .never),
        ("suffix", 'S', .always), ("tmpdir", 'P', .optional)], false⟩
  table.run "mktemp" 1 (fun _ => none) i fun given operands =>
    let directory : Octets :=
      ((i.environment.lookup "TMPDIR").filter fun s => !s.isEmpty).getD "/tmp".toList
    let inDirectory := isGiven given 'p' || isGiven given 'P' || isGiven given 't'
    match operands with
    | _ :: _ :: _ =>
      (i.start.fail i.name 1 "too many templates".toList).complain (OptionTable.hint i.name)
    | operands =>
      let template := operands.headD "tmp.XXXXXXXXXX".toList
      let lastX := (template.reverse.dropWhile (· ≠ 'X')).reverse
      let suffix := (givenValue? given 'S').getD (template.drop lastX.length)
      let front := if isGiven given 'S' then template else lastX
      if isGiven given 'S' && template.getLast? ≠ some 'X' then
        i.start.fail i.name 1 ("with --suffix, template ".toList ++
          QuotedName.ofArgument template ++ " must end in X".toList)
      else if '/' ∈ suffix then
        i.start.fail i.name 1 ("invalid suffix ".toList ++ QuotedName.ofArgument suffix ++
          ", contains directory separator".toList)
      else
        let tries := i.files.stored.size + 10 * i.files.root.names.length
        match filledTemplate? tries front suffix with
        | none =>
          i.start.fail i.name 1
            ("too few X's in template ".toList ++ QuotedName.ofArgument (front ++ suffix))
        | some name =>
          let given' := ((givenValue? given 'p').orElse fun _ => givenValue? given 'P').filter
            fun s => !s.isEmpty
          let place := given'.getD directory
          if inDirectory && name.head? = some '/' then
            i.start.fail i.name 1
              ("invalid template, ".toList ++ QuotedName.ofArgument template ++
                "; with --tmpdir, it may not be absolute".toList)
          else
            let path :=
              if inDirectory || operands.isEmpty then Removal.within place (Octets.toText name)
              else name
            make i given path ((if inDirectory || operands.isEmpty then
              Removal.within place (Octets.toText (front ++ suffix)) else front ++ suffix))
where
  /-- Makes what is wanted at a path. -/
  make (i : Invocation) (given : List GivenOption) (path shown : Octets) : Effect :=
    let text := Octets.toText path
    let told := i.start.print (path ++ ['\n'])
    let isDirectory := isGiven given 'd'
    let (files, result) : FileSystem × Except OsError Unit :=
      if isGiven given 'u' then (i.files, .ok ())
      else if isDirectory then i.files.createDirectory text
      else i.files.write text []
    match result, files.resolve text with
    | .ok (), .ok target =>
      if isGiven given 'u' then told
      else
        { told with
          files := files.setMode target.location (if isDirectory then 0o700 else 0o600) }
    | .error x, _ | _, .error x =>
      if isGiven given 'q' then i.start.withCode 1
      else
        i.start.fail i.name 1
          ((if isDirectory then "failed to create directory via template "
            else "failed to create file via template ").toList ++ QuotedName.ofArgument shown ++
            ": ".toList ++ x.reason.toList)

end CallForest
