import CallForest.Shell.Expansion

/-!
# Redirections

What redirections do to descriptors. All words of the redirections of a command are expanded before
the first file is opened; then the files are opened in order, up to the first that cannot be.
-/

namespace CallForest.Shell

/-- A redirection whose words are expanded. -/
inductive Opening where
  | file (descriptor : Nat) (mode : OpenMode) (path : Octets)
  /-- No source closes the descriptor. -/
  | duplicate (descriptor : Nat) (source : Option Nat)
  | document (descriptor : Nat) (content : Octets)

/-- What is said of a file that cannot be opened. -/
def openProblem (dialect : Dialect) (mode : OpenMode) (path : Octets) (e : OsError) : Octets :=
  let creates := mode ≠ .read
  match dialect with
  | .plain =>
    let reason :=
      if e = .notFound ∨ e = .notDirectory then
        if creates then "Directory nonexistent" else "No such file"
      else e.reason
    (if creates then "cannot create " else "cannot open ").toList ++ path ++ ": ".toList ++
      reason.toList
  | .extended =>
    path ++ ": ".toList ++
      (if e = .fileExists then "cannot overwrite existing file" else e.reason).toList

/-- The descriptor that a path of a device stands for. -/
def descriptorOf? (path : Octets) : Option Nat :=
  match String.ofList path with
  | "/dev/stdin" => some 0
  | "/dev/stdout" => some 1
  | "/dev/stderr" => some 2
  | _ =>
    let fronts := ["/dev/fd/", "/proc/self/fd/"].filter fun f => f.toList.isPrefixOf path
    match fronts with
    | f :: _ =>
      match path.drop f.length with
      | [c] => Text.digitValue? c
      | _ => none
    | [] => none

/-- How a target is open in a mode. -/
def OpenMode.opened (mode : OpenMode) (target : Target) : OpenFile :=
  match mode with
  | .read => ⟨target, 0, false, true, false⟩
  | .write | .writeOver => ⟨target, 0, false, false, true⟩
  | .append => ⟨target, 0, true, false, true⟩
  | .readWrite => ⟨target, 0, false, true, true⟩

/-- Whether what is in a file is lost when it is opened in a mode. -/
def OpenMode.empties : OpenMode → Bool
  | .write | .writeOver => true
  | .read | .append | .readWrite => false

namespace State

/-- Leaves nothing in what an open file leads to, if that can be. -/
def emptied (st : State) : Target → State
  | .buffer n =>
    if (st.buffers[n]?).any Buffer.isFile then
      { st with buffers := st.buffers.set! n (.ofContent [] true) }
    else st
  | .file number => { st with files := (st.files.change number fun _ => []).1 }
  | .device _ | .directory | .program => st

/-- Opens once more what a descriptor stands for. -/
def openAgain (st : State) (descriptor source : Nat) (mode : OpenMode) :
    State × Except OsError Unit :=
  match st.openFile? source with
  | none => (st, .error .notFound)
  | some (_, file) =>
    let st := if mode.empties then st.emptied file.target else st
    (st.openAs descriptor (mode.opened file.target), .ok ())

/-- Opens the file at a path for a descriptor. -/
def openPath (st : State) (descriptor : Nat) (mode : OpenMode) (path : Octets) :
    State × Except OsError Unit :=
  match descriptorOf? path with
  | some source => st.openAgain descriptor source mode
  | none =>
    let name := Octets.toText path
    let (files, made) : FileSystem × Except OsError Unit :=
      match mode with
      | .read => (st.files, .ok ())
      | .write =>
        if st.has 'C' && st.files.isFile name then (st.files, .error .fileExists)
        else st.files.write name []
      | .writeOver => st.files.write name []
      | .append | .readWrite => st.files.append name []
    let st := { st with files := files }
    match made, files.resolve name with
    | .error e, _ => (st, .error e)
    | .ok (), .error e => (st, .error e)
    | .ok (), .ok target =>
      match target.entry with
      | none => (st, .error .notFound)
      | some (.device .terminal) => (st, .error .noDevice)
      | some (.device d) => (st.openAs descriptor (mode.opened (.device d)), .ok ())
      | some (.file number) => (st.openAs descriptor (mode.opened (.file number)), .ok ())
      | some (.directory _ _) => (st.openAs descriptor (mode.opened .directory), .ok ())
      | some (.program _) | some (.link _) =>
        (st.openAs descriptor (mode.opened .program), .ok ())

/-- Does what a redirection asks for, or says why it cannot. -/
def redirect (st : State) (o : Opening) : State × Except Octets Unit :=
  match o with
  | .file d mode path =>
    match st.openPath d mode path with
    | (st, .ok ()) => (st, .ok ())
    | (st, .error e) => (st, .error (openProblem st.dialect mode path e))
  | .duplicate d none => (st.close d, .ok ())
  | .duplicate d (some source) =>
    match st.duplicate d source with
    | some st => (st, .ok ())
    | none => (st, .error (Text.decimal source ++ ": Bad file descriptor".toList))
  | .document d content =>
    let (n, st) := st.newBuffer content
    (st.openAs d (bufferFile n false), .ok ())

/-- Does what redirections ask for, up to the first that cannot be done. -/
def redirectAll (st : State) : List Opening → State × Except Octets Unit
  | [] => (st, .ok ())
  | o :: os =>
    match st.redirect o with
    | (st, .ok ()) => st.redirectAll os
    | (st, .error e) => (st, .error e)

end State

namespace Runner

variable (r : Runner)

/-- The only text that a word of a redirection comes to. -/
def redirectText (w : Word) : Run Octets := do
  if (← get).isExtended then
    match ← r.fields w with
    | [s] => return s
    | _ => Run.abort (w.source ++ ": ambiguous redirect".toList)
  else r.text w

/-- The descriptor that a text names, none for a hyphen. -/
def sourceDescriptor (s : Octets) : Run (Option Nat) := do
  let extended := (← get).isExtended
  if s = ['-'] then return none
  else if !s.isEmpty && s.all Char.isDigit && (s.length = 1 || extended) then
    return some (Numeral.digitsFrom 10 0 s).1
  else if extended then Run.abort (s ++ ": ambiguous redirect".toList)
  else Run.abort "Syntax error: Bad fd number".toList

/-- Expands the words of a redirection. -/
def opening (redirect : Redirect) : Run (List Opening) := do
  match redirect with
  | .file d mode path => return [.file d mode (← r.redirectText path)]
  | .duplicate d source =>
    let source ← sourceDescriptor (← r.text source)
    return [.duplicate d source]
  | .document d number =>
    let w := ((← get).documents.lookup number).getD []
    let f ← r.pieces false w (.empty none)
    return [.document d (Marked.text f.joined)]
  | .text d w =>
    let s ← r.text w
    return [.document d (s ++ ['\n'])]
  | .outputs mode path => return [.file 1 mode (← r.redirectText path), .duplicate 2 (some 1)]

/-- Expands the words of redirections. -/
def openings : List Redirect → Run (List Opening)
  | [] => return []
  | redirect :: redirects => do
    let os ← r.opening redirect
    let more ← openings redirects
    return os ++ more

/-- The status of a command whose redirections cannot be done. -/
def redirectFailure (st : State) : Nat := if st.isExtended then 1 else 2

/-- Does what redirections ask for. If one cannot be done, that is said, the status tells it and the
result is `false`. -/
def redirected (redirects : List Redirect) : Run Bool := do
  if redirects.isEmpty then return true
  let outer := (← get).builtin
  let expanded : Run (Option (List Opening)) := fun st =>
    match r.openings redirects st with
    | (.error .fault, after) => if st.isExtended then (.ok none, after) else (.error .fault, after)
    | (.error stop, after) => (.error stop, after)
    | (.ok os, after) => (.ok (some os), after)
  match ← expanded with
  | none =>
    modify fun st => { st.withStatus 1 with builtin := outer }
    return false
  | some openings =>
    let (st, result) := (← get).redirectAll openings
    match result with
    | .ok () =>
      set st
      return true
    | .error problem =>
      set ((st.warn problem).withStatus (redirectFailure st))
      return false

end Runner

end CallForest.Shell
