import CallForest.Proofs.Files.Removal
import CallForest.Proofs.Ingest.Programs
import CallForest.Proofs.Text.Lines

/-!
# Nothing is left of scratch copies

A collaborator that is a program works on a copy of the source in a scratch directory. On its way a
request may fail in many places: the source cannot be read, the copy cannot be made or not be
written to its end, the program cannot be started, is killed, fails or does not end, or what it
printed cannot be read. `Faults` has those of them that the operating system brings about, each at
its place, and a request without faults is what a collaborator does (`perform_absent`).

Wherever it ends, the copy is gone: the scratch directory lists what it did before, if the program
has left the names there as they were; and what was there before, the source among it, is as it was,
unless the program has changed it (`request_leavesNothing`). The tool does not keep a program from
changing the source (`source_may_change`).
-/

namespace CallForest

/-! ## Names of copies -/

namespace Path

theorem slash_not_mem_of_mem_pieces {path name : String} (h : name ∈ pieces path) :
    '/' ∉ name.toList := by
  obtain ⟨piece, hpiece, rfl⟩ := List.mem_map.mp h
  rw [String.toList_ofList]
  exact Text.not_mem_of_mem_splitOn (List.mem_filter.mp hpiece).1

theorem slash_not_mem_of_fileName? {path name : String} (h : fileName? path = some name) :
    '/' ∉ name.toList := by
  suffices hpiece : name ∈ pieces path from slash_not_mem_of_mem_pieces hpiece
  rw [fileName?] at h
  split at h
  · next n hlast =>
    split at h
    · cases h
    · cases h
      have hmem := List.mem_of_getLast? hlast
      rw [components] at hmem
      split at hmem
      · cases hmem
      · next p ps hpieces =>
        rw [hpieces]
        dsimp only at hmem
        split at hmem
        · exact List.mem_cons_of_mem p (List.mem_filter.mp hmem).1
        · exact (List.mem_cons.mp hmem).elim (fun heq => heq ▸ List.mem_cons_self)
            fun hrest => List.mem_cons_of_mem p (List.mem_filter.mp hrest).1
  · cases h

end Path

namespace Scratch

open CallForest.Path (IsProperName)

theorem slash_not_mem_tag (width n : Nat) : '/' ∉ tag width n := by
  induction width generalizing n with
  | zero => exact List.not_mem_nil
  | succ width ih =>
      rw [tag, List.mem_append, List.mem_singleton, not_or]
      refine ⟨ih _, fun heq => ?_⟩
      have hchars : '/' ∉ tagChars := by decide
      rw [List.getD_eq_getElem?_getD] at heq
      cases hc : tagChars[n % tagChars.length]? with
      | none =>
          rw [hc] at heq
          cases heq
      | some c =>
          rw [hc] at heq
          exact hchars (heq ▸ List.mem_of_getElem? hc)

theorem slash_not_mem_suffix (source : String) : '/' ∉ (suffix source).toList := by
  rw [suffix]
  cases hextension : Path.extension? source with
  | none => exact List.not_mem_nil
  | some extension =>
      obtain ⟨name, hname, hextension⟩ := Option.bind_eq_some_iff.mp hextension
      obtain ⟨stem, -, -, rfl⟩ := Path.nameExtension?_eq_some.mp hextension
      have hslash := Path.slash_not_mem_of_fileName? hname
      simp only [String.toList_append, List.mem_append, not_or] at hslash ⊢
      exact ⟨by decide, hslash.2⟩

/-- A copy has a name that no directory has for itself or for the one above. -/
theorem isProperName_name (source : String) (n : Nat) : IsProperName (name source n) := by
  have hne : ∀ other : String, other.length < 11 → name source n ≠ other := by
    rintro other hlength rfl
    rw [name, String.length_append, String.length_append, show stem.length = 11 by decide]
      at hlength
    omega
  refine ⟨hne "" (by decide), ?_, hne "." (by decide), hne ".." (by decide)⟩
  rw [name, String.toList_append, String.toList_append, String.toList_ofList, List.mem_append,
    List.mem_append, not_or, not_or]
  exact ⟨⟨by decide, slash_not_mem_tag 6 n⟩, slash_not_mem_suffix source⟩

/-- The path of a copy is a name joined to that of the directory. -/
theorem exists_path_eq (fs : FileSystem) (directory source : String) :
    ∃ name, IsProperName name ∧
      path fs directory source = Path.join (fs.absolute directory) name :=
  ⟨_, isProperName_name source _, rfl⟩

/-! ## The life of a copy -/

/-- A copy has been made, and perhaps written: its name is new in the directory, and what was to be
seen before still is. -/
structure Made (fs : FileSystem) (directory source : String) (copy : String)
    (made : FileSystem) : Prop where
  copy_eq : copy = path fs directory source
  result_eq : (fs.createFile copy Mode.ofPrivateFile).2 = .ok ()
  listed?_eq : made.listed? (fs.absolute directory) =
    (fs.createFile copy Mode.ofPrivateFile).1.listed? (fs.absolute directory)
  seen?_eq : ∀ other, (fs.seen? other).isSome → (∀ n ∈ fs.fileOf? other, n < fs.stored.size) →
    made.seen? other = fs.seen? other

section Made

variable {fs made gs : FileSystem} {directory source copy other : String}

/-- Whatever is written to a copy that has just been made. -/
theorem made_write (hcopy : copy = path fs directory source)
    (hok : (fs.createFile copy Mode.ofPrivateFile).2 = .ok ()) (text : Bytes) :
    Made fs directory source copy
      ((fs.createFile copy Mode.ofPrivateFile).1.write copy text).1 := by
  obtain ⟨-, -, -, -, hslash, -⟩ := FileSystem.exists_of_createFile hok
  have hfile : fs.stored.size ∈ (fs.createFile copy Mode.ofPrivateFile).1.fileOf?
      (Path.withoutSlashes copy) := by
    rw [FileSystem.withoutSlashes_eq hslash]
    exact FileSystem.mem_fileOf?_createFile (hcopy ▸ isAbsolute_path fs directory source) hok
  rw [FileSystem.write]
  refine ⟨hcopy, hok, FileSystem.listed?_update hfile _ _, fun other hseen hstored => ?_⟩
  have hmade := FileSystem.seen?_createFile hok hseen hstored
  refine (FileSystem.seen?_update hfile (fun hother => ?_) _).trans hmade
  exact Nat.lt_irrefl _ (hstored _ (FileSystem.mem_fileOf?_of_seen?_eq hmade hseen hother))

/-- When the copy is removed, the directory lists what it did before there was one. -/
theorem Made.listed?_removeFile (h : Made fs directory source copy made)
    (hlisted : gs.listed? (fs.absolute directory) = made.listed? (fs.absolute directory)) :
    (gs.removeFile copy).1.listed? (fs.absolute directory) =
      fs.listed? (fs.absolute directory) := by
  obtain ⟨name, hname, hpath⟩ := exists_path_eq fs directory source
  have hok := h.result_eq
  have hmade := hlisted.trans h.listed?_eq
  rw [h.copy_eq, hpath] at hok hmade ⊢
  exact FileSystem.listed?_removeFile hname (fs.isAbsolute_absolute directory) hok hmade

/-- And what was to be seen before is so again. -/
theorem Made.seen?_removeFile (h : Made fs directory source copy made)
    (hlisted : gs.listed? (fs.absolute directory) = made.listed? (fs.absolute directory))
    (hseen : (fs.seen? other).isSome) (hstored : ∀ n ∈ fs.fileOf? other, n < fs.stored.size)
    (hsame : gs.seen? other = made.seen? other) :
    (gs.removeFile copy).1.seen? other = fs.seen? other := by
  obtain ⟨name, hname, hpath⟩ := exists_path_eq fs directory source
  have hok := h.result_eq
  have hmade := hlisted.trans h.listed?_eq
  rw [h.copy_eq, hpath] at hok hmade ⊢
  exact FileSystem.seen?_removeFile hname (fs.isAbsolute_absolute directory) hok hmade hseen hstored
    (hsame.trans (h.seen?_eq other hseen hstored))

end Made

end Scratch

/-! ## Requests under faults -/

/-- What the operating system may refuse in the course of a request. -/
structure Faults where
  /-- The source is not read. -/
  reading : Option OsError
  /-- No copy is made. -/
  making : Option OsError
  /-- So many bytes of the copy are written, and then there is an error. -/
  writing : Option (Nat × OsError)
  /-- There is nowhere to put what the program prints, so that it is not started. -/
  capturing : Option OsError
  /-- The program has been started, but how it ends or what it prints is not found out. -/
  collecting : Option OsError

namespace Faults

/-- Nothing is refused that would not be anyway. -/
def absent : Faults := ⟨none, none, none, none, none⟩

variable (faults : Faults) (fs : FileSystem)

/-- Reads the source. -/
def read (source : String) : Except OsError Bytes :=
  match faults.reading with
  | some e => .error e
  | none => fs.read source

/-- Makes the copy. -/
def createFile (copy : String) : FileSystem × Except OsError Unit :=
  match faults.making with
  | some e => (fs, .error e)
  | none => fs.createFile copy Mode.ofPrivateFile

/-- Writes the copy. -/
def write (copy : String) (text : Bytes) : FileSystem × Except OsError Unit :=
  match faults.writing with
  | some (count, e) => ((fs.write copy (text.take count)).1, .error e)
  | none => fs.write copy text

@[simp] theorem read_absent (source : String) : absent.read fs source = fs.read source :=
  rfl

@[simp] theorem createFile_absent (copy : String) :
    absent.createFile fs copy = fs.createFile copy Mode.ofPrivateFile :=
  rfl

@[simp] theorem write_absent (copy : String) (text : Bytes) :
    absent.write fs copy text = fs.write copy text :=
  rfl

/-- A copy is made as it would be, or nothing is done. -/
theorem createFile_cases (copy : String) :
    (∃ e, faults.createFile fs copy = (fs, .error e)) ∨
      faults.createFile fs copy = fs.createFile copy Mode.ofPrivateFile ∧
        (fs.createFile copy Mode.ofPrivateFile).2 = .ok () := by
  rw [createFile]
  cases faults.making with
  | some e => exact .inl ⟨e, rfl⟩
  | none =>
      cases hresult : (fs.createFile copy Mode.ofPrivateFile).2 with
      | error e =>
          exact .inl ⟨e, Prod.ext (FileSystem.fst_createFile_of_error hresult) hresult⟩
      | ok _ => exact .inr ⟨rfl, rfl⟩

/-- Something is written to the copy. -/
theorem exists_write_eq (copy : String) (text : Bytes) :
    ∃ written, (faults.write fs copy text).1 = (fs.write copy written).1 := by
  rw [write]
  split
  · exact ⟨_, rfl⟩
  · exact ⟨_, rfl⟩

end Faults

/-- What a collaborator does with a source: what it runs, for how long, and on a copy with which
line in front. -/
structure Request where
  spec : CommandSpec
  timeout : Option Nat
  prelude : Option String

namespace Request

/-- Makes the copy of a source file. A copy that cannot be written in full is removed again. -/
def create (r : Request) (faults : Faults) (fs : FileSystem) (source directory : String) :
    FileSystem × Except CollaboratorError String :=
  match faults.read fs source with
  | .error e => (fs, .error (.io source e none))
  | .ok bytes =>
    let target := Scratch.path fs directory source
    match faults.createFile fs target with
    | (fs, .error e) => (fs, .error (.io source e (some target)))
    | (fs, .ok ()) =>
      match faults.write fs target (Scratch.content r.prelude bytes) with
      | (fs, .ok ()) => (fs, .ok target)
      | (fs, .error e) => ((fs.removeFile target).1, .error (.io source e (some target)))

/-- Runs the program on an input file and takes what it prints. -/
def run (r : Request) (faults : Faults) (host : Host) (input : String) (fs : FileSystem) :
    Reply String :=
  match faults.capturing with
  | some e => ⟨fs, [], .error (.io input e none)⟩
  | none =>
    let reply := runProgram host r.spec input r.timeout fs
    match faults.collecting, reply.answer with
    | none, _ | some _, .error (.missing ..) => reply
    | some e, _ => { reply with answer := .error (.io input e none) }

/-- Runs the program on a scratch copy of a source file and removes the copy. -/
def perform (r : Request) (faults : Faults) (host : Host) (directory source : String)
    (fs : FileSystem) : Reply String :=
  match r.create faults fs source directory with
  | (fs, .error e) => ⟨fs, [], .error e⟩
  | (fs, .ok copy) =>
    let reply := r.run faults host copy fs
    { reply with files := (reply.files.removeFile copy).1 }

/-- The state in which the program is started, and the one that it leaves; none if it is not
started. -/
def ran? (r : Request) (faults : Faults) (host : Host) (directory source : String)
    (fs : FileSystem) : Option (FileSystem × FileSystem) :=
  match r.create faults fs source directory, faults.capturing with
  | (started, .ok copy), none =>
    match host r.spec.program (r.spec.args ++ [copy]) r.timeout .files started with
    | .ok run => some (started, run.files)
    | .error _ => none
  | _, _ => none

variable {r : Request} {faults : Faults} {host : Host} {fs : FileSystem}
  {directory source : String}

/-! ### Without faults -/

theorem create_absent (r : Request) (fs : FileSystem) (source directory : String) :
    r.create .absent fs source directory = Scratch.create fs source directory r.prelude := by
  cases hread : fs.read source with
  | error e => simp [create, Scratch.create, hread]
  | ok bytes =>
      obtain ⟨⟨made, e | _⟩, hmade⟩ : ∃ x,
        fs.createFile (Scratch.path fs directory source) Mode.ofPrivateFile = x := ⟨_, rfl⟩
      · simp [create, Scratch.create, hread, hmade]
      · obtain ⟨⟨written, e | _⟩, hwritten⟩ : ∃ x, made.write (Scratch.path fs directory source)
          (Scratch.content r.prelude bytes) = x := ⟨_, rfl⟩
        · simp [create, Scratch.create, hread, hmade, hwritten]
        · simp [create, Scratch.create, hread, hmade, hwritten]

/-- **Without faults a request is what a collaborator does.** -/
theorem perform_absent (r : Request) (host : Host) (directory source : String) (fs : FileSystem) :
    r.perform .absent host directory source fs =
      runOnCopy host r.spec r.timeout r.prelude directory source fs := by
  rw [perform, create_absent, runOnCopy]
  rfl

/-! ### What a request can come to -/

/-- All that making a copy can come to: nothing has been done; or the copy has been made, and has
been written or is removed again. -/
theorem create_cases (r : Request) (faults : Faults) (fs : FileSystem) (source directory : String) :
    (∃ e, r.create faults fs source directory = (fs, .error e)) ∨
      ∃ copy made, Scratch.Made fs directory source copy made ∧
        (r.create faults fs source directory = (made, .ok copy) ∨
          ∃ e, r.create faults fs source directory = ((made.removeFile copy).1, .error e)) := by
  rw [create]
  cases faults.read fs source with
  | error e => exact .inl ⟨_, rfl⟩
  | ok bytes =>
      obtain ⟨copy, hcopy⟩ : ∃ copy, copy = Scratch.path fs directory source := ⟨_, rfl⟩
      dsimp only
      rw [← hcopy]
      obtain ⟨e, hnot⟩ | ⟨hmade, hok⟩ := faults.createFile_cases fs copy
      · rw [hnot]
        exact .inl ⟨_, rfl⟩
      · obtain ⟨text, htext⟩ := faults.exists_write_eq
          (fs.createFile copy Mode.ofPrivateFile).1 copy (Scratch.content r.prelude bytes)
        have hwritten := Scratch.made_write hcopy hok text
        rw [← htext] at hwritten
        rw [hmade, show fs.createFile copy Mode.ofPrivateFile =
          ((fs.createFile copy Mode.ofPrivateFile).1, .ok ()) from Prod.ext rfl hok]
        dsimp only
        generalize faults.write (fs.createFile copy Mode.ofPrivateFile).1 copy
          (Scratch.content r.prelude bytes) = x at hwritten
        obtain ⟨written, e | _⟩ := x
        · exact .inr ⟨copy, written, hwritten, .inr ⟨_, rfl⟩⟩
        · exact .inr ⟨copy, written, hwritten, .inl rfl⟩

/-- A source that is not there is not copied. -/
theorem create_of_not_seen (h : fs.seen? source = none) (r : Request) (faults : Faults)
    (directory : String) : ∃ e, r.create faults fs source directory = (fs, .error e) := by
  have hread : ∃ e, fs.read source = .error e := by
    rw [FileSystem.seen?, Option.map_eq_none_iff] at h
    rw [FileSystem.read]
    cases hentry : fs.entry source with
    | error e => exact ⟨e, rfl⟩
    | ok entry =>
        rw [hentry] at h
        cases h
  obtain ⟨e, hread⟩ := hread
  rw [create, Faults.read, hread]
  cases faults.reading with
  | none => exact ⟨_, rfl⟩
  | some e => exact ⟨_, rfl⟩

/-- A program that runs leaves some state, and one that does not leaves the state as it is. -/
theorem files_run (r : Request) (faults : Faults) (host : Host) (copy : String) (fs : FileSystem) :
    (r.run faults host copy fs).files =
      match faults.capturing, host r.spec.program (r.spec.args ++ [copy]) r.timeout .files fs with
      | none, .ok run => run.files
      | _, _ => fs := by
  have hprogram : (runProgram host r.spec copy r.timeout fs).files =
      match host r.spec.program (r.spec.args ++ [copy]) r.timeout .files fs with
      | .ok run => run.files
      | .error _ => fs := by
    rw [runProgram]
    cases host r.spec.program (r.spec.args ++ [copy]) r.timeout .files fs with
    | error e => rfl
    | ok run =>
        dsimp only
        split <;> rfl
  rw [run]
  cases faults.capturing with
  | some e => rfl
  | none =>
      dsimp only
      have hfiles : ∀ reply : Reply String, Reply.files (match faults.collecting, reply.answer with
          | none, _ | some _, .error (.missing ..) => reply
          | some e, _ => { reply with answer := .error (.io copy e none) }) = reply.files := by
        intro reply
        split <;> rfl
      rw [hfiles, hprogram]
      cases host r.spec.program (r.spec.args ++ [copy]) r.timeout .files fs <;> rfl

/-- All that a request can come to: no copy has been made, or the copy is removed from the state in
which it was made, or from the one that the program left. -/
theorem perform_cases (r : Request) (faults : Faults) (host : Host) (directory source : String)
    (fs : FileSystem) :
    (r.perform faults host directory source fs).files = fs ∨
      ∃ copy made after, Scratch.Made fs directory source copy made ∧
        (r.perform faults host directory source fs).files = (after.removeFile copy).1 ∧
          (after = made ∨ r.ran? faults host directory source fs = some (made, after)) := by
  rw [perform, ran?]
  obtain ⟨e, hnone⟩ | ⟨copy, made, hmade, hwritten | ⟨e, hcut⟩⟩ :=
    create_cases r faults fs source directory
  · rw [hnone]
    exact .inl rfl
  · rw [hwritten]
    refine .inr ⟨copy, made, _, hmade, rfl, ?_⟩
    rw [files_run]
    cases faults.capturing with
    | some e => exact .inl rfl
    | none =>
        dsimp only
        cases host r.spec.program (r.spec.args ++ [copy]) r.timeout .files made with
        | error e => exact .inl rfl
        | ok run => exact .inr rfl
  · rw [hcut]
    exact .inr ⟨copy, made, made, hmade, rfl, .inl rfl⟩

end Request

/-! ## What is left -/

instance : DecidableEq StoredFile := fun ⟨c, m, t⟩ ⟨c', m', t'⟩ =>
  decidable_of_iff (c = c' ∧ m = m' ∧ t = t') (by rw [StoredFile.mk.injEq])

/-- What is to be seen of the states before and after the program is the same, if it ran. -/
def LeftBy {α : Type} (ran? : Option (FileSystem × FileSystem)) (view : FileSystem → α) : Prop :=
  ∀ x ∈ ran?, view x.2 = view x.1

instance {α : Type} [DecidableEq α] (ran? : Option (FileSystem × FileSystem))
    (view : FileSystem → α) : Decidable (LeftBy ran? view) :=
  inferInstanceAs (Decidable (∀ x ∈ ran?, view x.2 = view x.1))

/-- Nothing of a request is left in `after`. -/
structure LeavesNothing (fs : FileSystem) (directory source : String)
    (ran? : Option (FileSystem × FileSystem)) (after : FileSystem) : Prop where
  /-- The directory lists the names that it did, for the same files, if the program has not changed
  that. -/
  listed?_eq : LeftBy ran? (·.listed? (fs.absolute directory)) →
    after.listed? (fs.absolute directory) = fs.listed? (fs.absolute directory)
  /-- The source is as it was, and so is whatever else was there, if the program has not changed
  it. -/
  seen?_eq : LeftBy ran? (·.listed? (fs.absolute directory)) →
    ∀ path, path = source ∨ (fs.seen? path).isSome → (∀ n ∈ fs.fileOf? path, n < fs.stored.size) →
      LeftBy ran? (·.seen? path) → after.seen? path = fs.seen? path

/-- Whatever goes wrong, and wherever, nothing is left of the copy. -/
theorem Request.leavesNothing (r : Request) (faults : Faults) (host : Host)
    (directory source : String) (fs : FileSystem) :
    LeavesNothing fs directory source (r.ran? faults host directory source fs)
      (r.perform faults host directory source fs).files := by
  have hunseen : fs.seen? source = none →
      (r.perform faults host directory source fs).files = fs := by
    intro h
    obtain ⟨e, hcreate⟩ := create_of_not_seen h r faults directory
    rw [perform, hcreate]
  obtain hsame | ⟨copy, made, after, hmade, hfiles, hafter⟩ :=
    r.perform_cases faults host directory source fs
  · rw [hsame]
    exact ⟨fun _ => rfl, fun _ _ _ _ _ => rfl⟩
  · have hview {α : Type} {view : FileSystem → α}
        (h : LeftBy (r.ran? faults host directory source fs) view) : view after = view made := by
      obtain rfl | hran := hafter
      · rfl
      · exact h _ hran
    constructor
    · intro hlisted
      rw [hfiles]
      exact hmade.listed?_removeFile (hview hlisted)
    · intro hlisted path hpath hstored hseen
      by_cases hthere : (fs.seen? path).isSome
      · rw [hfiles]
        exact hmade.seen?_removeFile (hview hlisted) hthere hstored (hview hseen)
      · obtain rfl := hpath.resolve_right hthere
        rw [hunseen (Option.not_isSome_iff_eq_none.mp hthere)]

/-- What a collaborator of a configuration does for output of a kind. -/
def DumpKind.request (c : Config) : DumpKind → Request
  | edges => ⟨c.extractor.commandSpec .callTree, c.extractor.timeout, c.extractor.prelude⟩
  | functions => ⟨c.extractor.commandSpec .crossReference, c.extractor.timeout, c.extractor.prelude⟩
  | complexity => ⟨⟨c.analyzer.program, c.analyzer.args⟩, c.analyzer.timeout, none⟩

namespace Ingest

/-- **Nothing of a scratch copy is left** when a collaborator has been asked, whatever it was asked
and whatever came of it: the scratch directory lists what it did, and the source is as it was, as
far as the program has not changed that. The requests without faults are those of the passes. -/
theorem request_leavesNothing (c : Config) (host : Host) (scratch : String) (kind : DumpKind)
    (source : String) (fs : FileSystem) :
    (kind.request c).perform .absent host scratch source fs =
        call (c.workshop host scratch) kind source fs ∧
      ∀ faults, LeavesNothing fs scratch source
        ((kind.request c).ran? faults host scratch source fs)
        ((kind.request c).perform faults host scratch source fs).files := by
  refine ⟨?_, fun faults => (kind.request c).leavesNothing faults host scratch source fs⟩
  rw [Request.perform_absent]
  cases kind <;> rfl

/-! Two programs: one writes behind the copy and is killed, one writes behind the source. -/

/-- A source, and a scratch directory that holds a file. -/
def notedFiles : FileSystem :=
  let root := .ofList [("scratch", .folder .nil), ("src", .folder .nil)]
  (((FileSystem.ofRoot root []).write "/src/a.c" (Utf8.encode "int x;\n")).1.write "/scratch/notes"
    (Utf8.encode "todo\n")).1

/-- A host whose programs write behind their input, and are killed. -/
def scribblingHost : Host := fun _ args _ _ files =>
  .ok ⟨.killed 9, [], [], (files.append (args.getLastD "") (Utf8.encode "int z;\n")).1⟩

/-- A host whose programs write behind a source. -/
def meddlingHost : Host := fun _ _ _ _ files =>
  .ok ⟨.exited 0, [], [], (files.append "/src/a.c" (Utf8.encode "int y;\n")).1⟩

/-- A disk that is full before the copy is. -/
def fullDisk : Faults := { Faults.absent with writing := some (3, .noSpace) }

/-- The state before and after the scribbling program. -/
def scribbled? (faults : Faults) : Option (FileSystem × FileSystem) :=
  (DumpKind.edges.request .default).ran? faults scribblingHost "/scratch" "/src/a.c" notedFiles

/-- What is left when that program has been asked. -/
def afterScribbling (faults : Faults) : FileSystem :=
  ((DumpKind.edges.request .default).perform faults scribblingHost "/scratch" "/src/a.c"
    notedFiles).files

theorem request_leavesNothing_scribbled :
    LeftBy (scribbled? .absent) (·.listed? (notedFiles.absolute "/scratch")) ∧
      LeftBy (scribbled? .absent) (·.seen? "/src/a.c") ∧
      (afterScribbling .absent).listed? (notedFiles.absolute "/scratch") =
        some [("notes", .file 1)] ∧
      (afterScribbling .absent).seen? "/src/a.c" = notedFiles.seen? "/src/a.c" ∧
      (afterScribbling fullDisk).listed? (notedFiles.absolute "/scratch") =
        some [("notes", .file 1)] := by
  have hleaves : ∀ faults, LeavesNothing notedFiles "/scratch" "/src/a.c" (scribbled? faults)
      (afterScribbling faults) :=
    (request_leavesNothing .default scribblingHost "/scratch" .edges "/src/a.c" notedFiles).2
  have hlisted : LeftBy (scribbled? .absent) (·.listed? (notedFiles.absolute "/scratch")) := by
    decide +kernel
  have hseen : LeftBy (scribbled? .absent) (·.seen? "/src/a.c") := by decide +kernel
  have hbefore : notedFiles.listed? (notedFiles.absolute "/scratch") =
      some [("notes", .file 1)] := by
    decide +kernel
  have hstored : ∀ n ∈ notedFiles.fileOf? "/src/a.c", n < notedFiles.stored.size := by
    decide +kernel
  refine ⟨hlisted, hseen, ((hleaves .absent).listed?_eq hlisted).trans hbefore, ?_, ?_⟩
  · exact (hleaves .absent).seen?_eq hlisted "/src/a.c" (.inl rfl) hstored hseen
  · exact ((hleaves fullDisk).listed?_eq (by decide +kernel)).trans hbefore

/-- **A program may change the source** and leave the scratch directory as it is; nothing keeps it
from that. -/
theorem source_may_change :
    ¬∀ (c : Config) (host : Host) (scratch : String) (kind : DumpKind) (source : String)
        (fs : FileSystem),
      (∀ n ∈ fs.fileOf? source, n < fs.stored.size) →
      LeftBy ((kind.request c).ran? .absent host scratch source fs)
        (·.listed? (fs.absolute scratch)) →
        (call (c.workshop host scratch) kind source fs).files.listed? (fs.absolute scratch) =
            fs.listed? (fs.absolute scratch) ∧
          (call (c.workshop host scratch) kind source fs).files.seen? source = fs.seen? source := by
  intro h
  obtain ⟨-, hseen⟩ := h .default meddlingHost "/scratch" .edges "/src/a.c" notedFiles
    (by decide +kernel) (by decide +kernel)
  exact absurd hseen (by decide +kernel)

end Ingest

end CallForest
