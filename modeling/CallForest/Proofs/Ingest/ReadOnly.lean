import CallForest.Proofs.Files.Rewriting
import CallForest.Proofs.Ingest.Programs
import CallForest.Proofs.Ingest.Repeating

/-!
# Programs that read

If the programs of a host leave the files as they are, and make of a file what depends on its
content alone (`Host.Reads`), their passes may be repeated (`repeatable_of_reads`).

The file systems that such passes meet differ from the first by the output that is kept, and by the
scratch copies that have lost their names (`FileSystem.Rewritten`). The listed files are not among
them (`InPlace`).
-/

namespace CallForest

open FileSystem (Rewritten)

/-- What a run of a program says. -/
def ProgramRun.said (run : ProgramRun) : Ending × Bytes × Bytes :=
  (run.ending, run.output, run.errors)

/-- The programs of a host leave all files as they are. -/
def Host.LeavesFiles (host : Host) : Prop :=
  ∀ program args limit capture fs run,
    host program args limit capture fs = .ok run → run.files = fs

/-- They do, their version does not depend on the files, and what they say about a file depends on
its content alone. -/
structure Host.Reads (host : Host) : Prop where
  files_eq : host.LeavesFiles
  version_eq : ∀ program args limit a b,
    (host program args limit .pipes a).map ProgramRun.said =
      (host program args limit .pipes b).map ProgramRun.said
  output_eq : ∀ program args copy limit a b, a.read copy = b.read copy →
    (host program (args ++ [copy]) limit .files a).map ProgramRun.said =
      (host program (args ++ [copy]) limit .files b).map ProgramRun.said

namespace Host.LeavesFiles

variable {host : Host} {fs : FileSystem}

theorem files_probeProgram (h : host.LeavesFiles) (program : String) (fs : FileSystem) :
    (probeProgram host program fs).files = fs := by
  rw [probeProgram]
  cases hrun : host program ["--version"] none .pipes fs with
  | error e => rfl
  | ok run =>
      dsimp only
      split <;> exact h _ _ _ _ _ _ hrun

theorem files_runProgram (h : host.LeavesFiles) (spec : CommandSpec) (input : String)
    (timeout : Option Nat) (fs : FileSystem) :
    (runProgram host spec input timeout fs).files = fs := by
  rw [runProgram]
  cases hrun : host spec.program (spec.args ++ [input]) timeout .files fs with
  | error e => rfl
  | ok run =>
      dsimp only
      split <;> exact h _ _ _ _ _ _ hrun

/-- A program that is run on a copy leaves nothing of it. -/
theorem runOnCopy (h : host.LeavesFiles) (hfs : fs.WellFormed) (spec : CommandSpec)
    (timeout : Option Nat) (prelude : Option String) (directory source : String) :
    Rewritten fs [] []
      (CallForest.runOnCopy host spec timeout prelude directory source fs).files := by
  rw [CallForest.runOnCopy]
  cases hcreate : Scratch.create fs source directory prelude with
  | mk left result =>
      cases result with
      | error e => exact Scratch.rewritten_of_create_error hfs hcreate
      | ok copy =>
          dsimp only
          rw [h.files_runProgram]
          exact Scratch.rewritten_of_create hfs hcreate

end Host.LeavesFiles

namespace Host.Reads

variable {host : Host} {a b fs gs : FileSystem} {numbers : List Nat} {places : List (List String)}

theorem exists_said {x y : Except OsError ProgramRun}
    (h : x.map ProgramRun.said = y.map ProgramRun.said) :
    (∃ e, x = .error e ∧ y = .error e) ∨
      ∃ ending output errors left right, x = .ok ⟨ending, output, errors, left⟩ ∧
        y = .ok ⟨ending, output, errors, right⟩ := by
  cases x with
  | error e =>
      cases y with
      | error e' =>
          cases h
          exact .inl ⟨_, rfl, rfl⟩
      | ok run => cases h
  | ok run =>
      cases y with
      | error e => cases h
      | ok run' =>
          obtain ⟨ending, output, errors, left⟩ := run
          obtain ⟨ending', output', errors', right⟩ := run'
          cases h
          exact .inr ⟨_, _, _, left, right, rfl, rfl⟩

theorem answer_probeProgram_eq (h : host.Reads) (program : String) (a b : FileSystem) :
    (probeProgram host program a).answer = (probeProgram host program b).answer := by
  rw [probeProgram, probeProgram]
  obtain ⟨e, ha, hb⟩ | ⟨ending, output, errors, left, right, ha, hb⟩ :=
    exists_said (h.version_eq program ["--version"] none a b)
  · rw [ha, hb]
  · rw [ha, hb]
    dsimp only
    split <;> rfl

theorem answer_runProgram_eq (h : host.Reads) (spec : CommandSpec) {input : String}
    (timeout : Option Nat) (hread : a.read input = b.read input) :
    (runProgram host spec input timeout a).answer =
      (runProgram host spec input timeout b).answer := by
  rw [runProgram, runProgram]
  obtain ⟨e, ha, hb⟩ | ⟨ending, output, errors, left, right, ha, hb⟩ :=
    exists_said (h.output_eq spec.program spec.args input timeout a b hread)
  · rw [ha, hb]
  · rw [ha, hb]
    dsimp only
    split <;> rfl

/-- A program that is run on copies of a source gives the same answer, and when the copy has been
removed nothing is left of it. -/
theorem runOnCopy (h : host.Reads) (hlimit : fs.sizeLimit = none)
    (hgs : Rewritten fs numbers places gs) {source directory : String}
    (hspares : fs.Spares numbers places source) (hfile : fs.isFile source)
    (hmakes : Scratch.Makes fs places directory source) (spec : CommandSpec) (timeout : Option Nat)
    (prelude : Option String) :
    (CallForest.runOnCopy host spec timeout prelude directory source gs).answer =
        (CallForest.runOnCopy host spec timeout prelude directory source fs).answer ∧
      Rewritten fs numbers places
        (CallForest.runOnCopy host spec timeout prelude directory source gs).files := by
  obtain ⟨text, hsource⟩ := FileSystem.exists_read_of_isFile hfile
  have hsource' := hgs.read_ok hspares hsource
  refine ⟨?_, hgs.trans (h.files_eq.runOnCopy hgs.wellFormed spec timeout prelude directory source)⟩
  have hcopy := hmakes.create_eq (.refl hgs.vacant numbers) hlimit hsource prelude
  have hcopy' := hmakes.create_eq hgs hlimit hsource' prelude
  rw [CallForest.runOnCopy, CallForest.runOnCopy]
  generalize hcreate : Scratch.create fs source directory prelude = made at hcopy
  generalize hcreate' : Scratch.create gs source directory prelude = made' at hcopy'
  obtain ⟨other, _⟩ := made
  obtain ⟨left, _⟩ := made'
  cases hcopy
  cases hcopy'
  -- the copies have the same content
  obtain ⟨_, hread, hback⟩ := Scratch.read_create hcreate
  obtain ⟨_, hread', hback'⟩ := Scratch.read_create hcreate'
  cases hsource.symm.trans hread
  cases hsource'.symm.trans hread'
  dsimp only
  exact h.answer_runProgram_eq spec timeout (hback'.trans hback.symm)

end Host.Reads

namespace Ingest

/-- A listed file is neither among the files of those numbers nor at one of those places. If it is
there, copies of it can be made. Output that is kept for it goes to those files and places. -/
structure InPlace (d : LogDirectory) (scratch : String) (fs : FileSystem) (numbers : List Nat)
    (places : List (List String)) (entry : SourceEntry) : Prop where
  spares : fs.Spares numbers places entry.fullPath
  makes : entry.isPresent fs → Scratch.Makes fs places scratch entry.fullPath
  dumps : d.keepsOutput → ∀ kind ∈ DumpKind.all,
    fs.LeadsInto numbers places (d.dumpPath kind entry.shortPath)

instance (d : LogDirectory) (scratch : String) (fs : FileSystem) (numbers : List Nat)
    (places : List (List String)) (entry : SourceEntry) :
    Decidable (InPlace d scratch fs numbers places entry) :=
  decidable_of_iff (fs.Spares numbers places entry.fullPath ∧
      (entry.isPresent fs → Scratch.Makes fs places scratch entry.fullPath) ∧
      (d.keepsOutput → ∀ kind ∈ DumpKind.all,
        fs.LeadsInto numbers places (d.dumpPath kind entry.shortPath)))
    ⟨fun h => ⟨h.1, h.2.1, h.2.2⟩, fun h => ⟨h.spares, h.makes, h.dumps⟩⟩

/-! ## Programs that leave the files -/

section Leaves

variable {host : Host} {fs : FileSystem}

theorem rewritten_call (h : host.LeavesFiles) (c : Config) (scratch : String) (kind : DumpKind)
    (source : String) (hfs : fs.WellFormed) :
    Rewritten fs [] [] (call (c.workshop host scratch) kind source fs).files := by
  cases kind with
  | edges | functions | complexity => exact h.runOnCopy hfs _ _ _ _ _

theorem files_probe (h : host.LeavesFiles) (c : Config) (scratch : String) (pass : Pass)
    (fs : FileSystem) : (probe (c.workshop host scratch) pass fs).files = fs := by
  cases pass with
  | files => rfl
  | functions | edges => exact h.files_probeProgram c.extractor.program fs
  | complexity => exact h.files_probeProgram c.analyzer.program fs

/-- A turn keeps a file system well-formed, whatever output is kept. -/
theorem wellFormed_takeTurn (h : host.LeavesFiles) (c : Config) (scratch : String)
    (kind : DumpKind) (entry : SourceEntry) (hfs : fs.WellFormed) :
    (takeTurn (ask (c.workshop host scratch) kind.pass) entry fs).2.WellFormed := by
  have hcall := (rewritten_call h c scratch kind entry.fullPath hfs).wellFormed
  rw [takeTurn]
  split
  · rw [ask_eq, readReply]
    split
    · exact hcall
    · dsimp only
      rw [files_of_dump]
      split
      · exact hcall.write _ _
      · exact hcall
  · exact hfs

end Leaves

/-! ## Passes -/

section Passes

variable {host : Host} {c : Config} {scratch : String} {fs gs : FileSystem} {numbers : List Nat}
  {places : List (List String)}

/-- The collaborators of a configuration whose programs read answer alike, and leave nothing. -/
theorem call_of_reads (hreads : host.Reads) (c : Config) {source : String}
    (hlimit : fs.sizeLimit = none) (hspares : fs.Spares numbers places source)
    (hfile : fs.isFile source) (hmakes : Scratch.Makes fs places scratch source)
    (hgs : Rewritten fs numbers places gs) (kind : DumpKind) :
    (call (c.workshop host scratch) kind source gs).answer =
        (call (c.workshop host scratch) kind source fs).answer ∧
      Rewritten fs numbers places (call (c.workshop host scratch) kind source gs).files := by
  cases kind with
  | edges | functions | complexity =>
      exact hreads.runOnCopy hlimit hgs hspares hfile hmakes _ _ _

/-- What is asked of such a program is the same when output is kept. -/
theorem ask_of_reads (hreads : host.Reads) (hlimit : fs.sizeLimit = none) {entry : SourceEntry}
    (hplace : InPlace ⟨c.output.logDirectory, c.output.keepsOutput⟩ scratch fs numbers places entry)
    (hpresent : entry.isPresent fs) (hgs : Rewritten fs numbers places gs) (pass : Pass) :
    (ask (c.workshop host scratch) pass entry gs).2 =
        (ask (c.workshop host scratch) pass entry fs).2 ∧
      Rewritten fs numbers places (ask (c.workshop host scratch) pass entry gs).1 := by
  have hkind : ∀ kind : DumpKind, (ask (c.workshop host scratch) kind.pass entry gs).2 =
      (ask (c.workshop host scratch) kind.pass entry fs).2 ∧
        Rewritten fs numbers places (ask (c.workshop host scratch) kind.pass entry gs).1 := by
    intro kind
    obtain ⟨hanswer, hleft⟩ :=
      call_of_reads hreads c hlimit hplace.spares hpresent (hplace.makes hpresent) hgs kind
    rw [ask_eq, ask_eq, readReply, readReply, hanswer]
    cases (call (c.workshop host scratch) kind entry.fullPath fs).answer with
    | error e => exact ⟨rfl, hleft⟩
    | ok text =>
        refine ⟨rfl, ?_⟩
        dsimp only
        rw [files_of_dump]
        split
        · next hkeeps =>
          exact hleft.write (hplace.dumps hkeeps kind (by cases kind <;> decide)) _
        · exact hleft
  cases pass with
  | files =>
      obtain ⟨text, hread⟩ := FileSystem.exists_read_of_isFile hpresent
      simp only [ask, askFile, hread, hgs.read_ok hplace.spares hread]
      exact ⟨trivial, hgs⟩
  | functions => exact hkind .functions
  | edges => exact hkind .edges
  | complexity => exact hkind .complexity

/-- **Passes whose programs read may be repeated** if every listed file is in its place. -/
theorem repeatable_of_reads (hreads : host.Reads) (hlimit : fs.sizeLimit = none)
    {entries : List SourceEntry}
    (hentries : ∀ entry ∈ entries, InPlace ⟨c.output.logDirectory, c.output.keepsOutput⟩ scratch fs
      numbers places entry) (pass : Pass) :
    Repeatable (c.workshop host scratch) pass entries (Rewritten fs numbers places) := by
  have hprobe : ∀ a b, (probe (c.workshop host scratch) pass a).answer =
      (probe (c.workshop host scratch) pass b).answer := by
    intro a b
    cases pass with
    | files => rfl
    | functions | edges => exact hreads.answer_probeProgram_eq c.extractor.program a b
    | complexity => exact hreads.answer_probeProgram_eq c.analyzer.program a b
  have hpresent : ∀ entry ∈ entries, ∀ {gs}, Rewritten fs numbers places gs →
      entry.isPresent gs = entry.isPresent fs := fun entry hentry _ hgs =>
    hgs.isFile_eq (hentries entry hentry).spares
  refine repeatable_of_asked (fun {a b} _ _ => hprobe a b) (fun {gs} hgs => ?_) ?_ ?_ ?_
  · rw [files_probe hreads.files_eq]
    exact hgs
  · intro entry hentry a b ha hb
    exact (hpresent entry hentry ha).trans (hpresent entry hentry hb).symm
  · intro entry hentry a b ha hb hthere
    rw [hpresent entry hentry hb] at hthere
    have hask : ∀ gs, Rewritten fs numbers places gs →
        (ask (c.workshop host scratch) pass entry gs).2 =
          (ask (c.workshop host scratch) pass entry fs).2 := fun gs hgs =>
      (ask_of_reads hreads hlimit (hentries entry hentry) hthere hgs pass).1
    exact (hask a ha).trans (hask b hb).symm
  · intro entry hentry gs hgs hthere
    rw [hpresent entry hentry hgs] at hthere
    exact (ask_of_reads hreads hlimit (hentries entry hentry) hthere hgs pass).2

end Passes

/-! ## A sample -/

/-- A host whose programs put out what the file has, and fail if that is nothing. -/
def echoHost : Host := fun _ args _ capture files =>
  match capture with
  | .pipes => .ok ⟨.exited 0, Utf8.encode "echo 1.0\n", [], files⟩
  | .files =>
    match files.read (args.getLastD "") with
    | .ok (c :: cs) => .ok ⟨.exited 0, c :: cs, [], files⟩
    | .ok [] | .error _ => .ok ⟨.exited 1, [], [], files⟩

theorem reads_echoHost : echoHost.Reads where
  files_eq _ _ _ capture _ _ h := by
    cases capture with
    | pipes =>
        cases h
        rfl
    | files =>
        unfold echoHost at h
        dsimp only at h
        split at h <;> cases h <;> rfl
  version_eq _ _ _ _ _ := rfl
  output_eq _ args copy _ a b hread := by
    unfold echoHost
    dsimp only
    rw [List.getLastD_concat, hread]
    split <;> rfl

/-- The output of these programs is kept. -/
def echoConfig : Config := { Config.default with output := ⟨"/log", "/calltrees.log", true⟩ }

/-- One of these files is not there, and of another one there is no listing. -/
def echoEntries : List SourceEntry :=
  ["a.c", "gone.c", "empty.c", "b.c"].map (SourceEntry.under "/src")

/-- The sources are listings of their own calls. -/
def echoFiles : FileSystem :=
  let file (text : String) : StoredFile := ⟨Utf8.encode text, Mode.ofFile, 0⟩
  { FileSystem.ofRoot (.ofList
      [("src", .folder (.ofList [("a.c", .file 0), ("b.c", .file 1), ("empty.c", .file 2)])),
        ("log", .folder (.ofList [("complexity", .folder .nil), ("edges", .folder .nil),
          ("functions", .folder .nil)])),
        ("scratch", .folder .nil)]) [] with
    stored := #[file "main()\n    run()\n", file "run()\n    stop()\n", file ""] }

/-- Where the output goes. -/
def echoPlaces : List (List String) :=
  DumpKind.all.flatMap fun kind =>
    ["a.c.log", "gone.c.log", "empty.c.log", "b.c.log"].map fun name =>
      ["log", kind.directory, name]

theorem vacant_echoPlaces : echoFiles.Vacant echoPlaces := by
  decide +kernel

theorem repeatable_echoHost (pass : Pass) :
    Repeatable (echoConfig.workshop echoHost "/scratch") pass echoEntries
      (Rewritten echoFiles [] echoPlaces) := by
  have hplace : ∀ entry ∈ echoEntries,
      InPlace ⟨"/log", true⟩ "/scratch" echoFiles [] echoPlaces entry := by
    decide +kernel
  exact repeatable_of_reads reads_echoHost rfl hplace pass

end Ingest

end CallForest
