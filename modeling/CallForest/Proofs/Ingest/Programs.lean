import CallForest.Config
import CallForest.Proofs.Files.Scratch
import CallForest.Proofs.Ingest.Passes
import CallForest.Proofs.Ingest.Readings

/-!
# Collaborators that are programs

The collaborators of a configuration are programs of a host, which are run on scratch copies. A
program that cannot be started is missing; nothing else makes it so (`missing_of_runOnCopy`). Before
a pass its program is asked for its version. If it is not missing then and answers, the pass returns
a report on all files, or ends because the program was missing later. But a program that is started
and does not exit with 0 when it is asked for its version ends the pass as well, before any file is
looked at (`EndsAsStarted`, `index_endsAsStarted`).
-/

namespace CallForest

/-- The collaborators of a configuration, run by a host on copies in a scratch directory. -/
def Config.workshop (c : Config) (host : Host) (scratch : String) : Workshop where
  extractor := c.extractor.extractor host scratch
  analyzer := c.analyzer.analyzer host scratch
  skip := c.skipUnresolved
  logDirectory := ⟨c.output.logDirectory, c.output.keepsOutput⟩

/-- The program that makes output of a kind. -/
def DumpKind.program (c : Config) : DumpKind → String
  | edges | functions => c.extractor.program
  | complexity => c.analyzer.program

/-- What comes of asking a program for its version. -/
def versionRun (host : Host) (program : String) (fs : FileSystem) : Except OsError ProgramRun :=
  host program ["--version"] none .pipes fs

namespace Ingest

/-- How a pass ends whose collaborator is a program, as the program can be started or not. -/
structure EndsAsStarted (host : Host) (program : String) (entries : List SourceEntry)
    (files : FileSystem) (result : Except CollaboratorError BatchReport) : Prop where
  /-- If the program answers when it is asked for its version, or cannot be started then, all files
  are reported on, unless the program cannot be started. -/
  returns_or_missing :
    (∀ run, versionRun host program files = .ok run → run.ending = .exited 0) →
      (∃ report, result = .ok report ∧ report.total = entries.length) ∨
        ∃ args limit capture fs cause, host program args limit capture fs = .error cause ∧
          result = .error (.missing program cause)
  missing_of_version : ∀ cause, versionRun host program files = .error cause →
    result = .error (.missing program cause)
  /-- If it is started and does not answer, that ends the pass. -/
  failed_of_version : ∀ run, versionRun host program files = .ok run → run.ending ≠ .exited 0 →
    result = .error (.failed program program run.ending.code?
      (Text.trimmed (Utf8.decodeLossy run.errors)))

/-! ## Asking a program -/

section Program

variable {host : Host} {program : String} {fs : FileSystem}

theorem answer_probeProgram_of_error {cause : OsError}
    (h : versionRun host program fs = .error cause) :
    (probeProgram host program fs).answer = .error (.missing program cause) := by
  rw [versionRun] at h
  simp only [probeProgram, h]

theorem answer_probeProgram_of_ending {run : ProgramRun} (h : versionRun host program fs = .ok run)
    (hending : run.ending ≠ .exited 0) :
    (probeProgram host program fs).answer = .error (.failed program program run.ending.code?
      (Text.trimmed (Utf8.decodeLossy run.errors))) := by
  rw [versionRun] at h
  simp only [probeProgram, h, if_neg hending]

theorem exists_version {run : ProgramRun} (h : versionRun host program fs = .ok run)
    (hending : run.ending = .exited 0) :
    ∃ version, (probeProgram host program fs).answer = .ok version := by
  rw [versionRun] at h
  simp only [probeProgram, h, if_pos hending]
  exact ⟨_, rfl⟩

/-- Nothing but a failure to start makes a program missing. -/
theorem missing_of_runProgram {spec : CommandSpec} {input : String} {timeout : Option Nat}
    {name : String} {cause : OsError}
    (h : (runProgram host spec input timeout fs).answer = .error (.missing name cause)) :
    name = spec.program ∧
      host spec.program (spec.args ++ [input]) timeout .files fs = .error cause := by
  unfold runProgram at h
  dsimp only at h
  split at h
  · next e he =>
    cases h
    exact ⟨rfl, he⟩
  · split at h <;> cases h

theorem missing_of_runOnCopy {spec : CommandSpec} {timeout : Option Nat} {prelude : Option String}
    {directory source name : String} {cause : OsError}
    (h : (runOnCopy host spec timeout prelude directory source fs).answer =
      .error (.missing name cause)) :
    name = spec.program ∧ ∃ args before,
      host spec.program args timeout .files before = .error cause := by
  unfold runOnCopy at h
  split at h
  · next hcreate =>
    obtain ⟨_, _, hio⟩ := Scratch.io_of_create hcreate
    rw [hio] at h
    cases h
  · obtain ⟨hname, hhost⟩ := missing_of_runProgram h
    exact ⟨hname, _, _, hhost⟩

end Program

/-! ## A pass -/

section Index

variable {c : Config} {host : Host} {scratch : String} {kind : DumpKind}

theorem probe_workshop (c : Config) (host : Host) (scratch : String) (kind : DumpKind)
    (fs : FileSystem) :
    probe (c.workshop host scratch) kind.pass fs = probeProgram host (kind.program c) fs := by
  cases kind <;> rfl

theorem missing_of_call {source name : String} {fs : FileSystem} {cause : OsError}
    (h : (call (c.workshop host scratch) kind source fs).answer = .error (.missing name cause)) :
    name = kind.program c ∧ ∃ args limit before,
      host (kind.program c) args limit .files before = .error cause := by
  cases kind with
  | edges | functions | complexity =>
      obtain ⟨hname, args, before, hhost⟩ := missing_of_runOnCopy h
      exact ⟨hname, args, _, before, hhost⟩

/-- What ends a pass is the answer of a collaborator for a listed file. -/
theorem exists_call_of_fatal {w : Workshop} {entries : List SourceEntry} {fs : FileSystem}
    {e : CollaboratorError}
    (h : (turns (ask w kind.pass) entries fs).findSome? Turn.fatal? = some e) :
    ∃ entry ∈ entries, ∃ before program cause, e = .missing program cause ∧
      (call w kind entry.fullPath before).answer = .error (.missing program cause) := by
  induction entries generalizing fs with
  | nil => cases h
  | cons entry entries ih =>
      rw [turns, List.findSome?_cons] at h
      cases hturn : (takeTurn (ask w kind.pass) entry fs).1.fatal? with
      | none =>
          rw [hturn] at h
          obtain ⟨other, hother, hcall⟩ := ih h
          exact ⟨other, List.mem_cons_of_mem _ hother, hcall⟩
      | some e' =>
          rw [hturn] at h
          cases h
          rw [takeTurn] at hturn
          split at hturn
          · unfold Turn.fatal? at hturn
            split at hturn
            · next program cause hreply =>
              cases hturn
              have hask := Option.some.inj hreply
              rw [ask_eq, readReply] at hask
              split at hask
              · next hanswer =>
                cases hask
                exact ⟨entry, List.mem_cons_self, fs, program, cause, rfl, hanswer⟩
              · cases hask
            · cases hturn
          · cases hturn

variable {σ : Type} [GraphStore σ]

/-- If the program answers, a pass reports on all files, or the program was missing later. -/
theorem returns_or_missing_of_version (entries : List SourceEntry) (site : Site σ)
    {run : ProgramRun}
    (hrun : versionRun host (kind.program c) site.files = .ok run)
    (hending : run.ending = .exited 0) :
    (∃ report, (index (c.workshop host scratch) kind.pass entries site).2 = .ok report ∧
        report.total = entries.length) ∨
      ∃ args limit before cause, host (kind.program c) args limit .files before = .error cause ∧
        (index (c.workshop host scratch) kind.pass entries site).2 =
          .error (.missing (kind.program c) cause) := by
  obtain ⟨version, hversion⟩ := exists_version hrun hending
  rw [← probe_workshop c host scratch kind] at hversion
  cases hfatal : (passTurns (c.workshop host scratch) kind.pass entries site.files).findSome?
      Turn.fatal? with
  | none =>
      obtain ⟨report, hreport, htotal, -⟩ :=
        result_index hversion (List.findSome?_eq_none_iff.mp hfatal)
      exact .inl ⟨report, hreport, htotal⟩
  | some e =>
      obtain ⟨entry, -, fs, name, cause, rfl, hcall⟩ := exists_call_of_fatal hfatal
      obtain ⟨rfl, args, limit, before, hhost⟩ := missing_of_call hcall
      exact .inr ⟨args, limit, before, cause, hhost, error_index hversion hfatal⟩

/-- **Only a program that cannot be started ends a pass, or one that does not answer when it is
asked for its version.** -/
theorem index_endsAsStarted (c : Config) (host : Host) (scratch : String) (kind : DumpKind)
    (entries : List SourceEntry) (site : Site σ) :
    EndsAsStarted host (kind.program c) entries site.files
      (index (c.workshop host scratch) kind.pass entries site).2 := by
  have hmissing : ∀ cause, versionRun host (kind.program c) site.files = .error cause →
      (index (c.workshop host scratch) kind.pass entries site).2 =
        .error (.missing (kind.program c) cause) := by
    intro cause hcause
    have hprobe := answer_probeProgram_of_error hcause
    rw [← probe_workshop c host scratch kind] at hprobe
    rw [index_of_probe_error hprobe]
  constructor
  · intro hanswers
    cases hversion : versionRun host (kind.program c) site.files with
    | error cause => exact .inr ⟨_, _, _, _, cause, hversion, hmissing cause hversion⟩
    | ok run =>
        rcases returns_or_missing_of_version entries site hversion (hanswers run hversion) with
          hreport | ⟨args, limit, before, cause, hhost, hresult⟩
        · exact .inl hreport
        · exact .inr ⟨args, limit, .files, before, cause, hhost, hresult⟩
  · exact hmissing
  · intro run hrun hending
    have hprobe := answer_probeProgram_of_ending hrun hending
    rw [← probe_workshop c host scratch kind] at hprobe
    rw [index_of_probe_error hprobe]

end Index

/-- A host on which programs are started, but fail whatever they are asked. -/
def failingHost : Host := fun _ _ _ _ files =>
  .ok ⟨.exited 3, [], Utf8.encode "no license\n", files⟩

/-- **A pass may end although no program is missing.** -/
theorem ends_without_missing :
    ¬∀ (c : Config) (host : Host) (scratch : String) (kind : DumpKind) (entries : List SourceEntry)
        (site : Site Ledger) (e : CollaboratorError),
      (index (c.workshop host scratch) kind.pass entries site).2 = .error e →
        ∃ program cause, e = .missing program cause := by
  intro h
  obtain ⟨program, cause, he⟩ := h .default failingHost "/" .functions [] sampleSite
    (.failed "cflow" "cflow" (some 3) "no license") (by decide +kernel)
  cases he

end Ingest

end CallForest
