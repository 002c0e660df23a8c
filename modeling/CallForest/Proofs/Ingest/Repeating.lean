import CallForest.Proofs.Files.Paths
import CallForest.Proofs.Ingest.Intakes
import CallForest.Proofs.Ingest.Passes

/-!
# Passes that may be repeated

What a pass makes of a file depends on the file system when it is the file's turn. If no listed file
comes, goes or changes while passes run, and the collaborators answer alike, it does not matter when
that is. `Repeatable` says so with a set of file systems that the pass does not leave: on all of
them a listed file gets the same turn. A pass over the files in another order has the same turns
then, in that order (`Repeatable.passTurns_eq`), and a second one enters what the first did
(`Repeatable.passIntakes_eq`).

Raw output is all that passes with canned collaborators write, so these may be repeated if none of
it goes to a listed file (`repeatable_of_apart`).
-/

namespace CallForest.Ingest

/-- A pass cannot tell file systems apart that are `Kept`, and leaves one that is. -/
structure Repeatable (w : Workshop) (pass : Pass) (entries : List SourceEntry)
    (Kept : FileSystem → Prop) : Prop where
  probe_eq : ∀ {a b}, Kept a → Kept b → (probe w pass a).answer = (probe w pass b).answer
  probe_left : ∀ {fs}, Kept fs → Kept (probe w pass fs).files
  /-- A listed file is there on all of them or on none, and what comes of asking is the same. -/
  turn_eq : ∀ entry ∈ entries, ∀ {a b}, Kept a → Kept b →
    (takeTurn (ask w pass) entry a).1 = (takeTurn (ask w pass) entry b).1
  turn_left : ∀ entry ∈ entries, ∀ {fs}, Kept fs → Kept (takeTurn (ask w pass) entry fs).2

namespace Repeatable

variable {w : Workshop} {pass : Pass} {entries others : List SourceEntry}
  {Kept : FileSystem → Prop} {a b fs : FileSystem}

theorem of_subset (h : Repeatable w pass entries Kept) (hsubset : others ⊆ entries) :
    Repeatable w pass others Kept where
  probe_eq := h.probe_eq
  probe_left := h.probe_left
  turn_eq entry hentry := h.turn_eq entry (hsubset hentry)
  turn_left entry hentry := h.turn_left entry (hsubset hentry)

theorem turns_eq_map (h : Repeatable w pass entries Kept) (ha : Kept a) (hb : Kept b) :
    turns (ask w pass) entries a =
      entries.map fun entry => (takeTurn (ask w pass) entry b).1 := by
  induction entries generalizing a with
  | nil => rfl
  | cons entry entries ih =>
      rw [turns, List.map_cons, h.turn_eq entry List.mem_cons_self ha hb,
        ih (h.of_subset (List.subset_cons_self _ _)) (h.turn_left entry List.mem_cons_self ha)]

theorem kept_filesAfter (h : Repeatable w pass entries Kept) (hkept : Kept fs) :
    Kept (filesAfter (ask w pass) entries fs) := by
  induction entries generalizing fs with
  | nil => exact hkept
  | cons entry entries ih =>
      have hnext := h.turn_left entry List.mem_cons_self hkept
      rw [filesAfter]
      split
      · exact hnext
      · exact ih (h.of_subset (List.subset_cons_self _ _)) hnext

/-- The turns of a pass are those of its files, on whatever file system. -/
theorem passTurns_eq (h : Repeatable w pass entries Kept) (ha : Kept a) (hb : Kept b) :
    passTurns w pass entries a = entries.map fun entry => (takeTurn (ask w pass) entry b).1 :=
  h.turns_eq_map (h.probe_left ha) hb

/-- A second pass brings what the first did. -/
theorem passIntakes_eq (h : Repeatable w pass entries Kept) (ha : Kept a) (hb : Kept b) :
    passIntakes w pass entries a = passIntakes w pass entries b := by
  rw [passIntakes, passIntakes, h.probe_eq ha hb, h.passTurns_eq ha hb, h.passTurns_eq hb hb]

theorem kept_index {σ : Type} [GraphStore σ] (h : Repeatable w pass entries Kept)
    {site : Site σ} (hkept : Kept site.files) : Kept (index w pass entries site).1.files := by
  cases hprobe : (probe w pass site.files).answer with
  | error e =>
      rw [index_of_probe_error hprobe]
      exact h.probe_left hkept
  | ok version =>
      rw [files_index hprobe]
      exact h.kept_filesAfter (h.probe_left hkept)

/-- A second pass reports what the first did, if names stand for the same when calls are read. -/
theorem result_again {σ : Type} [GraphStore σ] (h : Repeatable w pass entries Kept)
    (hnames : KeepsNames σ) {site next : Site σ} (hkept : Kept site.files)
    (hkept' : Kept next.files)
    (hresolve : pass = .edges → resolveNode site.store = resolveNode next.store)
    {report : BatchReport} (hreturns : (index w pass entries site).2 = .ok report) :
    (index w pass entries next).2 = .ok report := by
  obtain ⟨⟨version, hprobe⟩, hgoes⟩ := goes_of_returns hreturns
  have hprobe' : (probe w pass next.files).answer = .ok version :=
    (h.probe_eq hkept' hkept).trans hprobe
  have hturns : passTurns w pass entries next.files = passTurns w pass entries site.files :=
    (h.passTurns_eq hkept' hkept').trans (h.passTurns_eq hkept hkept').symm
  -- the turns are the same, so the reports could differ in what is handled alone
  obtain ⟨one, hone, htotal, hskipped, hprocessed⟩ := result_index hprobe hgoes
  obtain ⟨other, hother, htotal', hskipped', hprocessed'⟩ := result_index hprobe' (hturns ▸ hgoes)
  have hpass : ∀ i ∈ intakes (passTurns w pass entries site.files), i.pass = pass := by
    rw [← passIntakes_of_goes hprobe hgoes]
    exact fun _ => pass_of_mem_passIntakes
  rw [hturns] at hskipped' hprocessed'
  have hsame : other = report := by
    rw [← Except.ok.inj (hone.symm.trans hreturns)]
    refine BatchReport.eq_of_total_eq (htotal'.trans htotal.symm) ?_
      (hskipped'.trans hskipped.symm)
    rw [hprocessed', hprocessed, Intake.finished_congr hnames hpass hresolve]
  exact hsame ▸ hother

end Repeatable

/-- It is enough that what comes of asking for a file that is there is the same, and that asking
leaves such a file system. -/
theorem repeatable_of_asked {w : Workshop} {pass : Pass} {entries : List SourceEntry}
    {Kept : FileSystem → Prop}
    (hprobe : ∀ {a b}, Kept a → Kept b → (probe w pass a).answer = (probe w pass b).answer)
    (hprobed : ∀ {fs}, Kept fs → Kept (probe w pass fs).files)
    (hpresent : ∀ entry ∈ entries, ∀ {a b}, Kept a → Kept b →
      entry.isPresent a = entry.isPresent b)
    (hreply : ∀ entry ∈ entries, ∀ {a b}, Kept a → Kept b → entry.isPresent b →
      (ask w pass entry a).2 = (ask w pass entry b).2)
    (hleft : ∀ entry ∈ entries, ∀ {fs}, Kept fs → entry.isPresent fs →
      Kept (ask w pass entry fs).1) :
    Repeatable w pass entries Kept where
  probe_eq := hprobe
  probe_left := hprobed
  turn_eq entry hentry a b ha hb := by
    rw [takeTurn, takeTurn, hpresent entry hentry ha hb]
    split
    · next hthere => rw [hreply entry hentry ha hb hthere]
    · rfl
  turn_left entry hentry fs hkept := by
    rw [takeTurn]
    split
    · next hthere => exact hleft entry hentry hkept hthere
    · exact hkept

/-- Passes with canned collaborators may be repeated on file systems that agree on the listed files,
if output that is kept for them leaves such a one. -/
theorem repeatable_canned {w : Workshop} {extracts analyzes : Except CollaboratorError String}
    {listing : ListingKind → String → Except CollaboratorError String}
    {report : String → Except CollaboratorError String}
    (hextractor : w.extractor = .canned extracts listing)
    (hanalyzer : w.analyzer = .canned analyzes report) {entries : List SourceEntry}
    {Kept : FileSystem → Prop}
    (hpresent : ∀ entry ∈ entries, ∀ {a b}, Kept a → Kept b →
      entry.isPresent a = entry.isPresent b)
    (hread : ∀ entry ∈ entries, ∀ {a b}, Kept a → Kept b → entry.isPresent b →
      a.read entry.fullPath = b.read entry.fullPath)
    (hdump : ∀ entry ∈ entries, ∀ kind text, ∀ {fs}, Kept fs →
      Kept (w.logDirectory.dump kind entry.shortPath text fs).1) (pass : Pass) :
    Repeatable w pass entries Kept := by
  have hkeeps : ∀ {kind : DumpKind} {entry : SourceEntry}, entry ∈ entries → ∀ {fs}, Kept fs →
      ∀ (read : String → Intake) (events : List Event) (answer : Except CollaboratorError String),
        Kept (readReply w kind entry read ⟨fs, events, answer⟩).1 := by
    intro kind entry hentry fs hkept read events answer
    cases answer with
    | error e => exact hkept
    | ok text => exact hdump entry hentry kind text hkept
  have hsame : ∀ {kind : DumpKind} {entry : SourceEntry} {a b : FileSystem}
      (read : String → Intake) (events : List Event) (answer : Except CollaboratorError String),
      (readReply w kind entry read ⟨a, events, answer⟩).2 =
        (readReply w kind entry read ⟨b, events, answer⟩).2 := by
    intro kind entry a b read events answer
    cases answer <;> rfl
  refine repeatable_of_asked ?_ ?_ hpresent ?_ ?_
  · intro a b _ _
    cases pass <;> simp only [probe, hextractor, hanalyzer] <;> rfl
  · intro fs hkept
    cases pass <;> simp only [probe, hextractor, hanalyzer] <;> exact hkept
  · intro entry hentry a b ha hb hthere
    cases pass with
    | files => simp only [ask, askFile, hread entry hentry ha hb hthere]
    | functions | edges | complexity =>
        simp only [ask, hextractor, hanalyzer]
        exact hsame _ _ _
  · intro entry hentry fs hkept _
    cases pass with
    | files => exact hkept
    | functions | edges | complexity =>
        simp only [ask, hextractor, hanalyzer]
        exact hkeeps hentry hkept _ _ _

/-- Raw output is written, if it is kept. -/
theorem files_of_dump (d : LogDirectory) (kind : DumpKind) (shortPath text : String)
    (fs : FileSystem) :
    (d.dump kind shortPath text fs).1 =
      if d.keepsOutput then (fs.write (d.dumpPath kind shortPath) (Utf8.encode text)).1
      else fs := by
  rw [LogDirectory.dump]
  split
  · dsimp only
    split
    · next heq => rw [heq]
    · next heq => rw [heq]
  · rfl

/-- Where the raw output for listed files goes. -/
def outputPaths (d : LogDirectory) (entries : List SourceEntry) : List String :=
  entries.flatMap fun entry => DumpKind.all.map fun kind => d.dumpPath kind entry.shortPath

/-- **Passes with canned collaborators may be repeated** if no raw output goes to a listed file. -/
theorem repeatable_of_apart {w : Workshop} {extracts analyzes : Except CollaboratorError String}
    {listing : ListingKind → String → Except CollaboratorError String}
    {report : String → Except CollaboratorError String}
    (hextractor : w.extractor = .canned extracts listing)
    (hanalyzer : w.analyzer = .canned analyzes report) {entries : List SourceEntry}
    {fs : FileSystem}
    (hapart : fs.Apart (entries.map SourceEntry.fullPath) (outputPaths w.logDirectory entries))
    (pass : Pass) :
    Repeatable w pass entries
      (fs.Untouched (entries.map SourceEntry.fullPath) (outputPaths w.logDirectory entries)) := by
  refine repeatable_canned hextractor hanalyzer ?_ ?_ ?_ pass
  · intro entry hentry a b ha hb
    have hsource := List.mem_map_of_mem (f := SourceEntry.fullPath) hentry
    exact (ha.isFile_eq hsource).trans (hb.isFile_eq hsource).symm
  · intro entry hentry a b ha hb hthere
    have hsource := List.mem_map_of_mem (f := SourceEntry.fullPath) hentry
    have hfile : fs.isFile entry.fullPath := (hb.isFile_eq hsource).symm.trans hthere
    exact (ha.read_eq hsource hfile).trans (hb.read_eq hsource hfile).symm
  · intro entry hentry kind text gs hkept
    have houtput : w.logDirectory.dumpPath kind entry.shortPath ∈
        outputPaths w.logDirectory entries :=
      List.mem_flatMap.mpr ⟨entry, hentry, List.mem_map_of_mem (by cases kind <;> decide)⟩
    rw [files_of_dump]
    split
    · exact hkept.update hapart houtput fun _ => Utf8.encode text
    · exact hkept

/-- The sample collaborators, with their output kept. -/
def loggingWorkshop : Workshop := { sampleWorkshop with logDirectory := ⟨"/log", true⟩ }

/-- The sample files with a line each, beside a log directory. -/
def loggedFiles : FileSystem :=
  let file : StoredFile := ⟨Utf8.encode "int main(void);\n", Mode.ofFile, 0⟩
  { FileSystem.ofRoot (.ofList
      [("src", .folder (.ofList
          [("a.c", .file 0), ("b.c", .file 1), ("bad.c", .file 2), ("dead.c", .file 3)])),
        ("log", .folder (.ofList [("complexity", .folder .nil), ("edges", .folder .nil),
          ("functions", .folder .nil)]))]) [] with
    stored := #[file, file, file, file] }

/-- An archive that knows one function, and these files. -/
def loggedSite : Site Archive :=
  ⟨performAll [.registerFunction firstMain] .empty, loggedFiles, []⟩

/-- No sample file is in the log directory. -/
theorem apart_loggedFiles : loggedFiles.Apart (sampleEntries.map SourceEntry.fullPath)
    (outputPaths loggingWorkshop.logDirectory sampleEntries) := by
  decide +kernel

end CallForest.Ingest
