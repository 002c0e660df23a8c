import CallForest.Proofs.Files.DumpPaths
import CallForest.Proofs.Ingest.ReadOnly

/-!
# Raw output that is kept

A pass writes what its collaborator gives for a file to a path of the log directory, over whatever
is there. That path is made of the short path of the file, slashes as hyphens, so an output stays
until the pass comes to a file whose short path is the same up to that (`index_keepsOutput`). If
there is no such file, no output of the pass is lost.

The outputs are followed through the turns of a pass: they are kept apart after every turn
(`separate_takeTurn`), the one that is written holds its text (`holds_takeTurn`), and the others are
left alone (`leftAlone_takeTurn`).
-/

namespace CallForest.Ingest

open FileSystem (Separate LeftAlone Holds)
open LogDirectory (hyphenated)

/-! ## Outputs of a pass -/

/-- A reading, and the files that the collaborator left when it gave the text. -/
structure Output extends Reading where
  files : FileSystem

/-- Nothing goes wrong when an output is written to the log directory. -/
def Output.IsWritten (d : LogDirectory) (kind : DumpKind) (o : Output) : Prop :=
  (d.dump kind o.entry.shortPath o.text o.files).2 = []

instance (d : LogDirectory) (kind : DumpKind) (o : Output) : Decidable (o.IsWritten d kind) :=
  inferInstanceAs (Decidable (_ = _))

theorem write_of_dump {d : LogDirectory} {kind : DumpKind} {shortPath text : String}
    {fs : FileSystem} (hkeeps : d.keepsOutput) (h : (d.dump kind shortPath text fs).2 = []) :
    (fs.write (d.dumpPath kind shortPath) (Utf8.encode text)).2 = .ok () := by
  rw [LogDirectory.dump, if_pos hkeeps] at h
  dsimp only at h
  split at h
  · next heq => rw [heq]
  · cases h

/-- The output for a file when it is its turn. -/
def output? (w : Workshop) (kind : DumpKind) (entry : SourceEntry) (fs : FileSystem) :
    Option Output :=
  if entry.isPresent fs then
    let reply := call w kind entry.fullPath fs
    match reply.answer with
    | .ok text => some ⟨⟨entry, text⟩, reply.files⟩
    | .error _ => none
  else none

/-- The outputs for listed files, up to the turn that ends the pass. -/
def outputs (w : Workshop) (kind : DumpKind) : List SourceEntry → FileSystem → List Output
  | [], _ => []
  | entry :: entries, fs =>
    (output? w kind entry fs).toList ++
      match (takeTurn (ask w kind.pass) entry fs).1.fatal? with
      | some _ => []
      | none => outputs w kind entries (takeTurn (ask w kind.pass) entry fs).2

/-- The outputs of a pass. -/
def passOutputs (w : Workshop) (kind : DumpKind) (entries : List SourceEntry) (fs : FileSystem) :
    List Output :=
  match (probe w kind.pass fs).answer with
  | .error _ => []
  | .ok _ => outputs w kind entries (probe w kind.pass fs).files

/-- No call to the collaborator touches paths, up to the turn that ends the pass. -/
def CallsLeave (w : Workshop) (kind : DumpKind) (paths : List String) :
    List SourceEntry → FileSystem → Prop
  | [], _ => True
  | entry :: entries, fs =>
    (entry.isPresent fs → LeftAlone fs paths (call w kind entry.fullPath fs).files) ∧
      ((takeTurn (ask w kind.pass) entry fs).1.fatal? = none →
        CallsLeave w kind paths entries (takeTurn (ask w kind.pass) entry fs).2)

/-- The collaborator touches no path during a pass. -/
structure PassLeaves (w : Workshop) (kind : DumpKind) (paths : List String)
    (entries : List SourceEntry) (fs : FileSystem) : Prop where
  probe : LeftAlone fs paths (probe w kind.pass fs).files
  calls : CallsLeave w kind paths entries (Ingest.probe w kind.pass fs).files

section Turns

variable {w : Workshop} {kind : DumpKind} {entry : SourceEntry} {fs : FileSystem} {o : Output}

/-- The turn of a file that there is output for. -/
theorem takeTurn_of_some (h : output? w kind entry fs = some o) :
    o.entry = entry ∧ o.files = (call w kind entry.fullPath fs).files ∧ entry.isPresent fs ∧
      takeTurn (ask w kind.pass) entry fs =
        (⟨entry, some (.ok (intakeOf w kind o.entry o.text))⟩,
          (w.logDirectory.dump kind o.entry.shortPath o.text o.files).1) := by
  rw [output?] at h
  split at h
  · next hpresent =>
    dsimp only at h
    split at h
    · next text hanswer =>
      cases h
      refine ⟨rfl, rfl, hpresent, ?_⟩
      rw [takeTurn, if_pos hpresent, ask_eq, readReply, hanswer]
    · cases h
  · cases h

/-- The turn of a file that there is no output for. -/
theorem takeTurn_of_none (h : output? w kind entry fs = none) :
    (takeTurn (ask w kind.pass) entry fs).1.intake? = none ∧
      (takeTurn (ask w kind.pass) entry fs).2 =
        if entry.isPresent fs then (call w kind entry.fullPath fs).files else fs := by
  rw [output?] at h
  rw [takeTurn]
  split at h
  · next hpresent =>
    rw [if_pos hpresent, if_pos hpresent, ask_eq, readReply]
    dsimp only at h
    split at h
    · cases h
    · next e hanswer =>
      rw [hanswer]
      exact ⟨rfl, rfl⟩
  · next habsent =>
    rw [if_neg habsent, if_neg habsent]
    exact ⟨rfl, rfl⟩

theorem outputs_cons_of_some (h : output? w kind entry fs = some o) (entries : List SourceEntry) :
    outputs w kind (entry :: entries) fs =
        o :: outputs w kind entries (takeTurn (ask w kind.pass) entry fs).2 ∧
      filesAfter (ask w kind.pass) (entry :: entries) fs =
        filesAfter (ask w kind.pass) entries (takeTurn (ask w kind.pass) entry fs).2 ∧
      (takeTurn (ask w kind.pass) entry fs).1.fatal? = none := by
  obtain ⟨-, -, -, hturn⟩ := takeTurn_of_some h
  have hgoes : (takeTurn (ask w kind.pass) entry fs).1.fatal? = none := by rw [hturn]; rfl
  rw [outputs, filesAfter, hgoes, h]
  exact ⟨rfl, rfl, rfl⟩

/-- What a pass enters is made of its outputs. -/
theorem intakes_outputs (w : Workshop) (kind : DumpKind) (entries : List SourceEntry)
    (fs : FileSystem) :
    intakes (turnsBeforeEnd (turns (ask w kind.pass) entries fs)) =
      (outputs w kind entries fs).map fun o => intakeOf w kind o.entry o.text := by
  induction entries generalizing fs with
  | nil => rfl
  | cons entry entries ih =>
      rw [turns, turnsBeforeEnd, List.takeWhile_cons]
      cases houtput : output? w kind entry fs with
      | none =>
          rw [outputs, houtput]
          cases hfatal : (takeTurn (ask w kind.pass) entry fs).1.fatal? with
          | some e => rfl
          | none =>
              rw [Option.isNone_none, if_pos rfl, intakes_cons, (takeTurn_of_none houtput).1]
              exact ih _
      | some o =>
          obtain ⟨houtputs, -, hgoes⟩ := outputs_cons_of_some houtput entries
          rw [hgoes, houtputs, Option.isNone_none, if_pos rfl, intakes_cons,
            (takeTurn_of_some houtput).2.2.2]
          exact congrArg (_ :: ·) (ih _)

/-- There is at most one output for each listed file, in the order of the list. -/
theorem entries_outputs_sublist (w : Workshop) (kind : DumpKind) (entries : List SourceEntry)
    (fs : FileSystem) :
    ((outputs w kind entries fs).map fun o => o.entry).Sublist entries := by
  induction entries generalizing fs with
  | nil => exact List.Sublist.slnil
  | cons entry entries ih =>
      cases houtput : output? w kind entry fs with
      | none =>
          rw [outputs, houtput]
          cases (takeTurn (ask w kind.pass) entry fs).1.fatal? with
          | some e => exact List.nil_sublist _
          | none => exact (ih _).cons _
      | some o =>
          rw [(outputs_cons_of_some houtput entries).1, List.map_cons,
            (takeTurn_of_some houtput).1]
          exact (ih _).cons_cons _

/-! ## One turn -/

variable {paths : List String} (hkeeps : w.logDirectory.keepsOutput)
  (hseparate : Separate fs paths)
  (hcall : entry.isPresent fs → LeftAlone fs paths (call w kind entry.fullPath fs).files)
  (hmem : w.logDirectory.dumpPath kind entry.shortPath ∈ paths)

include hkeeps in
/-- A turn writes its output. -/
theorem files_takeTurn_of_some (h : output? w kind entry fs = some o) :
    (takeTurn (ask w kind.pass) entry fs).2 =
      (o.files.write (w.logDirectory.dumpPath kind entry.shortPath) (Utf8.encode o.text)).1 := by
  obtain ⟨rfl, -, -, hturn⟩ := takeTurn_of_some h
  rw [hturn, files_of_dump, if_pos hkeeps]

include hseparate hcall in
/-- Outputs are still kept apart when the collaborator has given one. -/
theorem separate_files_of_some (h : output? w kind entry fs = some o) :
    LeftAlone fs paths o.files ∧ Separate o.files paths := by
  obtain ⟨-, hfiles, hpresent, -⟩ := takeTurn_of_some h
  rw [hfiles]
  exact ⟨hcall hpresent, (hcall hpresent).separate hseparate⟩

include hcall in
/-- A turn without output leaves the outputs alone. -/
theorem leftAlone_takeTurn_of_none (h : output? w kind entry fs = none) :
    LeftAlone fs paths (takeTurn (ask w kind.pass) entry fs).2 := by
  rw [(takeTurn_of_none h).2]
  split
  · next hpresent => exact hcall hpresent
  · exact LeftAlone.refl fs paths

include hkeeps hseparate hcall hmem

/-- **Outputs are kept apart after a turn** if they were before. -/
theorem separate_takeTurn : Separate (takeTurn (ask w kind.pass) entry fs).2 paths := by
  cases houtput : output? w kind entry fs with
  | none => exact (leftAlone_takeTurn_of_none hcall houtput).separate hseparate
  | some o =>
      rw [files_takeTurn_of_some hkeeps houtput]
      exact (separate_files_of_some hseparate hcall houtput).2.write hmem
        (LogDirectory.asksForDirectory_dumpPath _ _ _) _

/-- **A turn leaves the other outputs alone.** -/
theorem leftAlone_takeTurn {p : String} (hp : p ∈ paths)
    (hne : ∀ o ∈ output? w kind entry fs, p ≠ w.logDirectory.dumpPath kind o.entry.shortPath) :
    LeftAlone fs [p] (takeTurn (ask w kind.pass) entry fs).2 := by
  have hsubset : [p] ⊆ paths := List.cons_subset.mpr ⟨hp, List.nil_subset _⟩
  cases houtput : output? w kind entry fs with
  | none => exact (leftAlone_takeTurn_of_none hcall houtput).of_subset hsubset
  | some o =>
      obtain ⟨hleft, hapart⟩ := separate_files_of_some hseparate hcall houtput
      have hother := hne o houtput
      rw [(takeTurn_of_some houtput).1] at hother
      rw [files_takeTurn_of_some hkeeps houtput]
      exact (hleft.of_subset hsubset).trans (hapart.leftAlone_write hmem hp
        (LogDirectory.asksForDirectory_dumpPath _ _ _) hother _)

/-- **A turn leaves its output where it has been written.** -/
theorem holds_takeTurn (h : output? w kind entry fs = some o)
    (hwritten : o.IsWritten w.logDirectory kind) :
    (takeTurn (ask w kind.pass) entry fs).2.Holds
      (w.logDirectory.dumpPath kind entry.shortPath) (Utf8.encode o.text) := by
  obtain ⟨-, hapart⟩ := separate_files_of_some hseparate hcall h
  have hentry := (takeTurn_of_some h).1
  rw [files_takeTurn_of_some hkeeps h]
  refine hapart.holds_write hmem (LogDirectory.asksForDirectory_dumpPath _ _ _) ?_ ?_
  · rw [LogDirectory.pieces_dumpPath]
    exact List.concat_ne_nil _ _
  · rw [Output.IsWritten, hentry] at hwritten
    exact write_of_dump hkeeps hwritten

end Turns

/-! ## A run of turns -/

section Run

variable {w : Workshop} {kind : DumpKind} {entries : List SourceEntry} {paths : List String}
  {fs : FileSystem} (hkeeps : w.logDirectory.keepsOutput)

include hkeeps

/-- Turns leave an output alone that they do not write. -/
theorem leftAlone_filesAfter (hseparate : Separate fs paths)
    (hcalls : CallsLeave w kind paths entries fs)
    (hmem : w.logDirectory.dumpPaths kind entries ⊆ paths) {p : String} (hp : p ∈ paths)
    (hne : ∀ o ∈ outputs w kind entries fs, p ≠ w.logDirectory.dumpPath kind o.entry.shortPath) :
    LeftAlone fs [p] (filesAfter (ask w kind.pass) entries fs) := by
  induction entries generalizing fs with
  | nil => exact LeftAlone.refl fs [p]
  | cons entry entries ih =>
      obtain ⟨hpath, hpaths⟩ := List.cons_subset.mp hmem
      obtain ⟨hcall, hrest⟩ := hcalls
      rw [outputs] at hne
      have hturn := leftAlone_takeTurn hkeeps hseparate hcall hpath hp fun o ho =>
        hne o (List.mem_append_left _ (Option.mem_toList.mpr ho))
      rw [filesAfter]
      cases hfatal : (takeTurn (ask w kind.pass) entry fs).1.fatal? with
      | some e => exact hturn
      | none =>
          rw [hfatal] at hne
          exact hturn.trans (ih (separate_takeTurn hkeeps hseparate hcall hpath) (hrest hfatal)
            hpaths fun o ho => hne o (List.mem_append_right _ ho))

/-- **The last output with its path is there** after the turns, if it has been written. -/
theorem holds_filesAfter (hseparate : Separate fs paths)
    (hcalls : CallsLeave w kind paths entries fs)
    (hmem : w.logDirectory.dumpPaths kind entries ⊆ paths) {earlier later : List Output}
    {o : Output} (houtputs : outputs w kind entries fs = earlier ++ o :: later)
    (hlater : ∀ o' ∈ later, w.logDirectory.dumpPath kind o.entry.shortPath ≠
      w.logDirectory.dumpPath kind o'.entry.shortPath)
    (hwritten : o.IsWritten w.logDirectory kind) :
    (filesAfter (ask w kind.pass) entries fs).Holds
      (w.logDirectory.dumpPath kind o.entry.shortPath) (Utf8.encode o.text) := by
  induction entries generalizing fs earlier with
  | nil => cases earlier <;> cases houtputs
  | cons entry entries ih =>
      obtain ⟨hpath, hpaths⟩ := List.cons_subset.mp hmem
      obtain ⟨hcall, hrest⟩ := hcalls
      have hnext := separate_takeTurn hkeeps hseparate hcall hpath
      cases houtput : output? w kind entry fs with
      | none =>
          rw [outputs, houtput] at houtputs
          rw [filesAfter]
          cases hfatal : (takeTurn (ask w kind.pass) entry fs).1.fatal? with
          | some e =>
              rw [hfatal] at houtputs
              cases earlier <;> cases houtputs
          | none =>
              rw [hfatal] at houtputs
              exact ih hnext (hrest hfatal) hpaths houtputs
      | some first =>
          obtain ⟨hcons, hfiles, hgoes⟩ := outputs_cons_of_some houtput entries
          rw [hcons] at houtputs
          rw [hfiles]
          cases earlier with
          | nil =>
              -- this turn writes the output, and no later one goes to its path
              obtain ⟨rfl, rfl⟩ := List.cons.inj houtputs
              have hentry := (takeTurn_of_some houtput).1
              have hholds := holds_takeTurn hkeeps hseparate hcall hpath houtput hwritten
              rw [hentry] at hlater ⊢
              exact (leftAlone_filesAfter hkeeps hnext (hrest hgoes) hpaths hpath hlater).holds
                (List.mem_singleton.mpr rfl) hholds
          | cons o' earlier =>
              exact ih hnext (hrest hgoes) hpaths (List.cons.inj houtputs).2

end Run

/-! ## A pass -/

/-- What a pass keeps of the raw output that it gets. -/
structure KeepsOutput {σ : Type} [GraphStore σ] (w : Workshop) (kind : DumpKind)
    (entries : List SourceEntry) (site : Site σ) : Prop where
  /-- Two outputs go to one path just when they are of one kind, and of files whose short paths are
  the same up to slashes and hyphens. -/
  path_eq_iff : ∀ kind other p q, w.logDirectory.dumpPath kind p = w.logDirectory.dumpPath other q ↔
    kind = other ∧ hyphenated p = hyphenated q
  /-- The outputs are those that the pass enters into the store. -/
  entered : passIntakes w kind.pass entries site.files =
    (passOutputs w kind entries site.files).map fun o => intakeOf w kind o.entry o.text
  /-- A path holds the last output that goes there, if it could be written. -/
  last_kept : ∀ earlier o later, passOutputs w kind entries site.files = earlier ++ o :: later →
    (∀ o' ∈ later, hyphenated o'.entry.shortPath ≠ hyphenated o.entry.shortPath) →
    o.IsWritten w.logDirectory kind →
    (index w kind.pass entries site).1.files.read
      (w.logDirectory.dumpPath kind o.entry.shortPath) = .ok (Utf8.encode o.text)
  /-- No output is lost if the short paths of listed files differ by more than slashes and
  hyphens. -/
  all_kept : (entries.map fun entry => hyphenated entry.shortPath).Nodup →
    (∀ o ∈ passOutputs w kind entries site.files, o.IsWritten w.logDirectory kind) →
    ∀ o ∈ passOutputs w kind entries site.files,
      (index w kind.pass entries site).1.files.read
        (w.logDirectory.dumpPath kind o.entry.shortPath) = .ok (Utf8.encode o.text)

section Index

variable {σ : Type} [GraphStore σ] {w : Workshop} {kind : DumpKind} {entries : List SourceEntry}
  {fs : FileSystem} {site : Site σ}

/-- A pass that has outputs has been made, with them in its turns. -/
theorem exists_version_of_mem_passOutputs {o : Output} (h : o ∈ passOutputs w kind entries fs) :
    ∃ version, (probe w kind.pass fs).answer = .ok version ∧
      passOutputs w kind entries fs = outputs w kind entries (probe w kind.pass fs).files := by
  rw [passOutputs] at h ⊢
  cases hanswer : (probe w kind.pass fs).answer with
  | error e =>
      rw [hanswer] at h
      cases h
  | ok version => exact ⟨version, rfl, rfl⟩

/-- What tells the short paths of listed files apart tells an output from the later ones. -/
theorem ne_of_nodup {f : String → String} (h : (entries.map fun entry => f entry.shortPath).Nodup)
    {earlier later : List Output} {o : Output}
    (houtputs : outputs w kind entries fs = earlier ++ o :: later) {o' : Output}
    (ho' : o' ∈ later) : f o'.entry.shortPath ≠ f o.entry.shortPath := by
  have hsublist := (entries_outputs_sublist w kind entries fs).map fun entry => f entry.shortPath
  have hnodup := hsublist.nodup h
  rw [houtputs, List.map_map, List.map_append, List.nodup_append] at hnodup
  obtain ⟨hnot, -⟩ := List.nodup_cons.mp hnodup.2.1
  intro heq
  exact hnot (List.mem_map.mpr ⟨o', ho', heq⟩)

/-- **A pass keeps the raw output that it gets**, until it comes to another file whose short path is
the same up to slashes and hyphens. No path that output goes to may be a link or a device, no two of
them names of one file, and the collaborator has to leave them alone. -/
theorem index_keepsOutput (hkeeps : w.logDirectory.keepsOutput)
    (hown : site.files.OwnFiles (w.logDirectory.dumpPaths kind entries))
    (hlink : ∀ o ∈ w.logDirectory.dumpPaths kind entries,
      site.files.leadsTo? true o = site.files.leadsTo? false o)
    (hleaves : PassLeaves w kind (w.logDirectory.dumpPaths kind entries) entries site.files) :
    KeepsOutput w kind entries site := by
  have hseparate := hleaves.probe.separate (LogDirectory.separate_dumpPaths hown hlink)
  have hlast : ∀ earlier o later,
      passOutputs w kind entries site.files = earlier ++ o :: later →
      (∀ o' ∈ later, hyphenated o'.entry.shortPath ≠ hyphenated o.entry.shortPath) →
      o.IsWritten w.logDirectory kind →
      (index w kind.pass entries site).1.files.read
        (w.logDirectory.dumpPath kind o.entry.shortPath) = .ok (Utf8.encode o.text) := by
    intro earlier o later houtputs hlater hwritten
    have hmem : o ∈ passOutputs w kind entries site.files := houtputs ▸ List.mem_append_cons_self
    obtain ⟨version, hprobe, hpass⟩ := exists_version_of_mem_passOutputs hmem
    rw [hpass] at houtputs
    have hpaths : ∀ o' ∈ later, w.logDirectory.dumpPath kind o.entry.shortPath ≠
        w.logDirectory.dumpPath kind o'.entry.shortPath := fun o' ho' heq =>
      hlater o' ho' (LogDirectory.dumpPath_eq_iff.mp heq).2.symm
    rw [files_index hprobe]
    exact (holds_filesAfter hkeeps hseparate hleaves.calls (List.Subset.refl _) houtputs hpaths
      hwritten).read (LogDirectory.asksForDirectory_dumpPath _ _ _)
  refine ⟨fun _ _ _ _ => LogDirectory.dumpPath_eq_iff, ?_, hlast, ?_⟩
  · rw [passIntakes, passOutputs, passTurns]
    cases (probe w kind.pass site.files).answer with
    | error e => rfl
    | ok version => exact intakes_outputs ..
  · intro hnodup hwritten o ho
    obtain ⟨-, -, hpass⟩ := exists_version_of_mem_passOutputs ho
    obtain ⟨earlier, later, houtputs⟩ := List.append_of_mem ho
    refine hlast earlier o later houtputs (fun o' ho' => ?_) (hwritten o ho)
    exact ne_of_nodup hnodup (hpass ▸ houtputs) ho'

theorem callsLeave_of_files {paths : List String}
    (h : ∀ source gs, (call w kind source gs).files = gs) : CallsLeave w kind paths entries fs := by
  induction entries generalizing fs with
  | nil => trivial
  | cons entry entries ih =>
      refine ⟨fun _ => ?_, fun _ => ih⟩
      rw [h]
      exact LeftAlone.refl fs paths

/-- Canned collaborators touch nothing. -/
theorem passLeaves_canned {extracts analyzes : Except CollaboratorError String}
    {listing : ListingKind → String → Except CollaboratorError String}
    {report : String → Except CollaboratorError String}
    (hextractor : w.extractor = .canned extracts listing)
    (hanalyzer : w.analyzer = .canned analyzes report) (kind : DumpKind) (paths : List String)
    (entries : List SourceEntry) (fs : FileSystem) : PassLeaves w kind paths entries fs := by
  have hprobe : (probe w kind.pass fs).files = fs := by
    cases kind <;> simp only [DumpKind.pass, probe, hextractor, hanalyzer] <;> rfl
  refine ⟨?_, callsLeave_of_files fun source gs => ?_⟩
  · rw [hprobe]
    exact LeftAlone.refl fs paths
  · cases kind <;> simp only [call, hextractor, hanalyzer] <;> rfl

/-- Neither do programs that leave the files as they are: what is left of their copies has no
name. -/
theorem passLeaves_programs {host : Host} (hhost : host.LeavesFiles) (c : Config)
    (scratch : String) (kind : DumpKind) (paths : List String) (entries : List SourceEntry)
    (hfs : fs.WellFormed) : PassLeaves (c.workshop host scratch) kind paths entries fs := by
  refine ⟨?_, ?_⟩
  · rw [files_probe hhost]
    exact LeftAlone.refl fs paths
  · rw [files_probe hhost]
    induction entries generalizing fs with
    | nil => trivial
    | cons entry entries ih =>
        exact ⟨fun _ => (rewritten_call hhost c scratch kind entry.fullPath hfs).leftAlone paths,
          fun _ => ih (wellFormed_takeTurn hhost c scratch kind entry hfs)⟩

end Index

/-- Collaborators that name the file they are asked about. -/
def namingWorkshop : Workshop :=
  { loggingWorkshop with
    extractor := .canned (.ok "cflow 1.7") fun _ source => .ok (source ++ "()\n") }

/-- Four sources beside a log directory with those listings of earlier passes. -/
def crowdedSite (listings : Directory) : Site Ledger :=
  let file : StoredFile := ⟨[], Mode.ofFile, 0⟩
  ⟨.empty, { FileSystem.ofRoot (.ofList
      [("src", .folder (.ofList [("a.c", .file 0), ("b.c", .file 1), ("a-b.c", .file 2),
          ("a", .folder (.ofList [("b.c", .file 3)]))])),
        ("log", .folder (.ofList [("edges", .folder listings)]))]) [] with
      stored := #[file, file, file, file, file] }, []⟩

/-- Two of them. -/
def crowdedEntries : List SourceEntry :=
  ["a.c", "b.c"].map (SourceEntry.under "/src")

/-- A pass over two files keeps both listings that it gets, and so does one with programs. -/
theorem index_keepsOutput_crowded :
    KeepsOutput namingWorkshop .edges crowdedEntries (crowdedSite .nil) ∧
      (crowdedEntries.map fun entry => hyphenated entry.shortPath).Nodup ∧
      (passOutputs namingWorkshop .edges crowdedEntries (crowdedSite .nil).files).map
          (fun o => (o.text, decide (o.IsWritten namingWorkshop.logDirectory .edges))) =
        [("/src/a.c()\n", true), ("/src/b.c()\n", true)] ∧
      KeepsOutput (echoConfig.workshop echoHost "/scratch") .edges crowdedEntries
        (crowdedSite .nil) :=
  ⟨index_keepsOutput (by decide) (by decide +kernel) (by decide +kernel)
    (passLeaves_canned rfl rfl ..), by decide +kernel, by decide +kernel,
    index_keepsOutput rfl (by decide +kernel) (by decide +kernel)
      (passLeaves_programs reads_echoHost.files_eq _ _ _ _ _ (by decide +kernel))⟩

/-- A pass over files with different short paths loses an output, though all could be written. -/
def LosesOutput {σ : Type} [GraphStore σ] (w : Workshop) (kind : DumpKind)
    (entries : List SourceEntry) (site : Site σ) : Prop :=
  (entries.map SourceEntry.shortPath).Nodup ∧
    (∀ o ∈ passOutputs w kind entries site.files, o.IsWritten w.logDirectory kind) ∧
    ∃ o ∈ passOutputs w kind entries site.files, (index w kind.pass entries site).1.files.read
      (w.logDirectory.dumpPath kind o.entry.shortPath) ≠ .ok (Utf8.encode o.text)

instance {σ : Type} [GraphStore σ] (w : Workshop) (kind : DumpKind) (entries : List SourceEntry)
    (site : Site σ) : Decidable (LosesOutput w kind entries site) :=
  inferInstanceAs (Decidable (_ ∧ _ ∧ _))

/-- **Outputs are lost** if two listed short paths differ in a slash and a hyphen alone. The others
are lost to what the directory held before: a link to the path of another output, two names of one
file, a device. -/
theorem losesOutput_crowded :
    LosesOutput namingWorkshop .edges (["a/b.c", "a-b.c"].map (SourceEntry.under "/src"))
        (crowdedSite .nil) ∧
      ∀ listings ∈ [Directory.ofList [("a.c.log", .link "b.c.log")],
          .ofList [("a.c.log", .file 4), ("b.c.log", .file 4)],
          .ofList [("a.c.log", .device .null)]],
        LosesOutput namingWorkshop .edges crowdedEntries (crowdedSite listings) := by
  decide +kernel

end CallForest.Ingest
