import CallForest.Proofs.Ingest.Passes
import CallForest.Proofs.Ingest.Readings
import CallForest.Proofs.Ingest.Repeating

/-!
# A pass that ends early leaves what it had

A pass ends early if its collaborator cannot be probed, or at the first file that is there and for
which the collaborator turns out to be missing. It then leaves the store as it had it before, and
the files as the collaborator leaves them (`EndsAsBefore`): as they were at the start, or as the
pass over the files in front leaves them, which returns (`index_endsAsBefore`).

Collaborators that touch nothing when they fail are `Quiet`, and what such a one leaves cannot be
told from what there was before. Canned ones are (`quiet_canned`).
-/

namespace CallForest.Ingest

/-- Probes that fail, and calls that find the collaborator missing, leave the files the same. -/
structure Quiet (w : Workshop) (kind : DumpKind) (Same : FileSystem → FileSystem → Prop) :
    Prop where
  probe : ∀ fs e, (probe w kind.pass fs).answer = .error e → Same (probe w kind.pass fs).files fs
  call : ∀ source fs program cause,
    (call w kind source fs).answer = .error (.missing program cause) →
      Same (call w kind source fs).files fs

/-- A pass ends with the error of a reply and leaves what there was before the reply. -/
structure EndsAsBefore {σ : Type} (w : Workshop) (kind : DumpKind) (e : CollaboratorError)
    (reply : Reply String) (before : Site σ)
    (pass : Site σ × Except CollaboratorError BatchReport) : Prop where
  result_eq : pass.2 = .error e
  store_eq : pass.1.store = before.store
  /-- After the collaborator nobody touches the files. -/
  files_eq : pass.1.files = reply.files
  /-- A quiet collaborator leaves them the same. -/
  same : ∀ Same, Quiet w kind Same → Same pass.1.files before.files

/-- Canned collaborators are quiet. -/
theorem quiet_canned {w : Workshop} {extracts analyzes : Except CollaboratorError String}
    {listing : ListingKind → String → Except CollaboratorError String}
    {report : String → Except CollaboratorError String}
    (hextractor : w.extractor = .canned extracts listing)
    (hanalyzer : w.analyzer = .canned analyzes report) (kind : DumpKind) : Quiet w kind Eq := by
  constructor
  · intro fs e _
    cases kind <;> simp only [DumpKind.pass, probe, hextractor, hanalyzer] <;> rfl
  · intro source fs program cause _
    cases kind <;> simp only [Ingest.call, hextractor, hanalyzer] <;> rfl

section Stop

variable {σ : Type} [GraphStore σ] {w : Workshop} {kind : DumpKind} {site : Site σ}

theorem endsAsBefore_of_probe {e : CollaboratorError}
    (hprobe : (probe w kind.pass site.files).answer = .error e) (entries : List SourceEntry) :
    EndsAsBefore w kind e (probe w kind.pass site.files) site
      (index w kind.pass entries site) := by
  rw [index_of_probe_error hprobe]
  exact ⟨rfl, rfl, rfl, fun _ hquiet => hquiet.probe _ e hprobe⟩

/-- The turns before the one that ends a pass are those of the files in front. -/
theorem turnsBeforeEnd_append {ts rest : List Turn} {t : Turn}
    (hgoes : ∀ t ∈ ts, t.fatal? = none) (hfatal : t.fatal?.isSome) :
    turnsBeforeEnd (ts ++ t :: rest) = ts := by
  have hstops : turnsBeforeEnd (t :: rest) = [] := by
    rw [turnsBeforeEnd, List.takeWhile_cons_of_neg]
    simpa using Option.isSome_iff_ne_none.mp hfatal
  rw [turnsBeforeEnd, List.takeWhile_append_of_pos fun t ht => by rw [hgoes t ht]; rfl]
  exact (congrArg (ts ++ ·) hstops).trans (List.append_nil ts)

theorem endsAsBefore_of_missing {version : String} {before later : List SourceEntry}
    {entry : SourceEntry} {program : String} {cause : OsError}
    (hprobe : (probe w kind.pass site.files).answer = .ok version)
    (hgoes : ∀ t ∈ passTurns w kind.pass before site.files, t.fatal? = none)
    (hpresent : entry.isPresent (index w kind.pass before site).1.files)
    (hmissing : (call w kind entry.fullPath (index w kind.pass before site).1.files).answer =
      .error (.missing program cause)) :
    EndsAsBefore w kind (.missing program cause)
      (call w kind entry.fullPath (index w kind.pass before site).1.files)
      (index w kind.pass before site).1
      (index w kind.pass (before ++ entry :: later) site) := by
  have hfiles := files_index hprobe before
  rw [hfiles] at hpresent hmissing ⊢
  have hfatal := fatal?_takeTurn hpresent hmissing
  -- the turns of the whole list: those in front, the one that ends the pass, and others
  have hturns : passTurns w kind.pass (before ++ entry :: later) site.files =
      passTurns w kind.pass before site.files ++
        (takeTurn (ask w kind.pass) entry (filesAfter (ask w kind.pass) before
          (probe w kind.pass site.files).files)).1 :: turns (ask w kind.pass) later _ :=
    turns_append hgoes (entry :: later)
  have hleft : (index w kind.pass (before ++ entry :: later) site).1.files =
      (call w kind entry.fullPath (filesAfter (ask w kind.pass) before
        (probe w kind.pass site.files).files)).files := by
    rw [files_index hprobe, filesAfter_append hgoes, filesAfter, hfatal]
    exact files_takeTurn hpresent hmissing
  constructor
  · refine error_index hprobe ?_
    have hfront : (passTurns w kind.pass before site.files).findSome? Turn.fatal? = none :=
      List.findSome?_eq_none_iff.mpr hgoes
    rw [hturns, List.findSome?_append, hfront, Option.none_or, List.findSome?_cons, hfatal]
  · rw [store_index, store_index, passIntakes_of_goes hprobe hgoes, passIntakes, hprobe, hturns]
    simp only [turnsBeforeEnd_append hgoes (Option.isSome_of_eq_some hfatal)]
  · exact hleft
  · intro Same hquiet
    rw [hleft, hfiles]
    exact hquiet.call _ _ program cause hmissing

/-- **A pass that ends early leaves what it had.** If the probe fails, that is what it began with.
If at the first file for which it matters the collaborator is missing, it is what the pass over the
files in front leaves, and that pass returns. -/
theorem index_endsAsBefore (w : Workshop) (kind : DumpKind) (entries : List SourceEntry)
    (site : Site σ) :
    (∀ e, (probe w kind.pass site.files).answer = .error e →
      EndsAsBefore w kind e (probe w kind.pass site.files) site
        (index w kind.pass entries site)) ∧
      ∀ version before entry later program cause,
        (probe w kind.pass site.files).answer = .ok version →
        entries = before ++ entry :: later →
        (∀ t ∈ passTurns w kind.pass before site.files, t.fatal? = none) →
        let done := index w kind.pass before site
        entry.isPresent done.1.files →
        (call w kind entry.fullPath done.1.files).answer = .error (.missing program cause) →
          (∃ report, done.2 = .ok report) ∧
            EndsAsBefore w kind (.missing program cause)
              (call w kind entry.fullPath done.1.files) done.1
              (index w kind.pass entries site) := by
  refine ⟨fun e hprobe => endsAsBefore_of_probe hprobe entries, ?_⟩
  rintro version before entry later program cause hprobe rfl hgoes done hpresent hmissing
  exact ⟨returns_index site hprobe hgoes,
    endsAsBefore_of_missing hprobe hgoes hpresent hmissing⟩

end Stop

/-- An extractor that cannot be probed, or is missing when it is to list the calls of one file. -/
def failingWorkshop (version : Except CollaboratorError String) : Workshop where
  extractor := .canned version fun
    | .callTree, "/src/dead.c" => .error (.missing "cflow" .notFound)
    | kind, source => sampleListing kind source
  analyzer := sampleWorkshop.analyzer
  skip := []
  logDirectory := ⟨"/log", true⟩

theorem index_endsAsBefore_sample :
    let site : Site Ledger := ⟨.empty, loggedFiles, []⟩
    let done := index (failingWorkshop (.ok "cflow 1.7")) .edges (sampleEntries.take 3) site
    let ended := index (failingWorkshop (.ok "cflow 1.7")) .edges sampleEntries site
    let refusal := CollaboratorError.failed "cflow" "cflow" (some 2) ""
    let refused := index (failingWorkshop (.error refusal)) .edges sampleEntries site
    (∃ report, done.2 = .ok report) ∧ ended.2 = .error (.missing "cflow" .notFound) ∧
      ended.1.store = done.1.store ∧ ended.1.store.edges.length = 2 ∧
      ended.1.files = done.1.files ∧
      ended.1.files.read "/log/edges/a.c.log" = .ok (Utf8.encode "main()\n    run()\n") ∧
      refused.2 = .error refusal ∧ refused.1.store = .empty ∧
      refused.1.files = site.files := by
  intro site done ended refusal refused
  -- decided together, so that the pass over the files in front is run once
  have hruns : (∀ t ∈ passTurns (failingWorkshop (.ok "cflow 1.7")) .edges (sampleEntries.take 3)
      site.files, t.fatal? = none) ∧ (SourceEntry.under "/src" "dead.c").isPresent done.1.files ∧
      done.1.store.edges.length = 2 ∧
      done.1.files.read "/log/edges/a.c.log" = .ok (Utf8.encode "main()\n    run()\n") := by
    decide +kernel
  obtain ⟨hgoes, hpresent, hlength, hread⟩ := hruns
  obtain ⟨hreturns, hended⟩ :=
    (index_endsAsBefore (failingWorkshop (.ok "cflow 1.7")) .edges sampleEntries site).2
      "cflow 1.7" (sampleEntries.take 3) (.under "/src" "dead.c") [.under "/src" "b.c"]
      "cflow" .notFound rfl rfl hgoes hpresent rfl
  have hrefused :=
    (index_endsAsBefore (failingWorkshop (.error refusal)) .edges sampleEntries site).1
      refusal rfl
  have hstore : ended.1.store = done.1.store := hended.store_eq
  have hfiles : ended.1.files = done.1.files := hended.same Eq (quiet_canned rfl rfl .edges)
  rw [← hstore] at hlength
  rw [← hfiles] at hread
  exact ⟨hreturns, hended.result_eq, hstore, hlength, hfiles, hread, hrefused.result_eq,
    hrefused.store_eq, hrefused.same Eq (quiet_canned rfl rfl .edges)⟩

end CallForest.Ingest
