import CallForest.Proofs.Ingest.Order
import CallForest.Proofs.Ingest.ReadOnly

/-!
# Faults stay with their files

A pass that no missing collaborator ends returns, whatever files are absent, refused, malformed or
good. Its report counts every listed file once, and its store is what comes of entering the intakes
of the files one after another, so no file sees more of those before it than the store (`Isolates`,
`index_isolates`).

The files of which nothing was read need not have been listed: the pass over the others handles as
many files and leaves the same store (`KeptSuffice`). For this the collaborators must be steady.
`Steady` says so with a relation between file systems that a pass cannot tell apart: a file gets the
same turn on both, and to give a file up makes no difference. Canned collaborators are steady, since
they leave the files alone when they fail (`steady_canned`), and so are those whose passes may be
repeated, as programs that read (`Repeatable.steady`).

A file is skipped if it is not there when it is its turn. It may have been absent when the pass
began, and come with the output of a file before it (`handled_although_absent`).
-/

namespace CallForest.Ingest

/-- The entries of the turns that brought an intake. -/
def kept (ts : List Turn) : List SourceEntry :=
  (ts.filter fun t => t.intake?.isSome).map Turn.entry

/-- Asking for the entries does not tell file systems apart that are the same, and gives up a file
without leaving another one. -/
structure Steady (ask : Asking) (entries : List SourceEntry)
    (Same : FileSystem → FileSystem → Prop) : Prop where
  turn_eq : ∀ entry ∈ entries, ∀ {a b}, Same a b →
    (takeTurn ask entry a).1 = (takeTurn ask entry b).1
  left : ∀ entry ∈ entries, ∀ {a b}, Same a b →
    Same (takeTurn ask entry a).2 (takeTurn ask entry b).2
  given_up : ∀ entry ∈ entries, ∀ {a b}, Same a b → (takeTurn ask entry a).1.intake? = none →
    Same (takeTurn ask entry a).2 b

/-- What a pass comes to that nothing ends. -/
structure Isolates {σ : Type} [GraphStore σ] (w : Workshop) (pass : Pass)
    (entries : List SourceEntry) (site : Site σ) (report : BatchReport) : Prop where
  /-- The pass returns a report. -/
  returns : (index w pass entries site).2 = .ok report
  /-- Every listed file is counted once. -/
  total_eq : report.processed + report.skipped + report.failed = entries.length
  /-- Those are skipped that are not there when it is their turn. -/
  skipped_eq : report.skipped = (passTurns w pass entries site.files).countP Turn.isAbsent
  /-- The intakes of the files are entered one after another, those of given-up files too. -/
  store_eq : (index w pass entries site).1.store =
    Intake.takeIn (intakes (passTurns w pass entries site.files)) site.store

/-- Files without an intake need not be listed. -/
def KeptSuffice {σ : Type} [GraphStore σ] (w : Workshop) (pass : Pass) (entries : List SourceEntry)
    (site : Site σ) (report : BatchReport) : Prop :=
  ∃ rest, (index w pass (kept (passTurns w pass entries site.files)) site).2 = .ok rest ∧
    rest.processed = report.processed ∧
      (index w pass (kept (passTurns w pass entries site.files)) site).1.store =
        (index w pass entries site).1.store

/-- When it is its turn, every listed file is there if it was when the pass began. -/
def NoneComesOrGoes (w : Workshop) (pass : Pass) (entries : List SourceEntry) (fs : FileSystem) :
    Prop :=
  ∀ earlier entry later, entries = earlier ++ entry :: later →
    entry.isPresent (filesAfter (ask w pass) earlier (probe w pass fs).files) = entry.isPresent fs

/-! ## Steady collaborators -/

theorem isAbsent_takeTurn (ask : Asking) (entry : SourceEntry) (fs : FileSystem) :
    (takeTurn ask entry fs).1.isAbsent = !entry.isPresent fs := by
  rw [takeTurn]
  cases entry.isPresent fs <;> rfl

section Steady

variable {ask : Asking} {entry : SourceEntry} {entries : List SourceEntry}
  {Same : FileSystem → FileSystem → Prop}

theorem Steady.of_cons (h : Steady ask (entry :: entries) Same) : Steady ask entries Same where
  turn_eq e he := h.turn_eq e (List.mem_cons_of_mem _ he)
  left e he := h.left e (List.mem_cons_of_mem _ he)
  given_up e he := h.given_up e (List.mem_cons_of_mem _ he)

/-- Calls that leave the files alone when they fail are steady. -/
theorem steady_of_refused
    (h : ∀ entry ∈ entries, ∀ fs e, (ask entry fs).2 = .error e → (ask entry fs).1 = fs) :
    Steady ask entries Eq where
  turn_eq _ _ _ _ hsame := hsame ▸ rfl
  left _ _ _ _ hsame := hsame ▸ rfl
  given_up entry hentry a b hsame hnone := by
    subst hsame
    rw [takeTurn] at hnone ⊢
    split at hnone
    · next hthere =>
      rw [if_pos hthere]
      cases hask : (ask entry a).2 with
      | error e => exact h entry hentry a e hask
      | ok i =>
          rw [hask] at hnone
          cases hnone
    · next hgone => rw [if_neg hgone]

theorem readReply_of_error {w : Workshop} {kind : DumpKind} {read : String → Intake}
    {reply : Reply String} {e : IngestError}
    (h : (readReply w kind entry read reply).2 = .error e) :
    (readReply w kind entry read reply).1 = reply.files := by
  unfold readReply at h ⊢
  split at h
  · rfl
  · cases h

/-- Canned collaborators are steady, whether their output is kept or not. -/
theorem steady_canned {w : Workshop} {extracts analyzes : Except CollaboratorError String}
    {listing : ListingKind → String → Except CollaboratorError String}
    {report : String → Except CollaboratorError String}
    (hextractor : w.extractor = .canned extracts listing)
    (hanalyzer : w.analyzer = .canned analyzes report) (pass : Pass)
    (entries : List SourceEntry) : Steady (Ingest.ask w pass) entries Eq := by
  refine steady_of_refused fun entry _ fs e he => ?_
  cases pass with
  | files => rfl
  | functions =>
      refine (readReply_of_error he).trans ?_
      rw [hextractor]
      rfl
  | edges =>
      refine (readReply_of_error he).trans ?_
      rw [hextractor]
      rfl
  | complexity =>
      refine (readReply_of_error he).trans ?_
      rw [hanalyzer]
      rfl

/-- Collaborators whose passes may be repeated are steady on the file systems that are `Kept`. -/
theorem Repeatable.steady {w : Workshop} {pass : Pass} {Kept : FileSystem → Prop}
    (h : Repeatable w pass entries Kept) :
    Steady (Ingest.ask w pass) entries fun a b => Kept a ∧ Kept b where
  turn_eq entry hentry _ _ hkept := h.turn_eq entry hentry hkept.1 hkept.2
  left entry hentry _ _ hkept :=
    ⟨h.turn_left entry hentry hkept.1, h.turn_left entry hentry hkept.2⟩
  given_up entry hentry _ _ hkept _ := ⟨h.turn_left entry hentry hkept.1, hkept.2⟩

/-- On such file systems every listed file is there or none is. -/
theorem Repeatable.noneComesOrGoes {w : Workshop} {pass : Pass} {Kept : FileSystem → Prop}
    (h : Repeatable w pass entries Kept) {fs : FileSystem} (hkept : Kept fs) :
    NoneComesOrGoes w pass entries fs := by
  intro earlier entry later heq
  have hearlier := (h.of_subset (heq ▸ List.subset_append_left _ _)).kept_filesAfter
    (h.probe_left hkept)
  have hentry : entry ∈ entries :=
    heq ▸ List.mem_append_right earlier List.mem_cons_self
  have hturn := congrArg Turn.isAbsent (h.turn_eq entry hentry hearlier hkept)
  rw [isAbsent_takeTurn, isAbsent_takeTurn] at hturn
  exact Bool.not_inj hturn

/-! ## Turns that need not be taken -/

theorem entry_takeTurn (ask : Asking) (entry : SourceEntry) (fs : FileSystem) :
    (takeTurn ask entry fs).1.entry = entry := by
  rw [takeTurn]
  split <;> rfl

/-- The turns of the kept entries are those that brought an intake. -/
theorem turns_kept (h : Steady ask entries Same) {a b : FileSystem} (hsame : Same a b) :
    turns ask (kept (turns ask entries a)) b =
      (turns ask entries a).filter fun t => t.intake?.isSome := by
  induction entries generalizing a b with
  | nil => rfl
  | cons entry entries ih =>
      rw [turns, kept]
      cases hintake : (takeTurn ask entry a).1.intake? with
      | some i =>
          -- the same turn is taken again, and leaves the same files
          have hsome : (takeTurn ask entry a).1.intake?.isSome := Option.isSome_of_eq_some hintake
          rw [List.filter_cons, if_pos hsome, List.map_cons, entry_takeTurn, turns,
            ← h.turn_eq entry List.mem_cons_self hsame]
          exact congrArg _ (ih h.of_cons (h.left entry List.mem_cons_self hsame))
      | none =>
          have hnone : ¬(takeTurn ask entry a).1.intake?.isSome := by simp [hintake]
          rw [List.filter_cons, if_neg hnone]
          exact ih h.of_cons (h.given_up entry List.mem_cons_self hsame hintake)

theorem intakes_filter (ts : List Turn) :
    intakes (ts.filter fun t => t.intake?.isSome) = intakes ts := by
  rw [intakes, List.filterMap_filter, intakes]
  congr 1
  funext t
  cases t.intake? <;> rfl

theorem fatal?_of_intake? {t : Turn} (h : t.intake?.isSome) : t.fatal? = none := by
  obtain ⟨entry, reply⟩ := t
  cases reply with
  | none => rfl
  | some answer =>
      cases answer with
      | ok i => rfl
      | error e => cases h

/-- If no file comes or goes, the absent files are those that were not there before. -/
theorem countP_isAbsent {a b : FileSystem} (hgoes : ∀ t ∈ turns ask entries b, t.fatal? = none)
    (hstays : ∀ earlier entry later, entries = earlier ++ entry :: later →
      entry.isPresent (filesAfter ask earlier b) = entry.isPresent a) :
    (turns ask entries b).countP Turn.isAbsent =
      entries.countP fun entry => !entry.isPresent a := by
  induction entries generalizing b with
  | nil => rfl
  | cons entry entries ih =>
      obtain ⟨hturn, hturns⟩ := List.forall_mem_cons.mp hgoes
      have hrest := ih hturns fun earlier e later heq => by
        have hlater := hstays (entry :: earlier) e later (by rw [heq]; rfl)
        rwa [filesAfter, hturn] at hlater
      have hpresent : entry.isPresent b = entry.isPresent a := hstays [] entry entries rfl
      rw [turns, List.countP_cons, List.countP_cons, hrest, isAbsent_takeTurn, hpresent]

end Steady

/-! ## The pass -/

section Index

variable {w : Workshop} {pass : Pass} {entries : List SourceEntry} {σ : Type} [GraphStore σ]
  {site : Site σ}

/-- If the collaborators are steady, the files without an intake need not be listed. -/
theorem keptSuffice_of_steady {version : String} {Same : FileSystem → FileSystem → Prop}
    (hprobe : (probe w pass site.files).answer = .ok version)
    (hgoes : ∀ t ∈ passTurns w pass entries site.files, t.fatal? = none)
    (hsteady : Steady (ask w pass) entries Same)
    (hsame : Same (probe w pass site.files).files (probe w pass site.files).files)
    {report : BatchReport} (hreturns : (index w pass entries site).2 = .ok report) :
    KeptSuffice w pass entries site report := by
  have hturns : passTurns w pass (kept (passTurns w pass entries site.files)) site.files =
      (passTurns w pass entries site.files).filter fun t => t.intake?.isSome :=
    turns_kept hsteady hsame
  have hkept : ∀ t ∈ passTurns w pass (kept (passTurns w pass entries site.files)) site.files,
      t.fatal? = none := by
    rw [hturns]
    exact fun t ht => fatal?_of_intake? (List.mem_filter.mp ht).2
  obtain ⟨one, hone, -, -, hprocessed⟩ := result_index hprobe hgoes
  obtain ⟨rest, hrest, -, -, hprocessed'⟩ := result_index hprobe hkept
  cases hone.symm.trans hreturns
  refine ⟨rest, hrest, ?_, ?_⟩
  · rw [hprocessed', hprocessed, hturns, intakes_filter]
  · rw [store_index, store_index, passIntakes_of_goes hprobe hkept,
      passIntakes_of_goes hprobe hgoes, hturns, intakes_filter]

/-- **Faults stay with their files**, in every pass and for every store. Files without an intake
need not be listed if the collaborators are steady. If no listed file comes or goes, the skipped
files are those that were not there when the pass began. -/
theorem index_isolates (hprobe : ∃ version, (probe w pass site.files).answer = .ok version)
    (hgoes : ∀ t ∈ passTurns w pass entries site.files, t.fatal? = none) :
    ∃ report, Isolates w pass entries site report ∧
      (∀ Same, Steady (ask w pass) entries Same →
        Same (probe w pass site.files).files (probe w pass site.files).files →
          KeptSuffice w pass entries site report) ∧
      (NoneComesOrGoes w pass entries site.files →
        report.skipped = entries.countP fun entry => !entry.isPresent site.files) := by
  obtain ⟨version, hprobe⟩ := hprobe
  obtain ⟨report, hreport, htotal, hskipped, -⟩ := result_index hprobe hgoes
  have hstore := store_index w pass entries site
  rw [passIntakes_of_goes hprobe hgoes] at hstore
  exact ⟨report, ⟨hreport, htotal, hskipped, hstore⟩,
    fun _ hsteady hsame => keptSuffice_of_steady hprobe hgoes hsteady hsame hreport,
    fun hstays => hskipped.trans (countP_isAbsent hgoes hstays)⟩

end Index

/-- Nothing ends the pass of the sample programs. -/
theorem goes_echoHost :
    let w := echoConfig.workshop echoHost "/scratch"
    (∀ t ∈ passTurns w .edges echoEntries echoFiles, t.fatal? = none) ∧
      (∃ version, (probe w .edges echoFiles).answer = .ok version) ∧
      (index w .edges echoEntries (⟨.empty, echoFiles, []⟩ : Site Ledger)).2 = .ok ⟨2, 1, 1⟩ := by
  intro w
  have hruns : (∀ t ∈ passTurns w .edges echoEntries echoFiles, t.fatal? = none) ∧
      (probe w .edges echoFiles).answer = .ok "echo 1.0" ∧
      (index w .edges echoEntries (⟨.empty, echoFiles, []⟩ : Site Ledger)).2 = .ok ⟨2, 1, 1⟩ := by
    decide +kernel
  exact ⟨hruns.1, ⟨_, hruns.2.1⟩, hruns.2.2⟩

theorem index_isolates_sample :
    (Isolates sampleWorkshop .edges sampleEntries sampleSite ⟨2, 1, 2⟩ ∧
        KeptSuffice sampleWorkshop .edges sampleEntries sampleSite ⟨2, 1, 2⟩) ∧
      let w := echoConfig.workshop echoHost "/scratch"
      let site : Site Ledger := ⟨.empty, echoFiles, []⟩
      Isolates w .edges echoEntries site ⟨2, 1, 1⟩ ∧
        KeptSuffice w .edges echoEntries site ⟨2, 1, 1⟩ ∧
        1 = echoEntries.countP fun entry => !entry.isPresent echoFiles := by
  constructor
  · have hgoes : ∀ t ∈ passTurns sampleWorkshop .edges sampleEntries sampleSite.files,
        t.fatal? = none := by decide +kernel
    have hreturns : (index sampleWorkshop .edges sampleEntries sampleSite).2 = .ok ⟨2, 1, 2⟩ := by
      rfl
    obtain ⟨report, hisolates, hsuffice, -⟩ := index_isolates ⟨"cflow 1.7", rfl⟩ hgoes
    cases hisolates.returns.symm.trans hreturns
    exact ⟨hisolates, hsuffice Eq (steady_canned rfl rfl _ _) rfl⟩
  · -- the same with programs, whose output is kept
    intro w site
    obtain ⟨hgoes, hprobe, hreturns⟩ := goes_echoHost
    have hrepeat := repeatable_echoHost .edges
    have hstart : echoFiles.Rewritten [] echoPlaces echoFiles := .refl vacant_echoPlaces []
    have hprobed := hrepeat.probe_left hstart
    have hresult : ∃ report, Isolates w .edges echoEntries site report ∧ _ :=
      index_isolates hprobe hgoes
    obtain ⟨report, hisolates, hsuffice, hskipped⟩ := hresult
    cases hisolates.returns.symm.trans hreturns
    exact ⟨hisolates, hsuffice _ hrepeat.steady ⟨hprobed, hprobed⟩,
      hskipped (hrepeat.noneComesOrGoes hstart)⟩

/-- **A file may be handled that was not there when the pass began**: the output that is kept for a
file before it. -/
theorem handled_although_absent :
    ¬∀ (w : Workshop) (version : String)
        (listing : ListingKind → String → Except CollaboratorError String)
        (entries : List SourceEntry) (site : Site Ledger) (report : BatchReport),
      w.extractor = .canned (.ok version) listing →
      (∀ kind source program cause, listing kind source ≠ .error (.missing program cause)) →
      (indexEdges w entries site).2 = .ok report →
        report.skipped = entries.countP fun entry => !entry.isPresent site.files := by
  intro h
  have hcount : (indexEdges keepingWorkshop keepingEntries
      (⟨.empty, unloggedFiles, []⟩ : Site Ledger)).2 = .ok ⟨2, 0, 0⟩ ∧
        (keepingEntries.countP fun entry => !entry.isPresent unloggedFiles) = 1 := by
    decide +kernel
  have hskipped := h keepingWorkshop "cflow 1.7" keepingListing keepingEntries
    ⟨.empty, unloggedFiles, []⟩ _ rfl keepingListing_ne_missing hcount.1
  exact absurd (hskipped.trans hcount.2) (by decide)

end CallForest.Ingest
