import CallForest.Proofs.Ingest.Sharing
import CallForest.Proofs.Ingest.Turns
import Mathlib.Data.List.TakeWhile

/-!
# Passes enter what their turns bring

A pass enters the intakes of its turns one after another: those of all turns before the first at
which the collaborator is missing (`store_index`). If there is no such turn, the pass returns and
reports on all its turns (`result_runPass`).

Every handler follows what asks for its files (`follows_handler`), and the step lemmas for one turn
are `runPass_cons` and `runPass_cons_of_fatal`. For the calls of a file they speak of a rebuilder of
its own, which is as good as the shared one (`indexEdges_eq`). So a pass returns if and only if no
turn ends it (`result_index`, `goes_of_returns`).
-/

namespace CallForest

namespace Ingest

section Probed

variable {σ : Type} {pass : Pass} {site : Site σ}

theorem probed_of_ok {probe : FileSystem → Reply String} {version : String}
    (h : (probe site.files).answer = .ok version)
    (handle : SourceEntry → Site σ → Site σ × Except IngestError Unit)
    (entries : List SourceEntry) :
    probed pass probe handle entries site = runPass pass handle .zero entries
      ((site.hear (probe site.files)).note [.passStarted pass entries.length version]) := by
  rw [probed, h]

theorem probed_of_error {probe : FileSystem → Reply String} {e : CollaboratorError}
    (h : (probe site.files).answer = .error e)
    (handle : SourceEntry → Site σ → Site σ × Except IngestError Unit)
    (entries : List SourceEntry) :
    probed pass probe handle entries site = (site.hear (probe site.files), .error e) := by
  rw [probed, h]

end Probed

variable {σ : Type} [GraphStore σ]

/-- How a pass handles a file, the calls with a rebuilder of its own. -/
def handler (w : Workshop) : Pass → SourceEntry → Site σ → Site σ × Except IngestError Unit
  | .files => fileRecord
  | .functions => functionsIn w
  | .edges => edgesAfresh w
  | .complexity => complexityIn w

/-- Runs a pass. -/
def index (w : Workshop) : Pass → List SourceEntry → Site σ →
    Site σ × Except CollaboratorError BatchReport
  | .files => indexFiles
  | .functions => indexFunctions w
  | .edges => indexEdges w
  | .complexity => indexComplexity w

/-- What comes of a reply for the store. -/
def settle (store : σ) : Except IngestError Intake → σ × Except IngestError Unit
  | .error e => (store, .error e)
  | .ok i => (i.enter store, i.verdict store)

/-- A handler asks, and enters what comes of it. -/
def Follows (ask : Asking) (handle : SourceEntry → Site σ → Site σ × Except IngestError Unit) :
    Prop :=
  ∀ entry site, (handle entry site).1.files = (ask entry site.files).1 ∧
    ((handle entry site).1.store, (handle entry site).2) =
      settle site.store (ask entry site.files).2

/-! ## One file -/

theorem follows_fileRecord : Follows askFile (@fileRecord σ _) := by
  intro entry site
  unfold fileRecord askFile
  cases site.files.read entry.fullPath with
  | error e => exact ⟨rfl, rfl⟩
  | ok content =>
      simp only [settle, Intake.enter, Intake.operations, performAll, StoreOperation.perform]
      split
      · next store hstore =>
        rw [hstore]
        exact ⟨rfl, rfl⟩
      · next e he =>
        rw [he]
        exact ⟨rfl, rfl⟩

theorem registerAll_eq (entry : SourceEntry) (ds : List Xref.Definition) (n : Nat)
    (site : Site σ) :
    (registerAll entry ds n site).1.files = site.files ∧
      (registerAll entry ds n site).1.store =
        performAll ((ds.map (recordOf entry)).map .registerFunction) site.store := by
  induction ds generalizing n site with
  | nil => exact ⟨rfl, rfl⟩
  | cons d ds ih =>
      rw [List.map_cons, List.map_cons, performAll, registerAll]
      simp only [StoreOperation.perform]
      cases GraphStore.registerFunction (recordOf entry d) site.store with
      | ok store => exact ih _ _
      | error e => exact ih _ _

theorem attachAll_eq (entry : SourceEntry) (ms : List Report.Measurement) (site : Site σ) :
    (attachAll entry ms site).files = site.files ∧
      (attachAll entry ms site).store =
        performAll (ms.map fun m => .updateComplexity m.name m.metrics) site.store := by
  induction ms generalizing site with
  | nil => exact ⟨rfl, rfl⟩
  | cons m ms ih =>
      rw [List.map_cons, performAll, attachAll]
      simp only [StoreOperation.perform]
      cases GraphStore.updateComplexity m.name m.metrics site.store with
      | ok store => exact ih _
      | error e => exact ih _

theorem follows_functionsIn (w : Workshop) : Follows (ask w .functions) (@functionsIn σ _ w) := by
  intro entry site
  rw [functionsIn, ask]
  generalize w.extractor.listing .crossReference entry.fullPath site.files = reply
  obtain ⟨files, events, answer⟩ := reply
  cases answer with
  | error e => exact ⟨rfl, rfl⟩
  | ok listing =>
      simp only [readReply, settle, registerAll_eq, Site.store_note, Site.files_note,
        Site.store_dump, Site.files_dump, Site.store_hear, Site.files_hear, true_and]
      rfl

theorem follows_edgesAfresh (w : Workshop) :
    Follows (ask w .edges) (@edgesAfresh σ _ w) := by
  intro entry site
  simp only [edgesAfresh, Prod.map_fst, Prod.map_snd, id, Site.files_map, Site.store_map]
  rw [edgesIn, ask, Site.files_map]
  generalize w.extractor.listing .callTree entry.fullPath site.files = reply
  obtain ⟨files, events, answer⟩ := reply
  cases answer with
  | error e => exact ⟨rfl, rfl⟩
  | ok listing =>
      simp only [readReply, settle, Intake.enter_calls, Intake.verdict, Intake.failure,
        Rebuilder.outcome_read, Site.store_dump, Site.store_hear, Site.store_map,
        Rebuilder.store_new, rebuild]
      cases (reconstruct (resolveNode site.store) w.skip listing).failure with
      | none =>
          simp only [Site.files_note, Site.files_dump, Site.files_hear, true_and]
          rfl
      | some e =>
          simp only [Site.files_note, Site.files_dump, Site.files_hear, true_and]
          rfl

theorem follows_complexityIn (w : Workshop) :
    Follows (ask w .complexity) (@complexityIn σ _ w) := by
  intro entry site
  rw [complexityIn, ask]
  generalize w.analyzer.report entry.fullPath site.files = reply
  obtain ⟨files, events, answer⟩ := reply
  cases answer with
  | error e => exact ⟨rfl, rfl⟩
  | ok report =>
      simp only [readReply, settle, attachAll_eq, Site.store_note, Site.files_note,
        Site.store_dump, Site.files_dump, Site.store_hear, Site.files_hear, true_and]
      rfl

/-- Every pass asks, and enters what comes of it. -/
theorem follows_handler (w : Workshop) (pass : Pass) :
    Follows (ask w pass) (@handler σ _ w pass) := by
  cases pass with
  | files => exact follows_fileRecord
  | functions => exact follows_functionsIn w
  | edges => exact follows_edgesAfresh w
  | complexity => exact follows_complexityIn w

/-! ## One turn

The handler meets the site with one more event in its log. What it does to the store and to the
files does not depend on the log, so the lemmas speak of the site before. -/

section Run

variable {ask : Asking} {handle : SourceEntry → Site σ → Site σ × Except IngestError Unit}

/-- A turn that ends the pass enters nothing, and is the last. -/
theorem runPass_cons_of_fatal (h : Follows ask handle) (pass : Pass) (report : BatchReport)
    {entry : SourceEntry} (entries : List SourceEntry) {site : Site σ} {e : CollaboratorError}
    (hfatal : (takeTurn ask entry site.files).1.fatal? = some e) :
    (runPass pass handle report (entry :: entries) site).1.store = site.store ∧
      (runPass pass handle report (entry :: entries) site).1.files =
          (takeTurn ask entry site.files).2 ∧
        (runPass pass handle report (entry :: entries) site).2 = .error e := by
  rw [takeTurn] at hfatal ⊢
  rw [runPass]
  split at hfatal
  · next hpresent =>
    obtain ⟨hfiles, hsettled⟩ := h entry (site.note [.processing pass entry.shortPath])
    rw [if_pos hpresent, if_pos hpresent]
    rw [Site.files_note] at hfiles
    rw [Site.files_note, Site.store_note] at hsettled
    unfold Turn.fatal? at hfatal
    split at hfatal
    · next program cause hreply =>
      cases hfatal
      rw [Option.some.inj hreply, settle, Prod.mk.injEq] at hsettled
      generalize handle entry (site.note [.processing pass entry.shortPath]) = x
        at hfiles hsettled
      obtain ⟨next, result⟩ := x
      obtain ⟨hstore, rfl⟩ := hsettled
      exact ⟨hstore, hfiles, rfl⟩
    · cases hfatal
  · cases hfatal

/-- Any other turn is counted, and the pass goes on with its intake entered. -/
theorem runPass_cons (h : Follows ask handle) (pass : Pass) (report : BatchReport)
    {entry : SourceEntry} (entries : List SourceEntry) {site : Site σ}
    (hgoes : (takeTurn ask entry site.files).1.fatal? = none) :
    ∃ next : Site σ,
      runPass pass handle report (entry :: entries) site =
          runPass pass handle ((takeTurn ask entry site.files).1.count site.store report) entries
            next ∧
        next.store = Intake.takeIn (takeTurn ask entry site.files).1.intake?.toList site.store ∧
          next.files = (takeTurn ask entry site.files).2 := by
  rw [takeTurn] at hgoes ⊢
  rw [runPass]
  split at hgoes
  · next hpresent =>
    obtain ⟨hfiles, hsettled⟩ := h entry (site.note [.processing pass entry.shortPath])
    rw [if_pos hpresent, if_pos hpresent]
    rw [Site.files_note] at hfiles
    rw [Site.files_note, Site.store_note] at hsettled
    generalize handle entry (site.note [.processing pass entry.shortPath]) = x at hfiles hsettled
    obtain ⟨next, result⟩ := x
    generalize (ask entry site.files).2 = reply at hgoes hsettled
    cases reply with
    | ok i =>
        rw [settle, Prod.mk.injEq, Intake.verdict] at hsettled
        obtain ⟨hstore, hresult⟩ := hsettled
        simp only [Turn.count]
        cases hfailure : i.failure (resolveNode site.store) with
        | none =>
            rw [hfailure] at hresult
            subst hresult
            exact ⟨next, rfl, hstore, hfiles⟩
        | some e =>
            rw [hfailure] at hresult
            subst hresult
            exact ⟨_, rfl, hstore, hfiles⟩
    | error e =>
        -- of all errors only a missing collaborator is not counted
        obtain ⟨hstore, hresult⟩ := Prod.mk.inj hsettled
        subst hresult
        cases e with
        | collaborator e =>
            cases e with
            | missing program cause => cases hgoes
            | failed _ _ _ _ | timedOut _ _ _ | io _ _ _ => exact ⟨_, rfl, hstore, hfiles⟩
        | reconstruct e => exact ⟨_, rfl, hstore, hfiles⟩
        | io path cause => exact ⟨_, rfl, hstore, hfiles⟩
  · next habsent =>
    rw [if_neg habsent, if_neg habsent]
    exact ⟨_, rfl, rfl, rfl⟩

/-! ## A run of turns -/

/-- A pass enters the intakes of its turns one after another, up to the turn that ends it. -/
theorem store_runPass (h : Follows ask handle) (pass : Pass) (report : BatchReport)
    (entries : List SourceEntry) (site : Site σ) :
    (runPass pass handle report entries site).1.store =
      Intake.takeIn (intakes (turnsBeforeEnd (turns ask entries site.files))) site.store := by
  induction entries generalizing report site with
  | nil => rfl
  | cons entry entries ih =>
      rw [turns, turnsBeforeEnd, List.takeWhile_cons]
      cases hfatal : (takeTurn ask entry site.files).1.fatal? with
      | some e => exact (runPass_cons_of_fatal h pass report entries hfatal).1
      | none =>
          obtain ⟨next, heq, hstore, hfiles⟩ := runPass_cons h pass report entries hfatal
          rw [heq, ih, hstore, hfiles, Option.isNone_none, if_pos rfl, intakes_cons,
            Intake.takeIn_append]
          rfl

/-- A pass leaves the files that its turns leave, up to the turn that ends it. -/
theorem files_runPass (h : Follows ask handle) (pass : Pass) (report : BatchReport)
    (entries : List SourceEntry) (site : Site σ) :
    (runPass pass handle report entries site).1.files = filesAfter ask entries site.files := by
  induction entries generalizing report site with
  | nil => rfl
  | cons entry entries ih =>
      rw [filesAfter]
      cases hfatal : (takeTurn ask entry site.files).1.fatal? with
      | some e => exact (runPass_cons_of_fatal h pass report entries hfatal).2.1
      | none =>
          obtain ⟨next, heq, -, hfiles⟩ := runPass_cons h pass report entries hfatal
          rw [heq, ih, hfiles]

/-- The first turn that ends the pass gives it its error. -/
theorem error_runPass (h : Follows ask handle) (pass : Pass) (report : BatchReport)
    {entries : List SourceEntry} {site : Site σ} {e : CollaboratorError}
    (hfatal : (turns ask entries site.files).findSome? Turn.fatal? = some e) :
    (runPass pass handle report entries site).2 = .error e := by
  induction entries generalizing report site with
  | nil => cases hfatal
  | cons entry entries ih =>
      rw [turns, List.findSome?_cons] at hfatal
      cases hturn : (takeTurn ask entry site.files).1.fatal? with
      | some e' =>
          rw [hturn] at hfatal
          cases hfatal
          exact (runPass_cons_of_fatal h pass report entries hturn).2.2
      | none =>
          obtain ⟨next, heq, -, hfiles⟩ := runPass_cons h pass report entries hturn
          rw [hturn, ← hfiles] at hfatal
          rw [heq]
          exact ih _ hfatal

/-- A pass that no turn ends returns a report: every turn is counted, those of files that were not
there as skipped, and those of handled files as processed. -/
theorem result_runPass (h : Follows ask handle) (pass : Pass) (report : BatchReport)
    {entries : List SourceEntry} {site : Site σ}
    (hgoes : ∀ t ∈ turns ask entries site.files, t.fatal? = none) :
    ∃ final, (runPass pass handle report entries site).2 = .ok final ∧
      final.total = report.total + entries.length ∧
        final.skipped =
            report.skipped + (turns ask entries site.files).countP Turn.isAbsent ∧
          final.processed = report.processed +
            Intake.finished (intakes (turns ask entries site.files)) site.store := by
  induction entries generalizing report site with
  | nil => exact ⟨report, rfl, rfl, rfl, rfl⟩
  | cons entry entries ih =>
      obtain ⟨hturn, hturns⟩ := List.forall_mem_cons.mp hgoes
      obtain ⟨next, heq, hstore, hfiles⟩ := runPass_cons h pass report entries hturn
      rw [← hfiles] at hturns
      obtain ⟨final, hfinal, htotal, hskipped, hprocessed⟩ := ih _ hturns
      rw [hfiles] at hskipped hprocessed
      rw [hstore] at hprocessed
      refine ⟨final, heq ▸ hfinal, ?_, ?_, ?_⟩
      · rw [htotal, Turn.total_count, List.length_cons]
        omega
      · rw [hskipped, Turn.skipped_count, turns, List.countP_cons]
        omega
      · rw [hprocessed, Turn.processed_count, turns, intakes_cons, Intake.finished_append]
        omega

end Run

/-! ## A whole pass -/

section Index

variable {w : Workshop} {pass : Pass} {site : Site σ}

/-- If the collaborator can be run, the pass runs on what the probe leaves. -/
theorem index_of_probe_ok {version : String}
    (hprobe : (probe w pass site.files).answer = .ok version) (entries : List SourceEntry) :
    ∃ start : Site σ,
      index w pass entries site = runPass pass (handler w pass) .zero entries start ∧
        start.store = site.store ∧ start.files = (probe w pass site.files).files := by
  cases pass with
  | files => exact ⟨_, rfl, rfl, rfl⟩
  | functions => exact ⟨_, probed_of_ok hprobe (functionsIn w) entries, rfl, rfl⟩
  | edges =>
      exact ⟨_, (indexEdges_eq w entries site).trans
        (probed_of_ok hprobe (edgesAfresh w) entries), rfl, rfl⟩
  | complexity => exact ⟨_, probed_of_ok hprobe (complexityIn w) entries, rfl, rfl⟩

/-- If the collaborator cannot be run, the pass ends with the error of the probe. -/
theorem index_of_probe_error {e : CollaboratorError}
    (hprobe : (probe w pass site.files).answer = .error e) (entries : List SourceEntry) :
    index w pass entries site = (site.hear (probe w pass site.files), .error e) := by
  cases pass with
  | files => cases hprobe
  | functions => exact probed_of_error hprobe (functionsIn w) entries
  | edges =>
      exact (indexEdges_eq w entries site).trans (probed_of_error hprobe (edgesAfresh w) entries)
  | complexity => exact probed_of_error hprobe (complexityIn w) entries

/-- Every intake of a pass came of asking for a listed file when it was its turn. -/
theorem exists_turn_of_mem_passIntakes {entries : List SourceEntry} {fs : FileSystem} {i : Intake}
    (h : i ∈ passIntakes w pass entries fs) :
    ∃ earlier entry later, entries = earlier ++ entry :: later ∧
      (ask w pass entry (filesAfter (ask w pass) earlier (probe w pass fs).files)).2 = .ok i := by
  unfold passIntakes at h
  split at h
  · cases h
  · exact exists_turn_of_mem_intakes h

/-- What a pass leaves in the store, whether it returns or not. -/
theorem store_index (w : Workshop) (pass : Pass) (entries : List SourceEntry) (site : Site σ) :
    (index w pass entries site).1.store =
      Intake.takeIn (passIntakes w pass entries site.files) site.store := by
  unfold passIntakes
  cases hprobe : (probe w pass site.files).answer with
  | error e =>
      rw [index_of_probe_error hprobe]
      rfl
  | ok version =>
      obtain ⟨start, hindex, hstore, hfiles⟩ := index_of_probe_ok hprobe entries
      rw [hindex, store_runPass (follows_handler w pass), hstore, hfiles]
      rfl

/-- What a pass leaves of the files, if its collaborator can be run. -/
theorem files_index {version : String} (hprobe : (probe w pass site.files).answer = .ok version)
    (entries : List SourceEntry) :
    (index w pass entries site).1.files =
      filesAfter (ask w pass) entries (probe w pass site.files).files := by
  obtain ⟨start, hindex, -, hfiles⟩ := index_of_probe_ok hprobe entries
  rw [hindex, files_runPass (follows_handler w pass), hfiles]

/-- The error of a pass whose collaborator is missing at a turn. -/
theorem error_index {version : String} {e : CollaboratorError}
    (hprobe : (probe w pass site.files).answer = .ok version) {entries : List SourceEntry}
    (hfatal : (passTurns w pass entries site.files).findSome? Turn.fatal? = some e) :
    (index w pass entries site).2 = .error e := by
  obtain ⟨start, hindex, -, hfiles⟩ := index_of_probe_ok hprobe entries
  rw [passTurns, ← hfiles] at hfatal
  rw [hindex]
  exact error_runPass (follows_handler w pass) pass .zero hfatal

/-- The operations that a pass performs on the store. -/
def passOperations (w : Workshop) (pass : Pass) (entries : List SourceEntry) (site : Site σ) :
    List StoreOperation :=
  Intake.operationsOf (passIntakes w pass entries site.files) site.store

theorem store_index_eq_performAll (w : Workshop) (pass : Pass) (entries : List SourceEntry)
    (site : Site σ) :
    (index w pass entries site).1.store =
      performAll (passOperations w pass entries site) site.store :=
  (store_index w pass entries site).trans (Intake.takeIn_eq_performAll _ _)

/-- The headers are gone through by the function pass and, if that returns, by the complexity
pass. -/
theorem indexHeaders_fst (w : Workshop) (headers : List SourceEntry) (site : Site σ) :
    (indexHeaders w headers site).1 =
      let functions := index w .functions headers (site.note [.headersStarted headers.length])
      match functions.2 with
      | .error _ => functions.1
      | .ok _ => (index w .complexity headers functions.1).1 := by
  unfold indexHeaders
  simp only [index]
  split
  · next h => rw [h]
  · next h =>
    rw [h]
    split
    · next h' => exact congrArg Prod.fst h'.symm
    · next h' => exact congrArg Prod.fst h'.symm

/-! ## Passes that nothing ends -/

variable {entries : List SourceEntry}

theorem turnsBeforeEnd_of_goes {ts : List Turn} (h : ∀ t ∈ ts, t.fatal? = none) :
    turnsBeforeEnd ts = ts :=
  List.takeWhile_eq_self_iff.mpr fun t ht => by rw [h t ht, Option.isNone_none]

theorem passIntakes_of_goes {fs : FileSystem} {version : String}
    (hprobe : (probe w pass fs).answer = .ok version)
    (hgoes : ∀ t ∈ passTurns w pass entries fs, t.fatal? = none) :
    passIntakes w pass entries fs = intakes (passTurns w pass entries fs) := by
  simp only [passIntakes, hprobe, turnsBeforeEnd_of_goes hgoes]

/-- The report of a pass that nothing ends. -/
theorem result_index {version : String}
    (hprobe : (probe w pass site.files).answer = .ok version)
    (hgoes : ∀ t ∈ passTurns w pass entries site.files, t.fatal? = none) :
    ∃ report, (index w pass entries site).2 = .ok report ∧ report.total = entries.length ∧
      report.skipped = (passTurns w pass entries site.files).countP Turn.isAbsent ∧
        report.processed =
          Intake.finished (intakes (passTurns w pass entries site.files)) site.store := by
  obtain ⟨start, hindex, hstore, hfiles⟩ := index_of_probe_ok hprobe entries
  rw [passTurns, ← hfiles] at hgoes
  obtain ⟨report, hreport, htotal, hskipped, hprocessed⟩ :=
    result_runPass (follows_handler w pass) pass .zero hgoes
  rw [hfiles] at hskipped hprocessed
  rw [hstore] at hprocessed
  refine ⟨report, hindex ▸ hreport, ?_, ?_, ?_⟩
  · exact htotal.trans (Nat.zero_add _)
  · exact hskipped.trans (Nat.zero_add _)
  · exact hprocessed.trans (Nat.zero_add _)

/-- A pass that nothing ends returns. -/
theorem returns_index {version : String} (site : Site σ)
    (hprobe : (probe w pass site.files).answer = .ok version)
    (hgoes : ∀ t ∈ passTurns w pass entries site.files, t.fatal? = none) :
    ∃ report, (index w pass entries site).2 = .ok report :=
  have ⟨report, hreport, _⟩ := result_index hprobe hgoes
  ⟨report, hreport⟩

/-- If it returns, nothing has ended it. -/
theorem goes_of_returns {report : BatchReport} (h : (index w pass entries site).2 = .ok report) :
    (∃ version, (probe w pass site.files).answer = .ok version) ∧
      ∀ t ∈ passTurns w pass entries site.files, t.fatal? = none := by
  cases hprobe : (probe w pass site.files).answer with
  | error e =>
      rw [index_of_probe_error hprobe] at h
      cases h
  | ok version =>
      refine ⟨⟨version, rfl⟩, List.findSome?_eq_none_iff.mp ?_⟩
      cases hfatal : (passTurns w pass entries site.files).findSome? Turn.fatal? with
      | none => rfl
      | some e =>
          rw [error_index hprobe hfatal] at h
          cases h

end Index

end Ingest

end CallForest
