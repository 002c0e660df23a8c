import CallForest.Proofs.Ingest.Metrics

/-!
# The complexity pass changes metrics alone

Whatever a store holds, a complexity pass goes through the rows of the reports that it reads, in the
order of the list and of the lines of each report. A function whose name has a row gets the metrics
of the last one. No other record changes, and nothing else in the store (`MeasuresOnly`,
`index_measuresOnly`). Rows of names that are not registered are refused one by one: their files are
handled all the same, and the store is as if these rows were not there
(`performAll_registeredRows`).

Both stores are shown to take rows in this way (`Attaches`), the archive because it mirrors a ledger
that the same rows are attached to.
-/

namespace CallForest

/-- A ledger without its metrics. -/
def Ledger.withoutMetrics (l : Ledger) : Ledger :=
  { l with functions := l.functions.map fun r => { r with complexity := none } }

/-- An archive without its functions. -/
def Archive.withoutFunctions (a : Archive) : Archive :=
  { a with functions := [] }

namespace Ingest

/-- The rows that a complexity pass reads. -/
def rowsRead (w : Workshop) (entries : List SourceEntry) (files : FileSystem) :
    List Report.Measurement :=
  rowsIn (readings w .complexity entries (probe w .complexity files).files)

/-- The rows of registered names. -/
def registeredRows {σ : Type} [GraphStore σ] (store : σ) (ms : List Report.Measurement) :
    List Report.Measurement :=
  ms.filter fun m => (GraphStore.lookup? m.name store).isSome

/-- A store before and behind rows that are attached to it: `rest` is what it has beside metrics. -/
structure Attaches {σ ρ : Type} [GraphStore σ] (rest : σ → ρ) (ms : List Report.Measurement)
    (before after : σ) : Prop where
  /-- A registered function gets the metrics of the last row of its name, if it has one. -/
  lookup_eq : ∀ name, GraphStore.lookup? name after =
    (GraphStore.lookup? name before).map fun r =>
      { r with
        complexity := ((lastRow? name ms).map Report.Measurement.metrics).or r.complexity }
  /-- Rows of names that are not registered come to nothing. -/
  store_eq : after = performAll ((registeredRows before ms).map Report.Measurement.operation) before
  children_eq : ∀ n, GraphStore.children n after = GraphStore.children n before
  edgeCount_eq : GraphStore.edgeCount after = GraphStore.edgeCount before
  rest_eq : rest after = rest before

/-- What a complexity pass comes to. -/
structure MeasuresOnly {σ ρ : Type} [GraphStore σ] (rest : σ → ρ) (w : Workshop)
    (entries : List SourceEntry) (site : Site σ) : Prop where
  /-- The pass returns, and has handled every file that it has read a report on. -/
  returns : ∃ report, (indexComplexity w entries site).2 = .ok report ∧
    report.processed =
      (readings w .complexity entries (probe w .complexity site.files).files).length
  /-- A registered function gets the metrics of the last row of its name, and is otherwise what it
  was. -/
  lookup_measured : ∀ name record m, GraphStore.lookup? name site.store = some record →
    lastRow? name (rowsRead w entries site.files) = some m →
      GraphStore.lookup? name (indexComplexity w entries site).1.store =
        some { record with complexity := some m.metrics }
  /-- A name without a record gets none, and one without a row keeps its record. -/
  lookup_kept : ∀ name, GraphStore.lookup? name site.store = none ∨
      lastRow? name (rowsRead w entries site.files) = none →
    GraphStore.lookup? name (indexComplexity w entries site).1.store =
      GraphStore.lookup? name site.store
  /-- The rows that are read are attached, and nothing else happens to the store. -/
  attaches : Attaches rest (rowsRead w entries site.files) site.store
    (indexComplexity w entries site).1.store

end Ingest

open Ingest

/-! ## Rows that are attached -/

/-- A store that answers updates as the ledger that it stands for does, step by step, might have
been spared the rows of names that are not registered. -/
theorem performAll_registeredRows {σ : Type} [GraphStore σ] (StandsFor : σ → Ledger → Prop)
    (hlookup : ∀ {s l}, StandsFor s l → ∀ name, GraphStore.lookup? name s = l.function? name)
    (hupdate : ∀ {s l}, StandsFor s l → ∀ name c,
      ((StoreOperation.updateComplexity name c).perform s).1 =
          ((StoreOperation.updateComplexity name c).perform l).1 ∧
        StandsFor ((StoreOperation.updateComplexity name c).perform s).2
          ((StoreOperation.updateComplexity name c).perform l).2)
    {s : σ} {l : Ledger} (h : StandsFor s l) (ms : List Report.Measurement) :
    performAll ((registeredRows s ms).map Report.Measurement.operation) s =
      performAll (ms.map Report.Measurement.operation) s := by
  induction ms generalizing s l with
  | nil => rfl
  | cons m ms ih =>
      obtain ⟨hanswer, hnext⟩ := hupdate h m.name m.metrics
      rw [registeredRows, List.filter_cons, hlookup h, List.map_cons, performAll,
        Report.Measurement.operation]
      cases hm : l.function? m.name with
      | none =>
          -- the update is refused, so the rows behind it meet the same store
          rw [Ledger.perform_updateComplexity_of_none hm] at hanswer
          rw [perform_refused hanswer, Option.isSome_none, if_neg Bool.false_ne_true]
          exact ih h
      | some r =>
          rw [Option.isSome_some, if_pos rfl, List.map_cons, performAll, ← ih hnext]
          -- an update registers nothing, so the same rows are left
          have hsame : registeredRows
              ((StoreOperation.updateComplexity m.name m.metrics).perform s).2 ms =
                registeredRows s ms := by
            refine List.filter_congr fun k _ => ?_
            rw [hlookup hnext, hlookup h, Ledger.perform_updateComplexity,
              Ledger.function?_measure, Option.isSome_map]
          rw [hsame]
          rfl

/-- A ledger attaches rows. -/
theorem Ledger.attaches (l : Ledger) (ms : List Report.Measurement) :
    Attaches withoutMetrics ms l (performAll (ms.map Report.Measurement.operation) l) := by
  have hupdates : ∀ op ∈ ms.map Report.Measurement.operation,
      ∃ name c, op = .updateComplexity name c := by
    intro op hop
    obtain ⟨m, -, rfl⟩ := List.mem_map.mp hop
    exact ⟨m.name, m.metrics, rfl⟩
  have hafter := l.performAll_updates hupdates
  refine ⟨l.function?_performAll_rows ms, ?_, fun n => ?_, ?_, ?_⟩
  · exact (performAll_registeredRows Eq (fun hsl _ => hsl ▸ rfl)
      (fun hsl _ _ => hsl ▸ ⟨rfl, rfl⟩) rfl ms).symm
  · rw [hafter]
    rfl
  · rw [hafter]
    rfl
  · rw [hafter, withoutMetrics, List.map_map]
    rfl

namespace Archive

/-- Attached rows change functions alone. -/
theorem withoutFunctions_performAll_rows (a : Archive) (ms : List Report.Measurement) :
    (performAll (ms.map Report.Measurement.operation) a).withoutFunctions =
      a.withoutFunctions := by
  induction ms generalizing a with
  | nil => rfl
  | cons m ms ih =>
      have hstep : (m.operation.perform a).2.withoutFunctions = a.withoutFunctions := by
        show (StoreAnswer.settle a (a.updateComplexity m.name m.metrics)).2.withoutFunctions = _
        unfold updateComplexity
        split <;> rfl
      rw [List.map_cons, performAll, ih, hstep]

/-- An archive attaches rows as the ledger does that it mirrors. -/
theorem attaches {ops : List StoreOperation} {ms : List Report.Measurement}
    (hfits : Fits (ops ++ ms.map Report.Measurement.operation)) :
    Attaches withoutFunctions ms (performAll ops empty)
      (performAll (ms.map Report.Measurement.operation) (performAll ops empty)) := by
  have hmirrors := hfits.of_append.mirrors
  have hrest := (performAll ops empty).withoutFunctions_performAll_rows ms
  have hedges := congrArg edges hrest
  refine ⟨fun name => ?_, ?_, fun n => ?_, congrArg List.length hedges, hrest⟩
  · have hafter := hfits.mirrors.function?_eq name
    rw [performAll_append, performAll_append, Ledger.function?_performAll_rows,
      ← hmirrors.function?_eq] at hafter
    exact hafter
  · exact (performAll_registeredRows Mirrors (fun h => h.function?_eq)
      (fun h name c => h.updateComplexity name c) hmirrors ms).symm
  · exact congrArg (fun es => (⟨[], [], es, 0⟩ : Archive).children n) hedges

end Archive

namespace Ingest

section Index

variable {w : Workshop} {entries : List SourceEntry} {files : FileSystem}

/-- No report makes its file fail. -/
theorem finished_complexity {σ : Type} [GraphStore σ] (w : Workshop) (entries : List SourceEntry)
    (fs : FileSystem) (store : σ) :
    Intake.finished (intakes (turns (ask w .complexity) entries fs)) store =
      (readings w .complexity entries fs).length := by
  have hintakes := intakes_turns w .complexity entries fs
  rw [show DumpKind.complexity.pass = Pass.complexity from rfl] at hintakes
  rw [hintakes]
  generalize readings w .complexity entries fs = rs
  induction rs generalizing store with
  | nil => rfl
  | cons r rs ih =>
      rw [List.map_cons, Intake.finished, ih, List.length_cons, Nat.add_comm]
      rfl

/-- It is enough that the rows are attached. -/
theorem MeasuresOnly.of_attaches {σ ρ : Type} [GraphStore σ] {rest : σ → ρ} {site : Site σ}
    (hprobe : ∃ version, (probe w .complexity site.files).answer = .ok version)
    (hgoes : ∀ t ∈ passTurns w .complexity entries site.files, t.fatal? = none)
    (h : Attaches rest (rowsRead w entries site.files) site.store
      (indexComplexity w entries site).1.store) : MeasuresOnly rest w entries site where
  returns := by
    obtain ⟨version, hversion⟩ := hprobe
    obtain ⟨report, hreport, -, -, hprocessed⟩ := result_index hversion hgoes
    exact ⟨report, hreport, hprocessed.trans (finished_complexity w entries _ site.store)⟩
  lookup_measured name record m hrecord hlast := by
    rw [h.lookup_eq, hrecord, hlast]
    rfl
  lookup_kept name hkept := by
    rw [h.lookup_eq]
    obtain hnone | hnone := hkept
    · rw [hnone, Option.map_none]
    · rw [hnone]
      exact Option.map_id'
  attaches := h

/-- The store of a complexity pass that nothing ends. -/
theorem store_indexComplexity {σ : Type} [GraphStore σ] (hkeeps : KeepsNames σ)
    (hprobe : ∃ version, (probe w .complexity files).answer = .ok version)
    (hgoes : ∀ t ∈ passTurns w .complexity entries files, t.fatal? = none) (store : σ)
    (log : List Event) :
    (indexComplexity w entries (⟨store, files, log⟩ : Site σ)).1.store =
      performAll ((rowsRead w entries files).map Report.Measurement.operation) store := by
  have hattached := store_index_eq_performAll w .complexity entries (⟨store, files, log⟩ : Site σ)
  rwa [passOperations_complexity hkeeps hprobe hgoes rfl] at hattached

/-- **The complexity pass changes metrics alone**, in every ledger, and in every archive that what
is attached fits into. -/
theorem index_measuresOnly
    (hprobe : ∃ version, (probe w .complexity files).answer = .ok version)
    (hgoes : ∀ t ∈ passTurns w .complexity entries files, t.fatal? = none) (log : List Event) :
    (∀ l : Ledger, MeasuresOnly Ledger.withoutMetrics w entries ⟨l, files, log⟩) ∧
      ∀ ops, let site : Site Archive := ⟨performAll ops .empty, files, log⟩
        Archive.Fits (ops ++ passOperations w .complexity entries site) →
          MeasuresOnly Archive.withoutFunctions w entries site := by
  constructor
  · intro l
    refine .of_attaches hprobe hgoes ?_
    rw [store_indexComplexity Ledger.keepsNames hprobe hgoes]
    exact l.attaches _
  · intro ops site hfits
    rw [passOperations_complexity Archive.keepsNames hprobe hgoes rfl] at hfits
    refine .of_attaches hprobe hgoes ?_
    rw [store_indexComplexity Archive.keepsNames hprobe hgoes]
    exact Archive.attaches hfits

end Index

/-- Of the functions of the two files only this one is registered. -/
def helpRecord : FunctionRecord :=
  ⟨"/src/a.c", "a.c", "help", 4, "static void help (void)", none⟩

def helpSite : Site Archive :=
  ⟨performAll [.registerFunction helpRecord] .empty, sampleFiles, []⟩

theorem index_measuresOnly_help :
    (∀ t ∈ passTurns namesakeWorkshop .complexity namesakeEntries sampleFiles, t.fatal? = none) ∧
      Archive.Fits ([.registerFunction helpRecord] ++
        passOperations namesakeWorkshop .complexity namesakeEntries helpSite) ∧
      MeasuresOnly Archive.withoutFunctions namesakeWorkshop namesakeEntries helpSite ∧
      let store := (indexComplexity namesakeWorkshop namesakeEntries helpSite).1.store
      GraphStore.lookup? "help" store = some { helpRecord with complexity := some ⟨5, 7⟩ } ∧
        GraphStore.lookup? "main" store = none := by
  obtain ⟨hgoes, hfits⟩ :
      (∀ t ∈ passTurns namesakeWorkshop .complexity namesakeEntries sampleFiles,
        t.fatal? = none) ∧
      Archive.Fits ([.registerFunction helpRecord] ++
        passOperations namesakeWorkshop .complexity namesakeEntries helpSite) := by
    decide +kernel
  have honly : MeasuresOnly Archive.withoutFunctions namesakeWorkshop namesakeEntries helpSite :=
    (index_measuresOnly ⟨"lizard 1.17", rfl⟩ hgoes []).2 _ hfits
  refine ⟨hgoes, hfits, honly, ?_, ?_⟩
  · exact honly.lookup_measured "help" helpRecord ⟨"help", ⟨5, 7⟩⟩ (by decide +kernel)
      (by decide +kernel)
  · exact honly.lookup_kept "main" (.inl (by decide +kernel))

end Ingest

end CallForest
