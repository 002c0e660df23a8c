import CallForest.Proofs.Ingest.Definitions

/-!
# Which metrics a record gets

The function pass gives a name the record of its first definition. The complexity pass behind it
knows functions by their names alone: every row of every report is attached to the record of its
name, whatever file the report is on. So the metrics of a record are those of the last row of its
name, in the order of the list and of the lines of each report, and nothing else about the record
changes (`MeasuresLast`, `index_measuresLast`).

If no other report has a row of the name, the metrics are from the report on the record's own file.
If another has one, they need not be (`metrics_of_another_file`).
-/

namespace CallForest

/-- The row as an operation on a store. -/
def Report.Measurement.operation (m : Report.Measurement) : StoreOperation :=
  .updateComplexity m.name m.metrics

namespace Ingest

/-- The rows of reports, in the order of the reports and their lines. -/
def rowsIn (rs : List Reading) : List Report.Measurement :=
  rs.flatMap fun r => Report.measurements r.text

/-- The last row of a name. -/
def lastRow? (name : String) (ms : List Report.Measurement) : Option Report.Measurement :=
  (ms.filter fun m => m.name = name).getLast?

/-- The files that the function pass leaves. -/
def filesBehindFunctions (w : Workshop) (entries : List SourceEntry) (files : FileSystem) :
    FileSystem :=
  filesAfter (ask w .functions) entries (probe w .functions files).files

/-- The reports that the complexity pass reads behind the function pass. -/
def reportsBehindFunctions (w : Workshop) (entries : List SourceEntry) (files : FileSystem) :
    List Reading :=
  readings w .complexity entries
    (probe w .complexity (filesBehindFunctions w entries files)).files

/-- The site behind the function pass, which began with an empty store. -/
def registeredSite (σ : Type) [GraphStore σ] (w : Workshop) (entries : List SourceEntry)
    (files : FileSystem) (log : List Event) : Site σ :=
  (indexFunctions w entries ⟨GraphStore.empty, files, log⟩).1

/-- What the function pass and the complexity pass behind it come to, on an empty store. -/
structure MeasuresLast (σ : Type) [GraphStore σ] (w : Workshop) (entries : List SourceEntry)
    (files : FileSystem) (log : List Event) : Prop where
  registers : ∃ report,
    (indexFunctions w entries (⟨GraphStore.empty, files, log⟩ : Site σ)).2 = .ok report
  measures : ∃ report,
    (indexComplexity w entries (registeredSite σ w entries files log)).2 = .ok report
  /-- A record gets the metrics of the last row of its name, and is otherwise what it was. -/
  lookup_eq : ∀ name,
    GraphStore.lookup? name
        (indexComplexity w entries (registeredSite σ w entries files log)).1.store =
      (GraphStore.lookup? name (registeredSite σ w entries files log).store).map fun record =>
        { record with
          complexity :=
            (lastRow? name (rowsIn (reportsBehindFunctions w entries files))).map
              Report.Measurement.metrics }
  /-- They are from the report on the record's own file if no other report has a row of the name. -/
  own_row : ∀ name record c,
    GraphStore.lookup? name
        (indexComplexity w entries (registeredSite σ w entries files log)).1.store = some record →
    record.complexity = some c →
    (∀ r ∈ reportsBehindFunctions w entries files, r.entry.fullPath ≠ record.fullPath →
      ∀ m ∈ Report.measurements r.text, m.name ≠ name) →
    ∃ r ∈ reportsBehindFunctions w entries files, r.entry.fullPath = record.fullPath ∧
      ⟨name, c⟩ ∈ Report.measurements r.text

/-! ## The last row of a name -/

theorem lastMetrics?_rows (name : String) (ms : List Report.Measurement) :
    lastMetrics? name (ms.map Report.Measurement.operation) =
      (lastRow? name ms).map Report.Measurement.metrics := by
  have hmetrics : (ms.map Report.Measurement.operation).filterMap (StoreOperation.metrics? name) =
      (ms.filter fun m => m.name = name).map Report.Measurement.metrics := by
    induction ms with
    | nil => rfl
    | cons m ms ih =>
        rw [List.map_cons, List.filterMap_cons, ih]
        by_cases hname : m.name = name <;>
          simp [Report.Measurement.operation, StoreOperation.metrics?, hname]
  rw [lastMetrics?, hmetrics, List.getLast?_map, lastRow?]

/-- The last row of a name is a row of that name in one of the reports. -/
theorem exists_report_of_lastRow? {name : String} {rs : List Reading} {m : Report.Measurement}
    (h : lastRow? name (rowsIn rs) = some m) :
    m.name = name ∧ ∃ r ∈ rs, m ∈ Report.measurements r.text := by
  have hmem := List.mem_of_getLast? h
  rw [List.mem_filter, rowsIn, List.mem_flatMap] at hmem
  obtain ⟨hreport, hname⟩ := hmem
  exact ⟨of_decide_eq_true hname, hreport⟩

end Ingest

namespace Ledger

/-- Rows that are attached give a record the metrics of the last row of its name, if it has one. -/
theorem function?_performAll_rows (l : Ledger) (ms : List Report.Measurement) (name : String) :
    (performAll (ms.map Report.Measurement.operation) l).function? name =
      (l.function? name).map fun r =>
        { r with
          complexity :=
            ((Ingest.lastRow? name ms).map Report.Measurement.metrics).or r.complexity } := by
  cases hfound : l.function? name with
  | none =>
      refine function?_performAll_of_none hfound fun s hs => ?_
      obtain ⟨m, -, hm⟩ := List.mem_map.mp hs
      cases hm
  | some r =>
      rw [function?_performAll_of_some hfound, Option.map_some, FunctionRecord.after,
        name_of_function? hfound, Ingest.lastMetrics?_rows]

/-- Functions are registered without metrics, and rows are attached to them: a record has the
metrics of the last row of its name. -/
theorem function?_measured {rs : List FunctionRecord} (hbare : ∀ r ∈ rs, r.complexity = none)
    (ms : List Report.Measurement) (name : String) :
    let registered := performAll (rs.map .registerFunction) empty
    (performAll (ms.map Report.Measurement.operation) registered).function? name =
      (registered.function? name).map fun r =>
        { r with complexity := (Ingest.lastRow? name ms).map Report.Measurement.metrics } := by
  intro registered
  rw [function?_performAll_rows]
  refine Option.map_congr fun r hfound => ?_
  have hnone : r.complexity = none := by
    have hfirst := empty.function?_performAll_registerFunction rs name
    rw [show performAll _ _ = registered from rfl, hfound] at hfirst
    exact hbare r (List.mem_of_find?_eq_some hfirst.symm)
  rw [hnone, Option.or_none]

end Ledger

namespace Ingest

section Index

variable {w : Workshop} {entries : List SourceEntry} {files : FileSystem}

/-- It is enough that every record has the metrics of the last row of its name. -/
theorem MeasuresLast.of_lookup? {σ : Type} [GraphStore σ] {log : List Event}
    (hregisters : ∃ report,
      (indexFunctions w entries (⟨GraphStore.empty, files, log⟩ : Site σ)).2 = .ok report)
    (hmeasures : ∃ report,
      (indexComplexity w entries (registeredSite σ w entries files log)).2 = .ok report)
    (hlookup : ∀ name,
      GraphStore.lookup? name
          (indexComplexity w entries (registeredSite σ w entries files log)).1.store =
        (GraphStore.lookup? name (registeredSite σ w entries files log).store).map fun record =>
          { record with
            complexity :=
              (lastRow? name (rowsIn (reportsBehindFunctions w entries files))).map
                Report.Measurement.metrics }) :
    MeasuresLast σ w entries files log where
  registers := hregisters
  measures := hmeasures
  lookup_eq := hlookup
  own_row name record c hrecord hmetrics hothers := by
    rw [hlookup] at hrecord
    obtain ⟨before, -, rfl⟩ := Option.map_eq_some_iff.mp hrecord
    obtain ⟨m, hlast, rfl⟩ := Option.map_eq_some_iff.mp hmetrics
    obtain ⟨hname, r, hr, hm⟩ := exists_report_of_lastRow? hlast
    have hown : r.entry.fullPath = before.fullPath :=
      Decidable.byContradiction fun hother => hothers r hr hother m hm hname
    exact ⟨r, hr, hown, hname ▸ hm⟩

/-- The function pass registers what it reads, and leaves files that do not depend on the store. -/
theorem registeredSite_eq {σ : Type} [GraphStore σ] (hkeeps : KeepsNames σ)
    (hprobe : ∃ version, (probe w .functions files).answer = .ok version)
    (hgoes : ∀ t ∈ passTurns w .functions entries files, t.fatal? = none) (log : List Event) :
    (registeredSite σ w entries files log).store =
        performAll ((definitionsIn
          (readings w .functions entries (probe w .functions files).files)).map .registerFunction)
            GraphStore.empty ∧
      (registeredSite σ w entries files log).files = filesBehindFunctions w entries files := by
  obtain ⟨version, hversion⟩ := hprobe
  constructor
  · rw [← passOperations_functions hkeeps ⟨version, hversion⟩ hgoes GraphStore.empty log]
    exact store_index_eq_performAll w .functions entries _
  · have hleft : (index w .functions entries (⟨GraphStore.empty, files, log⟩ : Site σ)).1.files =
        filesBehindFunctions w entries files := files_index hversion entries
    exact hleft

/-- The complexity pass attaches the rows that it reads. -/
theorem passOperations_complexity {σ : Type} [GraphStore σ] (hkeeps : KeepsNames σ)
    (hprobe : ∃ version, (probe w .complexity files).answer = .ok version)
    (hgoes : ∀ t ∈ passTurns w .complexity entries files, t.fatal? = none)
    {site : Site σ} (hfiles : site.files = files) :
    passOperations w .complexity entries site =
      (rowsIn (readings w .complexity entries (probe w .complexity files).files)).map
        Report.Measurement.operation := by
  obtain ⟨store, _, log⟩ := site
  subst hfiles
  refine (passOperations_eq_readings hkeeps .complexity hprobe hgoes store log).trans ?_
  rw [rowsIn, List.map_flatMap]
  rfl

/-- Both passes return their reports. -/
theorem reports_index {σ : Type} [GraphStore σ] (hkeeps : KeepsNames σ)
    (hregister : ∃ version, (probe w .functions files).answer = .ok version)
    (hmeasure : ∃ version,
      (probe w .complexity (filesBehindFunctions w entries files)).answer = .ok version)
    (hfunctions : ∀ t ∈ passTurns w .functions entries files, t.fatal? = none)
    (hcomplexity : ∀ t ∈ passTurns w .complexity entries (filesBehindFunctions w entries files),
      t.fatal? = none) (log : List Event) :
    (∃ report,
      (indexFunctions w entries (⟨GraphStore.empty, files, log⟩ : Site σ)).2 = .ok report) ∧
    ∃ report,
      (indexComplexity w entries (registeredSite σ w entries files log)).2 = .ok report := by
  have hfiles := (registeredSite_eq hkeeps hregister hfunctions log).2
  obtain ⟨version, hversion⟩ := hregister
  obtain ⟨version', hversion'⟩ := hmeasure
  rw [← hfiles] at hversion' hcomplexity
  have hregisters : ∃ report,
      (index w .functions entries (⟨GraphStore.empty, files, log⟩ : Site σ)).2 = .ok report :=
    returns_index _ hversion hfunctions
  have hmeasures : ∃ report,
      (index w .complexity entries (registeredSite σ w entries files log)).2 = .ok report :=
    returns_index _ hversion' hcomplexity
  exact ⟨hregisters, hmeasures⟩

/-- The stores behind the two passes hold what is registered, and what is attached to it. -/
theorem stores_index {σ : Type} [GraphStore σ] (hkeeps : KeepsNames σ)
    (hregister : ∃ version, (probe w .functions files).answer = .ok version)
    (hmeasure : ∃ version,
      (probe w .complexity (filesBehindFunctions w entries files)).answer = .ok version)
    (hfunctions : ∀ t ∈ passTurns w .functions entries files, t.fatal? = none)
    (hcomplexity : ∀ t ∈ passTurns w .complexity entries (filesBehindFunctions w entries files),
      t.fatal? = none) (log : List Event) :
    (registeredSite σ w entries files log).store =
        performAll ((definitionsIn
          (readings w .functions entries (probe w .functions files).files)).map .registerFunction)
            GraphStore.empty ∧
      (indexComplexity w entries (registeredSite σ w entries files log)).1.store =
        performAll
          ((rowsIn (reportsBehindFunctions w entries files)).map Report.Measurement.operation)
          (registeredSite σ w entries files log).store := by
  obtain ⟨hstore, hfiles⟩ := registeredSite_eq hkeeps hregister hfunctions log
  have hattached := store_index_eq_performAll w .complexity entries
    (registeredSite σ w entries files log)
  rw [passOperations_complexity hkeeps hmeasure hcomplexity hfiles] at hattached
  exact ⟨hstore, hattached⟩

/-- **Records get the metrics of the last row of their name**, in a ledger, and in an archive that
what is registered and attached fits into. -/
theorem index_measuresLast
    (hregister : ∃ version, (probe w .functions files).answer = .ok version)
    (hmeasure : ∃ version,
      (probe w .complexity (filesBehindFunctions w entries files)).answer = .ok version)
    (hfunctions : ∀ t ∈ passTurns w .functions entries files, t.fatal? = none)
    (hcomplexity : ∀ t ∈ passTurns w .complexity entries (filesBehindFunctions w entries files),
      t.fatal? = none) (log : List Event) :
    MeasuresLast Ledger w entries files log ∧
      (Archive.Fits (passOperations w .functions entries (⟨.empty, files, log⟩ : Site Archive) ++
          passOperations w .complexity entries (registeredSite Archive w entries files log)) →
        MeasuresLast Archive w entries files log) := by
  have hbare : ∀ r ∈ definitionsIn (readings w .functions entries (probe w .functions files).files),
      r.complexity = none := by
    intro r hr
    obtain ⟨reading, -, d, -, rfl⟩ := mem_definitionsIn.mp hr
    rfl
  have hledger := Ledger.function?_measured hbare (rowsIn (reportsBehindFunctions w entries files))
  constructor
  · obtain ⟨hregisters, hmeasures⟩ :=
      reports_index Ledger.keepsNames hregister hmeasure hfunctions hcomplexity log
    obtain ⟨hbefore, hafter⟩ :=
      stores_index Ledger.keepsNames hregister hmeasure hfunctions hcomplexity log
    refine .of_lookup? hregisters hmeasures fun name => ?_
    rw [hafter, hbefore]
    exact hledger name
  · intro hfits
    obtain ⟨hregisters, hmeasures⟩ :=
      reports_index Archive.keepsNames hregister hmeasure hfunctions hcomplexity log
    obtain ⟨hbefore, hafter⟩ :=
      stores_index Archive.keepsNames hregister hmeasure hfunctions hcomplexity log
    rw [passOperations_functions Archive.keepsNames hregister hfunctions,
      passOperations_complexity Archive.keepsNames hmeasure hcomplexity
        (registeredSite_eq Archive.keepsNames hregister hfunctions log).2] at hfits
    refine .of_lookup? hregisters hmeasures fun name => ?_
    -- the archive finds what the ledger does that registers and attaches the same
    have hregistered := hfits.of_append.mirrors.function?_eq name
    have hmeasured := hfits.mirrors.function?_eq name
    rw [performAll_append, performAll_append] at hmeasured
    rw [hafter, hbefore]
    exact (hmeasured.trans (hledger name)).trans (congrArg _ hregistered.symm)

end Index

/-! ## A name that two files define -/

/-- Two files that define functions of their own under one name. -/
def namesakeListing : String → String
  | "/src/a.c" => "main * a.c:1 int main (void)\nhelp * a.c:4 static void help (void)\n"
  | "/src/b.c" => "help * b.c:2 static void help (int)\n"
  | _ => ""

/-- The metrics of both. -/
def namesakeReport : String → String
  | "/src/a.c" => "9,3,50,1,12,l,f,main,main( void),1,3\n4,2,50,1,12,l,f,help,help( void),4,8\n"
  | "/src/b.c" => "7,5,50,1,12,l,f,help,help( int),2,9\n"
  | _ => ""

/-- Collaborators that know the two files. -/
def namesakeWorkshop : Workshop where
  extractor := .canned (.ok "cflow 1.7") fun _ source => .ok (namesakeListing source)
  analyzer := .canned (.ok "lizard 1.17") fun source => .ok (namesakeReport source)
  skip := []
  logDirectory := ⟨"/log", false⟩

def namesakeEntries : List SourceEntry := ["a.c", "b.c"].map (SourceEntry.under "/src")

theorem index_measuresLast_namesake :
    (∀ t ∈ passTurns namesakeWorkshop .functions namesakeEntries sampleFiles, t.fatal? = none) ∧
      (∀ t ∈ passTurns namesakeWorkshop .complexity namesakeEntries
        (filesBehindFunctions namesakeWorkshop namesakeEntries sampleFiles), t.fatal? = none) ∧
      Archive.Fits
        (passOperations namesakeWorkshop .functions namesakeEntries
            (⟨.empty, sampleFiles, []⟩ : Site Archive) ++
          passOperations namesakeWorkshop .complexity namesakeEntries
            (registeredSite Archive namesakeWorkshop namesakeEntries sampleFiles [])) ∧
      MeasuresLast Archive namesakeWorkshop namesakeEntries sampleFiles [] ∧
      let store := (indexComplexity namesakeWorkshop namesakeEntries
        (registeredSite Archive namesakeWorkshop namesakeEntries sampleFiles [])).1.store
      GraphStore.lookup? "main" store =
          some ⟨"/src/a.c", "a.c", "main", 1, "int main (void)", some ⟨3, 9⟩⟩ ∧
        GraphStore.lookup? "help" store =
          some ⟨"/src/a.c", "a.c", "help", 4, "static void help (void)", some ⟨5, 7⟩⟩ := by
  -- decided together, so that each pass is run once
  have hruns : (∀ t ∈ passTurns namesakeWorkshop .functions namesakeEntries sampleFiles,
      t.fatal? = none) ∧
      (∀ t ∈ passTurns namesakeWorkshop .complexity namesakeEntries
        (filesBehindFunctions namesakeWorkshop namesakeEntries sampleFiles), t.fatal? = none) ∧
      Archive.Fits
        (passOperations namesakeWorkshop .functions namesakeEntries
            (⟨.empty, sampleFiles, []⟩ : Site Archive) ++
          passOperations namesakeWorkshop .complexity namesakeEntries
            (registeredSite Archive namesakeWorkshop namesakeEntries sampleFiles [])) := by
    decide +kernel
  obtain ⟨hfunctions, hcomplexity, hfits⟩ := hruns
  have hlast : MeasuresLast Archive namesakeWorkshop namesakeEntries sampleFiles [] :=
    (index_measuresLast ⟨"cflow 1.7", rfl⟩ ⟨"lizard 1.17", rfl⟩ hfunctions hcomplexity []).2 hfits
  refine ⟨hfunctions, hcomplexity, hfits, hlast, ?_⟩
  dsimp only
  rw [hlast.lookup_eq, hlast.lookup_eq]
  decide +kernel

/-- **A record may get the metrics of another file's function**, although the report on its own file
has a row of its name. -/
theorem metrics_of_another_file :
    ¬∀ (w : Workshop) (cflow lizard : String) (listing report : String → String)
        (entries : List SourceEntry) (files : FileSystem) (name : String)
        (record : FunctionRecord) (c : Complexity),
      w.extractor = .canned (.ok cflow) (fun _ source => .ok (listing source)) →
      w.analyzer = .canned (.ok lizard) (fun source => .ok (report source)) →
      (entries.map SourceEntry.fullPath).Nodup → (∀ entry ∈ entries, entry.isPresent files) →
      GraphStore.lookup? name
          (indexComplexity w entries (registeredSite Ledger w entries files [])).1.store =
        some record →
      record.complexity = some c → ⟨name, c⟩ ∈ Report.measurements (report record.fullPath) := by
  intro h
  have hrow := h namesakeWorkshop "cflow 1.7" "lizard 1.17" namesakeListing namesakeReport
    namesakeEntries sampleFiles "help"
    ⟨"/src/a.c", "a.c", "help", 4, "static void help (void)", some ⟨5, 7⟩⟩ ⟨5, 7⟩ rfl rfl
    (by decide) (by decide +kernel) (by decide +kernel) rfl
  exact absurd hrow (by decide +kernel)

end Ingest

end CallForest
