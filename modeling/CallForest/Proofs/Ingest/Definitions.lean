import CallForest.Proofs.Ingest.Intakes
import CallForest.Proofs.Ingest.Passes
import CallForest.Proofs.Ingest.Readings

/-!
# The function pass registers the first definitions

The cross-reference listings that a function pass reads define names, and a name may be defined
more than once, in one listing or in several. A name that has a record keeps it. Every other name
that is defined gets a record of its first definition: the first listing that defines it, and the
first line there. Nothing else in the store changes (`RegistersFirst`, `index_registersFirst`).

All registrations of the pass are one series (`definitionsIn`), so that the record of a name is what
it was or else the first of that name in the series (`RegistersFirst.of_lookup?`).
-/

namespace CallForest.Ingest

/-- The records of the definitions that are read, in the order of the listings and their lines. -/
def definitionsIn (rs : List Reading) : List FunctionRecord :=
  rs.flatMap fun r => (Xref.definitions r.text).map (recordOf r.entry)

/-- What the function pass comes to: `rest` is what a store has beside records of functions. -/
structure RegistersFirst {σ ρ : Type} [GraphStore σ] (rest : σ → ρ) (w : Workshop)
    (entries : List SourceEntry) (site : Site σ) : Prop where
  returns : ∃ report, (indexFunctions w entries site).2 = .ok report
  /-- A name that has a record keeps it. -/
  lookup_kept : ∀ name record, GraphStore.lookup? name site.store = some record →
    GraphStore.lookup? name (indexFunctions w entries site).1.store = some record
  /-- Of the other names those get a record that a listing defines. -/
  isSome_lookup_iff : ∀ name, GraphStore.lookup? name site.store = none →
    ((GraphStore.lookup? name (indexFunctions w entries site).1.store).isSome ↔
      ∃ r ∈ readings w .functions entries (probe w .functions site.files).files,
        ∃ d ∈ Xref.definitions r.text, d.name = name)
  /-- The record is made of the first definition, and of the file that it is in. -/
  lookup_first : ∀ earlier r later above d below,
    readings w .functions entries (probe w .functions site.files).files = earlier ++ r :: later →
    Xref.definitions r.text = above ++ d :: below →
    GraphStore.lookup? d.name site.store = none →
    (∀ s ∈ earlier, ∀ e ∈ Xref.definitions s.text, e.name ≠ d.name) →
    (∀ e ∈ above, e.name ≠ d.name) →
      GraphStore.lookup? d.name (indexFunctions w entries site).1.store =
        some ⟨r.entry.fullPath, r.entry.shortPath, d.name, d.line, d.signature, none⟩
  rest_eq : rest (indexFunctions w entries site).1.store = rest site.store

section Found

variable {name : String}

theorem mem_definitionsIn {rs : List Reading} {record : FunctionRecord} :
    record ∈ definitionsIn rs ↔
      ∃ r ∈ rs, ∃ d ∈ Xref.definitions r.text, recordOf r.entry d = record := by
  simp only [definitionsIn, List.mem_flatMap, List.mem_map]

theorem isSome_find?_definitionsIn {rs : List Reading} :
    ((definitionsIn rs).find? fun r => r.name = name).isSome ↔
      ∃ r ∈ rs, ∃ d ∈ Xref.definitions r.text, d.name = name := by
  rw [List.find?_isSome]
  constructor
  · rintro ⟨record, hrecord, hname⟩
    obtain ⟨r, hr, d, hd, rfl⟩ := mem_definitionsIn.mp hrecord
    exact ⟨r, hr, d, hd, of_decide_eq_true hname⟩
  · rintro ⟨r, hr, d, hd, hname⟩
    exact ⟨recordOf r.entry d, mem_definitionsIn.mpr ⟨r, hr, d, hd, rfl⟩, decide_eq_true hname⟩

theorem find?_map_recordOf_eq_none {entry : SourceEntry} {ds : List Xref.Definition}
    (h : ∀ d ∈ ds, d.name ≠ name) :
    (ds.map (recordOf entry)).find? (fun r => r.name = name) = none := by
  rw [List.find?_eq_none]
  rintro record hrecord hname
  obtain ⟨d, hd, rfl⟩ := List.mem_map.mp hrecord
  exact h d hd (of_decide_eq_true hname)

/-- The first definition of a name is the first of that name among all that are read. -/
theorem find?_definitionsIn {earlier later : List Reading} {r : Reading}
    {above below : List Xref.Definition} {d : Xref.Definition}
    (hr : Xref.definitions r.text = above ++ d :: below)
    (hearlier : ∀ s ∈ earlier, ∀ e ∈ Xref.definitions s.text, e.name ≠ d.name)
    (habove : ∀ e ∈ above, e.name ≠ d.name) :
    (definitionsIn (earlier ++ r :: later)).find? (fun r => r.name = d.name) =
      some (recordOf r.entry d) := by
  -- neither the listings in front nor the lines above name it
  have hfront : (definitionsIn earlier).find? (fun r => r.name = d.name) = none := by
    rw [← Option.not_isSome_iff_eq_none, isSome_find?_definitionsIn]
    rintro ⟨s, hs, e, he, hname⟩
    exact hearlier s hs e he hname
  have hhere : (((above ++ d :: below).map (recordOf r.entry)).find? fun r => r.name = d.name) =
      some (recordOf r.entry d) := by
    rw [List.map_append, List.find?_append, find?_map_recordOf_eq_none habove, Option.none_or,
      List.map_cons]
    exact List.find?_cons_of_pos (decide_eq_true rfl)
  have hsplit : definitionsIn (earlier ++ r :: later) =
      definitionsIn earlier ++ (((above ++ d :: below).map (recordOf r.entry)) ++
        definitionsIn later) := by
    rw [definitionsIn, List.flatMap_append, List.flatMap_cons, hr]
    rfl
  rw [hsplit, List.find?_append, hfront, Option.none_or, List.find?_append, hhere, Option.some_or]

end Found

/-- It is enough that the record of a name is what it was, or else the first that is read. -/
theorem RegistersFirst.of_lookup? {σ ρ : Type} [GraphStore σ] {rest : σ → ρ} {w : Workshop}
    {entries : List SourceEntry} {site : Site σ}
    (hreturns : ∃ report, (indexFunctions w entries site).2 = .ok report)
    (hlookup : ∀ name, GraphStore.lookup? name (indexFunctions w entries site).1.store =
      (GraphStore.lookup? name site.store).or
        ((definitionsIn (readings w .functions entries (probe w .functions site.files).files)).find?
          fun r => r.name = name))
    (hrest : rest (indexFunctions w entries site).1.store = rest site.store) :
    RegistersFirst rest w entries site where
  returns := hreturns
  lookup_kept name record hrecord := by rw [hlookup, hrecord, Option.some_or]
  isSome_lookup_iff name hnone := by
    rw [hlookup, hnone, Option.none_or, isSome_find?_definitionsIn]
  lookup_first earlier r later above d below hreadings hr hnone hearlier habove := by
    rw [hlookup, hnone, Option.none_or, hreadings, find?_definitionsIn hr hearlier habove]
    rfl
  rest_eq := hrest

section Index

variable {w : Workshop} {entries : List SourceEntry} {files : FileSystem}

/-- A pass performs the operations of its readings, names standing for what they stand for at its
start. -/
theorem passOperations_eq_readings {σ : Type} [GraphStore σ] (hkeeps : KeepsNames σ)
    (kind : DumpKind) (hprobe : ∃ version, (probe w kind.pass files).answer = .ok version)
    (hgoes : ∀ t ∈ passTurns w kind.pass entries files, t.fatal? = none)
    (store : σ) (log : List Event) :
    passOperations w kind.pass entries ⟨store, files, log⟩ =
      (readings w kind entries (probe w kind.pass files).files).flatMap fun r =>
        (intakeOf w kind r.entry r.text).operations (resolveNode store) := by
  obtain ⟨version, hprobe⟩ := hprobe
  have hintakes : passIntakes w kind.pass entries files =
      (readings w kind entries (probe w kind.pass files).files).map fun r =>
        intakeOf w kind r.entry r.text :=
    (passIntakes_of_goes hprobe hgoes).trans (intakes_turns w kind entries _)
  rw [passOperations_eq_flatMap hkeeps, hintakes, List.flatMap_map]

/-- A function pass registers what it reads, whatever the store. -/
theorem passOperations_functions {σ : Type} [GraphStore σ] (hkeeps : KeepsNames σ)
    (hprobe : ∃ version, (probe w .functions files).answer = .ok version)
    (hgoes : ∀ t ∈ passTurns w .functions entries files, t.fatal? = none)
    (store : σ) (log : List Event) :
    passOperations w .functions entries ⟨store, files, log⟩ =
      (definitionsIn (readings w .functions entries (probe w .functions files).files)).map
        .registerFunction := by
  refine (passOperations_eq_readings hkeeps .functions hprobe hgoes store log).trans ?_
  rw [definitionsIn, List.map_flatMap]
  rfl

/-- **The function pass registers the first definitions**, in every ledger, and in every archive
that what is registered fits into. -/
theorem index_registersFirst
    (hprobe : ∃ version, (probe w .functions files).answer = .ok version)
    (hgoes : ∀ t ∈ passTurns w .functions entries files, t.fatal? = none) (log : List Event) :
    (∀ l : Ledger, RegistersFirst (fun l => (l.files, l.edges)) w entries ⟨l, files, log⟩) ∧
      ∀ ops, let site : Site Archive := ⟨performAll ops .empty, files, log⟩
        Archive.Fits (ops ++ passOperations w .functions entries site) →
          RegistersFirst (fun a => (a.files, a.edges, a.nextId)) w entries site := by
  obtain ⟨version, hversion⟩ := hprobe
  let found := definitionsIn (readings w .functions entries (probe w .functions files).files)
  have hledger : ∀ l : Ledger, (indexFunctions w entries ⟨l, files, log⟩).1.store =
      performAll (found.map .registerFunction) l := fun l =>
    passOperations_functions Ledger.keepsNames ⟨version, hversion⟩ hgoes l log ▸
      store_index_eq_performAll w .functions entries _
  constructor
  · intro l
    obtain ⟨new, hnew⟩ := l.performAll_registerFunction found
    refine .of_lookup? (returns_index ⟨l, files, log⟩ hversion hgoes) (fun name => ?_) ?_
    · rw [hledger]
      exact l.function?_performAll_registerFunction found name
    · rw [hledger, hnew]
  · intro ops site hfits
    have hstore : (indexFunctions w entries site).1.store =
        performAll (passOperations w .functions entries site) site.store :=
      store_index_eq_performAll w .functions entries site
    rw [passOperations_functions Archive.keepsNames ⟨version, hversion⟩ hgoes] at hfits hstore
    obtain ⟨m, hm⟩ := site.store.performAll_registerFunction found
    refine .of_lookup? (returns_index site hversion hgoes) (fun name => ?_) ?_
    · have hbefore : site.store.function? name = (performAll ops Ledger.empty).function? name :=
        hfits.of_append.mirrors.function?_eq name
      have hafter := hfits.mirrors.function?_eq name
      rw [performAll_append, performAll_append, Ledger.function?_performAll_registerFunction,
        ← hbefore] at hafter
      rw [hstore]
      exact hafter
    · rw [hstore, hm]

end Index

/-- A listing that defines a name twice, and marks another without a line. -/
def doubledListing : String :=
  "main * a.c:3 int main (int)\nrun * a.c\nstop * a.c:9 void stop (void)\nstop * a.c:12\n"

/-- A listing that defines a name of the other listing. -/
def overlappingListing : String :=
  "stop * b.c:2 void stop (int)\nrun * b.c:5 void run (void)\nexit b.c:6\n"

theorem definitions_doubledListing :
    Xref.definitions doubledListing =
      [⟨"main", 3, "int main (int)"⟩, ⟨"stop", 9, "void stop (void)"⟩, ⟨"stop", 12, ""⟩] := by
  decide +kernel

theorem definitions_overlappingListing :
    Xref.definitions overlappingListing =
      [⟨"stop", 2, "void stop (int)"⟩, ⟨"run", 5, "void run (void)"⟩] := by
  decide +kernel

/-- An extractor that has the two listings, and knows nothing of other files. -/
def overlappingWorkshop : Workshop where
  extractor := .canned (.ok "cflow 1.7") fun
    | .crossReference, "/src/a.c" => .ok doubledListing
    | .crossReference, "/src/b.c" => .ok overlappingListing
    | _, source => .error (.failed "cflow" source (some 1) "no listing")
  analyzer := sampleWorkshop.analyzer
  skip := []
  logDirectory := ⟨"/log", false⟩

theorem readings_overlappingWorkshop :
    readings overlappingWorkshop .functions sampleEntries
        (probe overlappingWorkshop .functions sampleFiles).files =
      [⟨.under "/src" "a.c", doubledListing⟩, ⟨.under "/src" "b.c", overlappingListing⟩] := by
  rfl

theorem index_registersFirst_sample :
    (∀ t ∈ passTurns overlappingWorkshop .functions sampleEntries sampleFiles, t.fatal? = none) ∧
      Archive.Fits ([.registerFunction firstMain] ++
        passOperations overlappingWorkshop .functions sampleEntries knownSite) ∧
      RegistersFirst (fun a : Archive => (a.files, a.edges, a.nextId)) overlappingWorkshop
        sampleEntries knownSite ∧
      let store := (indexFunctions overlappingWorkshop sampleEntries knownSite).1.store
      GraphStore.lookup? "main" store = some firstMain ∧
        GraphStore.lookup? "stop" store =
          some ⟨"/src/a.c", "a.c", "stop", 9, "void stop (void)", none⟩ ∧
        GraphStore.lookup? "run" store =
          some ⟨"/src/b.c", "b.c", "run", 5, "void run (void)", none⟩ ∧
        (GraphStore.lookup? "exit" store).isSome = false := by
  have hgoes : ∀ t ∈ passTurns overlappingWorkshop .functions sampleEntries sampleFiles,
      t.fatal? = none := by decide +kernel
  have hfits : Archive.Fits ([.registerFunction firstMain] ++
      passOperations overlappingWorkshop .functions sampleEntries knownSite) := by
    rw [knownSite, passOperations_functions Archive.keepsNames ⟨"cflow 1.7", rfl⟩ hgoes,
      readings_overlappingWorkshop]
    simp only [definitionsIn, List.flatMap_cons, List.flatMap_nil, definitions_doubledListing,
      definitions_overlappingListing]
    decide +kernel
  have hfirst : RegistersFirst (fun a : Archive => (a.files, a.edges, a.nextId))
      overlappingWorkshop sampleEntries knownSite :=
    (index_registersFirst ⟨"cflow 1.7", rfl⟩ hgoes []).2 _ hfits
  have hmain := hfirst.lookup_kept "main" firstMain (by decide +kernel)
  have hstop := hfirst.lookup_first [] _ _ [⟨"main", 3, "int main (int)"⟩]
    ⟨"stop", 9, "void stop (void)"⟩ [⟨"stop", 12, ""⟩] readings_overlappingWorkshop
    definitions_doubledListing (by decide +kernel) (by simp) (by decide)
  have hrun := hfirst.lookup_first [_] _ [] [⟨"stop", 2, "void stop (int)"⟩]
    ⟨"run", 5, "void run (void)"⟩ [] readings_overlappingWorkshop definitions_overlappingListing
    (by decide +kernel) (by simp [definitions_doubledListing]) (by decide)
  have hexit : ¬(GraphStore.lookup? "exit"
      (indexFunctions overlappingWorkshop sampleEntries knownSite).1.store).isSome := by
    have hreadings := hfirst.isSome_lookup_iff "exit" (by decide +kernel)
    rw [show knownSite.files = sampleFiles from rfl, readings_overlappingWorkshop]
      at hreadings
    rw [hreadings]
    simp [definitions_doubledListing, definitions_overlappingListing]
  exact ⟨hgoes, hfits, hfirst, hmain, hstop, hrun, eq_false_of_ne_true hexit⟩

end CallForest.Ingest
