import CallForest.Proofs.Ingest.Intakes
import CallForest.Proofs.Ingest.Repeating

/-!
# The order of the files of a pass

A pass that may be repeated has the same turns in whatever order its files are listed, so it reports
the same and performs the same operations, in another order (`Repeatable.result_perm`,
`Repeatable.passOperations_perm`). For the pass over calls this is all there is to say, because what
one file brings does not depend on the calls that were recorded before: the same calls are added,
and every node has the same callees in the end (`OrderFree`, `indexEdges_orderFree`).

Not every pass may be repeated. Raw output that is kept for one file may itself be a listed file,
which is then there or not when it is its turn (`result_depends_on_order`).
-/

namespace CallForest.Ingest

/-- The order of the files of a pass over calls does not matter: `callees` gives the callees of a
node, repeated ones included, and `rest` what a store has beside calls. -/
structure OrderFree {σ ρ : Type} [GraphStore σ] (callees : Node → σ → List Node) (rest : σ → ρ)
    (w : Workshop) (entries others : List SourceEntry) (site : Site σ) : Prop where
  result_eq : ∃ report, (indexEdges w entries site).2 = .ok report ∧
    (indexEdges w others site).2 = .ok report
  /-- The same calls are recorded, as often. -/
  passCalls_perm : (passCalls w entries site).Perm (passCalls w others site)
  /-- They are added to those there are, and nothing else changes. -/
  addsCalls : AddsCalls callees rest (passCalls w entries site) site.store
    (indexEdges w entries site).1.store
  addsCalls_other : AddsCalls callees rest (passCalls w others site) site.store
    (indexEdges w others site).1.store
  edgeCount_eq : GraphStore.edgeCount (indexEdges w entries site).1.store =
    GraphStore.edgeCount (indexEdges w others site).1.store
  mem_children_iff : ∀ m n, m ∈ GraphStore.children n (indexEdges w entries site).1.store ↔
    m ∈ GraphStore.children n (indexEdges w others site).1.store

/-! ## Any pass -/

namespace Repeatable

variable {w : Workshop} {pass : Pass} {entries others : List SourceEntry}
  {Kept : FileSystem → Prop} {fs : FileSystem}

theorem passTurns_perm (h : Repeatable w pass entries Kept) (hperm : entries.Perm others)
    (hkept : Kept fs) : (passTurns w pass entries fs).Perm (passTurns w pass others fs) := by
  rw [h.passTurns_eq hkept hkept, (h.of_subset hperm.symm.subset).passTurns_eq hkept hkept]
  exact hperm.map _

/-- If no turn ends the pass in one order, none does in another. -/
theorem goes_perm (h : Repeatable w pass entries Kept) (hperm : entries.Perm others)
    (hkept : Kept fs) (hgoes : ∀ t ∈ passTurns w pass entries fs, t.fatal? = none) :
    ∀ t ∈ passTurns w pass others fs, t.fatal? = none :=
  fun t ht => hgoes t ((h.passTurns_perm hperm hkept).mem_iff.mpr ht)

variable {version : String}

theorem passIntakes_perm (h : Repeatable w pass entries Kept) (hperm : entries.Perm others)
    (hkept : Kept fs) (hprobe : (probe w pass fs).answer = .ok version)
    (hgoes : ∀ t ∈ passTurns w pass entries fs, t.fatal? = none) :
    (passIntakes w pass entries fs).Perm (passIntakes w pass others fs) := by
  rw [passIntakes_of_goes hprobe hgoes,
    passIntakes_of_goes hprobe (h.goes_perm hperm hkept hgoes)]
  exact (h.passTurns_perm hperm hkept).filterMap _

variable {σ : Type} [GraphStore σ] {site : Site σ}

/-- The same operations are performed, in another order. -/
theorem passOperations_perm (h : Repeatable w pass entries Kept) (hnames : KeepsNames σ)
    (hperm : entries.Perm others) (hkept : Kept site.files)
    (hprobe : (probe w pass site.files).answer = .ok version)
    (hgoes : ∀ t ∈ passTurns w pass entries site.files, t.fatal? = none) :
    (passOperations w pass entries site).Perm (passOperations w pass others site) := by
  rw [passOperations_eq_flatMap hnames, passOperations_eq_flatMap hnames]
  exact (h.passIntakes_perm hperm hkept hprobe hgoes).flatMap_right _

/-- The report is the same. -/
theorem result_perm (h : Repeatable w pass entries Kept) (hnames : KeepsNames σ)
    (hperm : entries.Perm others) (hkept : Kept site.files)
    (hprobe : (probe w pass site.files).answer = .ok version)
    (hgoes : ∀ t ∈ passTurns w pass entries site.files, t.fatal? = none) :
    ∃ report, (index w pass entries site).2 = .ok report ∧
      (index w pass others site).2 = .ok report := by
  have hgoes' := h.goes_perm hperm hkept hgoes
  -- total, skipped and handled files are counts over permuted lists; the failed ones are the rest
  obtain ⟨one, hone, htotal, hskipped, hprocessed⟩ := result_index hprobe hgoes
  obtain ⟨other, hother, htotal', hskipped', hprocessed'⟩ := result_index hprobe hgoes'
  have hturns := h.passTurns_perm hperm hkept
  rw [hturns.countP_eq, ← hskipped'] at hskipped
  rw [hperm.length_eq, ← htotal'] at htotal
  have hpass : ∀ entries, ∀ i ∈ passIntakes w pass entries site.files, i.pass = pass :=
    fun _ _ => pass_of_mem_passIntakes
  rw [← passIntakes_of_goes hprobe hgoes, Intake.finished_eq_countP hnames (hpass _),
    (h.passIntakes_perm hperm hkept hprobe hgoes).countP_eq,
    ← Intake.finished_eq_countP hnames (hpass _), passIntakes_of_goes hprobe hgoes',
    ← hprocessed'] at hprocessed
  have hsame : one = other := BatchReport.eq_of_total_eq htotal hprocessed hskipped
  exact ⟨other, hsame ▸ hone, hother⟩

end Repeatable

/-! ## The pass over calls -/

section Edges

variable {w : Workshop} {entries others : List SourceEntry}

/-- Callees are compared by membership, and answered once each. -/
theorem OrderFree.of_addsCalls {σ ρ : Type} [GraphStore σ] {callees : Node → σ → List Node}
    {rest : σ → ρ} {site : Site σ}
    (hchildren : ∀ n (store : σ),
      GraphStore.children n store = firstOccurrences [] (callees n store))
    (hresult : ∃ report, (indexEdges w entries site).2 = .ok report ∧
      (indexEdges w others site).2 = .ok report)
    (hperm : (passCalls w entries site).Perm (passCalls w others site))
    (hadds : AddsCalls callees rest (passCalls w entries site) site.store
      (indexEdges w entries site).1.store)
    (hadds' : AddsCalls callees rest (passCalls w others site) site.store
      (indexEdges w others site).1.store) :
    OrderFree callees rest w entries others site where
  result_eq := hresult
  passCalls_perm := hperm
  addsCalls := hadds
  addsCalls_other := hadds'
  edgeCount_eq := by rw [hadds.edgeCount_eq, hadds'.edgeCount_eq, hperm.length_eq]
  mem_children_iff m n := by
    rw [hchildren, hchildren, mem_firstOccurrences, mem_firstOccurrences, hadds.callees_eq,
      hadds'.callees_eq, List.mem_append, List.mem_append]
    exact or_congr_right ((hperm.filter _).map _).mem_iff

theorem addsCalls_ledger (site : Site Ledger) :
    AddsCalls Ledger.callees (fun l => (l.files, l.functions)) (passCalls w entries site)
      site.store (indexEdges w entries site).1.store := by
  rw [store_indexEdges]
  exact site.store.addsCalls_recordEdges _

theorem addsCalls_archive {ops : List StoreOperation} {site : Site Archive}
    (hstore : site.store = performAll ops Archive.empty)
    (hfits : Archive.Fits (ops ++ passOperations w .edges entries site)) :
    AddsCalls Archive.callees (fun a => (a.files, a.functions)) (passCalls w entries site)
      site.store (indexEdges w entries site).1.store := by
  rw [← map_passCalls] at hfits
  rw [store_indexEdges, hstore]
  exact Archive.addsCalls_recordEdges hfits

/-- **The order of the files of a pass over calls does not matter**, if the pass may be repeated:
not for a ledger, and not for an archive that what it records fits into. -/
theorem indexEdges_orderFree {Kept : FileSystem → Prop} {files : FileSystem}
    (hperm : entries.Perm others) (hrepeat : Repeatable w .edges entries Kept)
    (hkept : Kept files) (hprobe : ∃ version, (probe w .edges files).answer = .ok version)
    (hgoes : ∀ t ∈ passTurns w .edges entries files, t.fatal? = none) (log : List Event) :
    (∀ l : Ledger, OrderFree Ledger.callees (fun l => (l.files, l.functions)) w entries others
        ⟨l, files, log⟩) ∧
      ∀ ops, let site : Site Archive := ⟨performAll ops .empty, files, log⟩
        Archive.Fits (ops ++ passOperations w .edges entries site) →
          OrderFree Archive.callees (fun a => (a.files, a.functions)) w entries others site := by
  obtain ⟨version, hprobe⟩ := hprobe
  have hoperations : ∀ {σ : Type} [GraphStore σ], KeepsNames σ → ∀ store : σ,
      (passOperations w .edges entries ⟨store, files, log⟩).Perm
        (passOperations w .edges others ⟨store, files, log⟩) := fun hnames _ =>
    hrepeat.passOperations_perm hnames hperm hkept hprobe hgoes
  constructor
  · intro l
    exact .of_addsCalls (fun _ _ => rfl)
      (hrepeat.result_perm Ledger.keepsNames hperm hkept hprobe hgoes)
      ((hoperations Ledger.keepsNames l).filterMap _) (addsCalls_ledger _) (addsCalls_ledger _)
  · intro ops site hfits
    have hsame := hoperations Archive.keepsNames (performAll ops .empty)
    -- what fits in one order fits in the other
    have hother := hfits.perm (hsame.append_left ops)
    exact .of_addsCalls (fun _ _ => rfl)
      (hrepeat.result_perm Archive.keepsNames hperm hkept hprobe hgoes) (hsame.filterMap _)
      (addsCalls_archive rfl hfits) (addsCalls_archive rfl hother)

end Edges

theorem indexEdges_orderFree_sample :
    sampleEntries.Perm sampleEntries.reverse ∧
      loggedFiles.Apart (sampleEntries.map SourceEntry.fullPath)
        (outputPaths loggingWorkshop.logDirectory sampleEntries) ∧
      (∀ t ∈ passTurns loggingWorkshop .edges sampleEntries loggedFiles, t.fatal? = none) ∧
      Archive.Fits ([.registerFunction firstMain] ++
        passOperations loggingWorkshop .edges sampleEntries loggedSite) ∧
      OrderFree Archive.callees (fun a : Archive => (a.files, a.functions)) loggingWorkshop
        sampleEntries sampleEntries.reverse loggedSite := by
  have hperm : sampleEntries.Perm sampleEntries.reverse := (List.reverse_perm _).symm
  have hrepeat := repeatable_of_apart (w := loggingWorkshop) rfl rfl apart_loggedFiles .edges
  have hgoes : ∀ t ∈ passTurns loggingWorkshop .edges sampleEntries loggedFiles,
      t.fatal? = none := by decide +kernel
  have hfits : Archive.Fits ([.registerFunction firstMain] ++
      passOperations loggingWorkshop .edges sampleEntries loggedSite) := by
    decide +kernel
  exact ⟨hperm, apart_loggedFiles, hgoes, hfits,
    (indexEdges_orderFree hperm hrepeat (.refl _ _ _) ⟨"cflow 1.7", rfl⟩ hgoes []).2 _ hfits⟩

/-! ## A listed file that comes during the pass -/

/-- An extractor that has listings of a source file and of what is kept of the first. -/
def keepingListing : ListingKind → String → Except CollaboratorError String
  | .callTree, "src/a.c" => .ok "main()\n    run()\n"
  | .callTree, "src/../log/edges/a.c.log" => .ok "stop()\n    exit()\n"
  | _, source => .error (.failed "cflow" source (some 1) "no listing")

theorem keepingListing_ne_missing (kind : ListingKind) (source program : String)
    (cause : OsError) : keepingListing kind source ≠ .error (.missing program cause) := by
  unfold keepingListing
  split <;> exact fun heq => by cases heq

/-- Its output is kept. -/
def keepingWorkshop : Workshop where
  extractor := .canned (.ok "cflow 1.7") keepingListing
  analyzer := sampleWorkshop.analyzer
  skip := []
  logDirectory := ⟨"log", true⟩

/-- A source file, and an empty log directory. -/
def unloggedFiles : FileSystem :=
  ((FileSystem.ofRoot (.ofList [("src", .folder .nil),
    ("log", .folder (.ofList [("edges", .folder .nil)]))]) []).write "src/a.c"
      (Utf8.encode "int main(void);\n")).1

/-- The source file, and what will be kept of its calls. -/
def keepingEntries : List SourceEntry :=
  ["a.c", "../log/edges/a.c.log"].map (SourceEntry.under "src")

/-- **Not every pass over calls may be repeated.** Without a missing collaborator, a listed file is
handled or skipped all the same as it comes behind or before the one whose output it is. -/
theorem result_depends_on_order :
    ¬∀ (w : Workshop) (version : String)
        (listing : ListingKind → String → Except CollaboratorError String)
        (entries others : List SourceEntry) (site : Site Ledger),
      w.extractor = .canned (.ok version) listing →
      (∀ kind source program cause, listing kind source ≠ .error (.missing program cause)) →
      entries.Perm others → (indexEdges w entries site).2 = (indexEdges w others site).2 := by
  intro h
  have hsame := h keepingWorkshop "cflow 1.7" keepingListing keepingEntries keepingEntries.reverse
    ⟨.empty, unloggedFiles, []⟩ rfl keepingListing_ne_missing (List.reverse_perm _).symm
  have hone : (indexEdges keepingWorkshop keepingEntries
      (⟨.empty, unloggedFiles, []⟩ : Site Ledger)).2 = .ok ⟨2, 0, 0⟩ := by decide +kernel
  have hother : (indexEdges keepingWorkshop keepingEntries.reverse
      (⟨.empty, unloggedFiles, []⟩ : Site Ledger)).2 = .ok ⟨1, 1, 0⟩ := by decide +kernel
  rw [hone, hother] at hsame
  cases hsame

end CallForest.Ingest
