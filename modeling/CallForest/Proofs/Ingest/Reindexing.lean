import CallForest.Proofs.Ingest.Intakes
import CallForest.Proofs.Ingest.Repeating

/-!
# All passes a second time

The passes over files, functions, calls and metrics, one after another, and all of them again while
nothing has changed about the files. What was registered is refused, the calls are recorded a second
time, and the metrics are set to what they are. So no record changes, no callee is added, every walk
and every drawing is what it was; only the count of calls grows, by the calls that the first round
recorded (`Unharmed`, `indexAll_again`).

For a store this is a matter of intakes (`TakesAgain`): those of the registering passes are refused
as a whole, so names stand for the same nodes when calls are read again, and the same calls are
read. The archive takes part by mirroring the ledger.
-/

namespace CallForest

open Intake (takeIn takeIn_append takeIn_eq_performAll_of_ne takeIn_eq_recordEdges operationsOf
  operationsOf_append isOf_of_mem_operationsOf)

/-- Intakes are entered a second time: `registered` come first among them, then `calls`. -/
structure TakesAgain {σ φ : Type} [GraphStore σ] (file : String → σ → Option φ)
    (registered calls is : List Intake) (store : σ) : Prop where
  /-- When the calls are read again names stand for what they stood for. -/
  resolveNode_eq : resolveNode (takeIn registered (takeIn is store)) =
    resolveNode (takeIn registered store)
  unharmed : ∃ added,
    GraphStore.edgeCount (takeIn calls (takeIn registered store)) =
        GraphStore.edgeCount (takeIn registered store) + added ∧
      Unharmed file (takeIn is store) (takeIn is (takeIn is store)) added

section Store

variable {files functions calls metrics : List Intake}

/-- A ledger takes the intakes of all passes again. -/
theorem Ledger.takesAgain (hfiles : ∀ i ∈ files, i.pass = .files)
    (hfunctions : ∀ i ∈ functions, i.pass = .functions) (hcalls : ∀ i ∈ calls, i.pass = .edges)
    (hmetrics : ∀ i ∈ metrics, i.pass = .complexity) (l : Ledger) :
    TakesAgain Ledger.file? (files ++ functions) calls (files ++ functions ++ (calls ++ metrics))
      l := by
  let registrations := operationsOf files l ++ operationsOf functions l
  let es := recordedCalls (operationsOf calls (performAll registrations l))
  let updates := operationsOf metrics l
  -- of all operations only the calls depend on the store, and that by what names stand for
  have hregister : ∀ k : Ledger, takeIn (files ++ functions) k = performAll registrations k := by
    intro k
    rw [takeIn_append, takeIn_eq_performAll_of_ne keepsNames hfiles nofun k l,
      takeIn_eq_performAll_of_ne keepsNames hfunctions nofun _ l, performAll_append]
  have hrecord : ∀ k : Ledger, resolveNode k = resolveNode (performAll registrations l) →
      takeIn calls k = recordEdges es k := fun k =>
    takeIn_eq_recordEdges keepsNames hcalls
  have hmeasure : ∀ k : Ledger, takeIn metrics k = performAll updates k := fun k =>
    takeIn_eq_performAll_of_ne keepsNames hmetrics nofun k l
  have hregistrations : ∀ op ∈ registrations,
      (∃ f, op = .registerFile f) ∨ ∃ r, op = .registerFunction r :=
    List.forall_mem_append.mpr ⟨fun op hop => .inl (isOf_of_mem_operationsOf hfiles op hop),
      fun op hop => .inr (isOf_of_mem_operationsOf hfunctions op hop)⟩
  have hupdates : ∀ op ∈ updates, ∃ name c, op = .updateComplexity name c :=
    isOf_of_mem_operationsOf hmetrics
  obtain ⟨hrefused, hresolve, hrecorded, hmeasured⟩ :=
    l.performAll_again es hregistrations hupdates
  have honce : takeIn (files ++ functions ++ (calls ++ metrics)) l =
      performAll updates (recordEdges es (performAll registrations l)) := by
    rw [takeIn_append, takeIn_append, hregister, hrecord _ rfl, hmeasure]
  rw [← honce] at hrefused hresolve hrecorded hmeasured
  constructor
  · rw [hregister, hrefused, hresolve, hregister]
  · refine ⟨es.length, ?_, ?_⟩
    · rw [hregister, hrecord _ rfl]
      exact (addsCalls_recordEdges _ es).edgeCount_eq
    · have hagain : takeIn (files ++ functions ++ (calls ++ metrics))
          (takeIn (files ++ functions ++ (calls ++ metrics)) l) =
            recordEdges es (takeIn (files ++ functions ++ (calls ++ metrics)) l) := by
        rw [takeIn_append, hregister, hrefused, takeIn_append, hrecord _ hresolve, hmeasure,
          hmeasured]
      rw [hagain]
      exact unharmed_recordEdges hrecorded

end Store

/-! ## The archive -/

namespace Archive

/-- The record of a file, as it is kept. -/
def file? (path : String) (a : Archive) : Option Bytes :=
  a.files.find? (Utf8.encode path)

end Archive

/-- What does no harm to a ledger does none to an archive that mirrors it. -/
theorem Mirrors.unharmed {a b : Archive} {l k : Ledger} (ha : Mirrors a l) (hb : Mirrors b k)
    (haroom : a.nextId ≤ UInt64.size) (hbroom : b.nextId ≤ UInt64.size) {added : Nat}
    (h : Unharmed Ledger.file? l k added) : Unharmed Archive.file? a b added where
  file_eq path := by rw [Archive.file?, hb.files, h.file_eq, Archive.file?, ha.files]
  lookup_eq name :=
    (hb.function?_eq name).trans ((h.lookup_eq name).trans (ha.function?_eq name).symm)
  children_eq n := by
    rw [hb.children_eq_ledger hbroom, h.children_eq, ha.children_eq_ledger haroom]
  edgeCount_eq := by
    refine hb.edgeCount_eq.trans (h.edgeCount_eq.trans ?_)
    exact congrArg (· + added) ha.edgeCount_eq.symm

/-- An archive takes again what the ledger does, if it has room for it twice. -/
theorem Archive.takesAgain {ops : List StoreOperation} {registered calls is : List Intake}
    (hfront : registered ++ calls <+: is)
    (hfits : Fits (ops ++ operationsOf (is ++ is) (performAll ops Archive.empty)))
    (hledger : TakesAgain Ledger.file? registered calls is (performAll ops Ledger.empty)) :
    TakesAgain Archive.file? registered calls is (performAll ops Archive.empty) := by
  have hmirrors : ∀ js, js <+: is ++ is →
      Mirrors (takeIn js (performAll ops Archive.empty)) (takeIn js (performAll ops Ledger.empty)) ∧
        (takeIn js (performAll ops Archive.empty)).nextId ≤ UInt64.size := by
    rintro js ⟨later, heq⟩
    rw [← heq, operationsOf_append, ← List.append_assoc] at hfits
    obtain ⟨-, hmirrors, hroom⟩ := Fits.takeIn hfits.of_append
    exact ⟨hmirrors, Nat.le_of_lt hroom⟩
  have hfront' : registered <+: is := (List.prefix_append registered calls).trans hfront
  obtain ⟨hregistered, -⟩ := hmirrors registered (hfront'.trans (List.prefix_append is is))
  obtain ⟨hcalls, -⟩ := hmirrors (registered ++ calls) (hfront.trans (List.prefix_append is is))
  obtain ⟨honce, hroom⟩ := hmirrors is (List.prefix_append is is)
  obtain ⟨hboth, -⟩ := hmirrors (is ++ registered) ((List.prefix_append_right_inj is).mpr hfront')
  obtain ⟨hagain, hroom'⟩ := hmirrors (is ++ is) List.prefix_rfl
  rw [takeIn_append, takeIn_append] at hcalls hboth hagain
  rw [takeIn_append] at hroom'
  obtain ⟨added, hcount, hunharmed⟩ := hledger.unharmed
  constructor
  · rw [hboth.resolveNode_eq, hledger.resolveNode_eq, hregistered.resolveNode_eq]
  · refine ⟨added, ?_, honce.unharmed hagain hroom hroom' hunharmed⟩
    refine hcalls.edgeCount_eq.trans (hcount.trans ?_)
    exact congrArg (· + added) hregistered.edgeCount_eq.symm

/-! ## Runs -/

namespace Ingest

/-- All passes, in their order. -/
def allPasses : List Pass := [.files, .functions, .edges, .complexity]

/-- What passes bring that are run on a file system one after another. -/
def intakesOf (w : Workshop) (entries : List SourceEntry) (fs : FileSystem) (passes : List Pass) :
    List Intake :=
  passes.flatMap fun pass => passIntakes w pass entries fs

variable {σ : Type} [GraphStore σ]

/-- Runs passes one after another. One that does not return is the last. -/
def inTurn (w : Workshop) (entries : List SourceEntry) :
    List Pass → Site σ → Site σ × Except CollaboratorError (List BatchReport)
  | [], site => (site, .ok [])
  | pass :: passes, site =>
    match index w pass entries site with
    | (site, .error e) => (site, .error e)
    | (site, .ok report) =>
      let (site, reports) := inTurn w entries passes site
      (site, reports.map (report :: ·))

/-- Where all passes are run again: their store as it is then, and the files. -/
def againAt (w : Workshop) (entries : List SourceEntry) (site : Site σ) (files : FileSystem)
    (log : List Event) : Site σ :=
  ⟨(inTurn w entries allPasses site).1.store, files, log⟩

/-- What a second run of all passes comes to, from `next`, where the store is that of a first run
from `site`. -/
structure RunsAgain {φ : Type} (file : String → σ → Option φ) (w : Workshop)
    (entries : List SourceEntry) (site next : Site σ) : Prop where
  /-- It returns, with the same reports. -/
  result_eq : (inTurn w entries allPasses next).2 = (inTurn w entries allPasses site).2
  /-- Nothing is different but the count of calls. It grows as it did when calls were entered for
  the first time. -/
  unharmed : ∃ added,
    GraphStore.edgeCount
        (indexEdges w entries (inTurn w entries [.files, .functions] site).1).1.store =
      GraphStore.edgeCount (inTurn w entries [.files, .functions] site).1.store + added ∧
      Unharmed file next.store (inTurn w entries allPasses next).1.store added
  walk_eq : ∀ origin,
    walk (inTurn w entries allPasses next).1.store origin = walk next.store origin
  /-- The same is drawn, and written to the same file. -/
  draw_eq : ∀ format function depth artifact files log,
    draw format function depth artifact ⟨(inTurn w entries allPasses next).1.store, files, log⟩ =
      (draw format function depth artifact ⟨next.store, files, log⟩).map
        (Site.map fun _ => (inTurn w entries allPasses next).1.store) id

section Turn

variable {w : Workshop} {entries : List SourceEntry} {Kept : FileSystem → Prop}
  {pass : Pass} {passes : List Pass} {site next : Site σ}

theorem inTurn_cons_of_returns {report : BatchReport}
    (h : (index w pass entries site).2 = .ok report) :
    inTurn w entries (pass :: passes) site =
      (inTurn w entries passes (index w pass entries site).1).map id
        (Except.map (report :: ·)) := by
  rw [inTurn]
  generalize index w pass entries site = x at h
  obtain ⟨after, result⟩ := x
  cases h
  rfl

/-- If passes return, the first does and the others do behind it. -/
theorem returns_of_inTurn_cons {reports : List BatchReport}
    (h : (inTurn w entries (pass :: passes) site).2 = .ok reports) :
    ∃ report rest, (index w pass entries site).2 = .ok report ∧
      (inTurn w entries passes (index w pass entries site).1).2 = .ok rest ∧
        reports = report :: rest := by
  cases hreport : (index w pass entries site).2 with
  | error e =>
      rw [inTurn] at h
      generalize index w pass entries site = x at h hreport
      obtain ⟨after, result⟩ := x
      cases hreport
      cases h
  | ok report =>
      rw [inTurn_cons_of_returns hreport, Prod.map_snd] at h
      cases hrest : (inTurn w entries passes (index w pass entries site).1).2 with
      | error e =>
          rw [hrest] at h
          cases h
      | ok rest =>
          rw [hrest] at h
          exact ⟨report, rest, rfl, rfl, (Except.ok.inj h).symm⟩

/-- Passes that return enter one after another what they bring. -/
theorem store_inTurn (hrepeat : ∀ pass ∈ passes, Repeatable w pass entries Kept)
    {fs : FileSystem} (hfs : Kept fs) (hkept : Kept site.files) {reports : List BatchReport}
    (hreturns : (inTurn w entries passes site).2 = .ok reports) :
    (inTurn w entries passes site).1.store = takeIn (intakesOf w entries fs passes) site.store ∧
      Kept (inTurn w entries passes site).1.files := by
  induction passes generalizing site reports with
  | nil => exact ⟨rfl, hkept⟩
  | cons pass passes ih =>
      obtain ⟨hpass, hpasses⟩ := List.forall_mem_cons.mp hrepeat
      obtain ⟨report, rest, hreport, hrest, -⟩ := returns_of_inTurn_cons hreturns
      obtain ⟨hstore, hleft⟩ := ih hpasses (hpass.kept_index hkept) hrest
      rw [inTurn_cons_of_returns hreport, Prod.map_fst, id, hstore, store_index,
        hpass.passIntakes_eq hkept hfs, ← takeIn_append]
      exact ⟨rfl, hleft⟩

theorem returns_of_inTurn_append {earlier later : List Pass} {reports : List BatchReport}
    (h : (inTurn w entries (earlier ++ later) site).2 = .ok reports) :
    ∃ front, (inTurn w entries earlier site).2 = .ok front := by
  induction earlier generalizing site reports with
  | nil => exact ⟨[], rfl⟩
  | cons pass earlier ih =>
      obtain ⟨report, rest, hreport, hrest, -⟩ := returns_of_inTurn_cons h
      obtain ⟨front, hfront⟩ := ih hrest
      exact ⟨report :: front, by rw [inTurn_cons_of_returns hreport, Prod.map_snd, hfront]; rfl⟩

/-- Passes report the same again if names stand for the same when calls are read. -/
theorem result_inTurn_again (hnames : KeepsNames σ)
    (hrepeat : ∀ pass, Repeatable w pass entries Kept) {fs : FileSystem} (hfs : Kept fs)
    (hkept : Kept site.files) (hkept' : Kept next.files)
    (hresolve : ∀ earlier later, passes = earlier ++ .edges :: later →
      resolveNode (takeIn (intakesOf w entries fs earlier) site.store) =
        resolveNode (takeIn (intakesOf w entries fs earlier) next.store))
    {reports : List BatchReport} (hreturns : (inTurn w entries passes site).2 = .ok reports) :
    (inTurn w entries passes next).2 = .ok reports := by
  induction passes generalizing site next reports with
  | nil => exact hreturns
  | cons pass passes ih =>
      obtain ⟨report, rest, hreport, hrest, rfl⟩ := returns_of_inTurn_cons hreturns
      -- the stores in which calls are read are those behind the passes before
      have hagain := (hrepeat pass).result_again hnames hkept hkept'
        (fun hedges => hresolve [] passes (congrArg (· :: passes) hedges)) hreport
      have hstores : ∀ earlier later, passes = earlier ++ .edges :: later →
          resolveNode (takeIn (intakesOf w entries fs earlier)
              (index w pass entries site).1.store) =
            resolveNode (takeIn (intakesOf w entries fs earlier)
              (index w pass entries next).1.store) := by
        intro earlier later heq
        have hnext := hresolve (pass :: earlier) later (congrArg (pass :: ·) heq)
        rw [store_index, store_index, (hrepeat pass).passIntakes_eq hkept hfs,
          (hrepeat pass).passIntakes_eq hkept' hfs, ← takeIn_append, ← takeIn_append]
        exact hnext
      rw [inTurn_cons_of_returns hagain, Prod.map_snd,
        ih ((hrepeat pass).kept_index hkept) ((hrepeat pass).kept_index hkept') hstores hrest]
      rfl

end Turn

/-- A drawing asks for the node of a name and for callees. -/
theorem draw_congr {store other : σ}
    (hlookup : ∀ name, GraphStore.lookup? name store = GraphStore.lookup? name other)
    (hchildren : ∀ n, GraphStore.children n store = GraphStore.children n other)
    (format : TreeFormat) (function : String) (depth : Nat) (artifact : String)
    (files : FileSystem) (log : List Event) :
    draw format function depth artifact ⟨store, files, log⟩ =
      (draw format function depth artifact ⟨other, files, log⟩).map
        (Site.map fun _ => store) id := by
  have horigin : Origin.resolve? store function depth = Origin.resolve? other function depth := by
    rw [Origin.resolve?, resolveNode, hlookup]
    rfl
  rw [draw, draw, horigin]
  cases Origin.resolve? other function depth with
  | none => rfl
  | some origin =>
      simp only [walk_congr hchildren origin]
      cases files.write artifact [] with
      | mk files result =>
          cases result with
          | error e => rfl
          | ok u =>
              dsimp only
              split <;> rfl

section Run

variable {w : Workshop} {entries : List SourceEntry} {Kept : FileSystem → Prop}

/-- All passes run again as their intakes are taken again. -/
theorem RunsAgain.of_takesAgain {φ : Type} {file : String → σ → Option φ} {site next : Site σ}
    (hnames : KeepsNames σ) (hrepeat : ∀ pass, Repeatable w pass entries Kept)
    (hkept : Kept site.files) (hkept' : Kept next.files) {reports : List BatchReport}
    (hreturns : (inTurn w entries allPasses site).2 = .ok reports)
    (hnext : next.store = (inTurn w entries allPasses site).1.store)
    (htakes : TakesAgain file (intakesOf w entries site.files [.files, .functions])
      (passIntakes w .edges entries site.files) (intakesOf w entries site.files allPasses)
      site.store) :
    RunsAgain file w entries site next := by
  have honce := (store_inTurn (fun pass _ => hrepeat pass) hkept hkept hreturns).1
  have hresult : (inTurn w entries allPasses next).2 = .ok reports := by
    refine result_inTurn_again hnames hrepeat hkept hkept hkept' ?_ hreturns
    intro earlier later heq
    have hearlier : earlier = [.files, .functions] := by
      rcases earlier with _ | ⟨_, _ | ⟨_, _ | ⟨_, _ | ⟨_, _⟩⟩⟩⟩ <;> simp_all [allPasses]
    rw [hearlier, hnext, honce]
    exact htakes.resolveNode_eq.symm
  have hagain := (store_inTurn (fun pass _ => hrepeat pass) hkept hkept' hresult).1
  rw [hnext, honce] at hagain
  have hfront : (inTurn w entries ([.files, .functions] ++ [.edges, .complexity]) site).2 =
      .ok reports := hreturns
  obtain ⟨front, hfront⟩ := returns_of_inTurn_append hfront
  obtain ⟨hbefore, hleft⟩ := store_inTurn (fun pass _ => hrepeat pass) hkept hkept hfront
  -- the calls of the first run, read on the files that the passes before have left
  have hcalls : (indexEdges w entries (inTurn w entries [.files, .functions] site).1).1.store =
      takeIn (passIntakes w .edges entries site.files)
        (takeIn (intakesOf w entries site.files [.files, .functions]) site.store) := by
    rw [← hbefore, ← (hrepeat .edges).passIntakes_eq hleft hkept]
    exact store_index w .edges entries _
  obtain ⟨added, hcount, hunharmed⟩ := htakes.unharmed
  rw [← hagain, ← honce, ← hnext] at hunharmed
  refine ⟨hresult.trans hreturns.symm, ⟨added, ?_, hunharmed⟩,
    walk_congr hunharmed.children_eq, draw_congr hunharmed.lookup_eq hunharmed.children_eq⟩
  rw [hcalls, hbefore, hcount]

/-- **All passes run again as they did**, over a ledger, and over an archive that has room for what
they enter twice. The second run may begin where the first ended, or on any other file system that
the passes cannot tell from it. -/
theorem indexAll_again (hrepeat : ∀ pass, Repeatable w pass entries Kept) {files : FileSystem}
    (hkept : Kept files) (log : List Event) :
    (∀ l : Ledger, let site : Site Ledger := ⟨l, files, log⟩
      (∃ reports, (inTurn w entries allPasses site).2 = .ok reports) →
        Kept (inTurn w entries allPasses site).1.files ∧
        ∀ again log', Kept again →
          RunsAgain Ledger.file? w entries site (againAt w entries site again log')) ∧
      ∀ ops, let site : Site Archive := ⟨performAll ops .empty, files, log⟩
        Archive.Fits (ops ++ operationsOf (intakesOf w entries files allPasses ++
          intakesOf w entries files allPasses) site.store) →
        (∃ reports, (inTurn w entries allPasses site).2 = .ok reports) →
          Kept (inTurn w entries allPasses site).1.files ∧ ∀ again log', Kept again →
            RunsAgain Archive.file? w entries site (againAt w entries site again log') := by
  have hintakes : intakesOf w entries files allPasses =
      passIntakes w .files entries files ++ passIntakes w .functions entries files ++
        (passIntakes w .edges entries files ++ passIntakes w .complexity entries files) := by
    simp [intakesOf, allPasses]
  have hfront : intakesOf w entries files [.files, .functions] =
      passIntakes w .files entries files ++ passIntakes w .functions entries files := by
    simp [intakesOf]
  have hledger : ∀ l : Ledger, TakesAgain Ledger.file?
      (intakesOf w entries files [.files, .functions]) (passIntakes w .edges entries files)
      (intakesOf w entries files allPasses) l := by
    rw [hintakes, hfront]
    exact Ledger.takesAgain (fun _ => pass_of_mem_passIntakes) (fun _ => pass_of_mem_passIntakes)
      (fun _ => pass_of_mem_passIntakes) fun _ => pass_of_mem_passIntakes
  constructor
  · rintro l site ⟨reports, hreturns⟩
    exact ⟨(store_inTurn (fun pass _ => hrepeat pass) hkept hkept hreturns).2,
      fun again log' hagain =>
      .of_takesAgain Ledger.keepsNames hrepeat hkept hagain hreturns rfl (hledger l)⟩
  · rintro ops site hfits ⟨reports, hreturns⟩
    have hprefix : intakesOf w entries files [.files, .functions] ++
        passIntakes w .edges entries files <+: intakesOf w entries files allPasses := by
      rw [hintakes, hfront, ← List.append_assoc]
      exact List.prefix_append _ _
    exact ⟨(store_inTurn (fun pass _ => hrepeat pass) hkept hkept hreturns).2,
      fun again log' hagain =>
      .of_takesAgain Archive.keepsNames hrepeat hkept hagain hreturns rfl
        (Archive.takesAgain hprefix hfits (hledger (performAll ops Ledger.empty)))⟩

end Run

theorem indexAll_again_sample :
    let entries := sampleEntries.take 3
    let is := intakesOf loggingWorkshop entries loggedFiles allPasses
    let once := inTurn loggingWorkshop entries allPasses loggedSite
    Archive.Fits ([.registerFunction firstMain] ++ operationsOf (is ++ is) loggedSite.store) ∧
      once.2 = .ok [⟨2, 1, 0⟩, ⟨2, 1, 0⟩, ⟨1, 1, 1⟩, ⟨2, 1, 0⟩] ∧
      RunsAgain Archive.file? loggingWorkshop entries loggedSite
        (againAt loggingWorkshop entries loggedSite once.1.files []) := by
  -- decided together, so that what the passes ask is worked out once
  have hruns : Archive.Fits ([.registerFunction firstMain] ++ operationsOf
      (intakesOf loggingWorkshop (sampleEntries.take 3) loggedFiles allPasses ++
        intakesOf loggingWorkshop (sampleEntries.take 3) loggedFiles allPasses)
      loggedSite.store) ∧
      (inTurn loggingWorkshop (sampleEntries.take 3) allPasses loggedSite).2 =
        .ok [⟨2, 1, 0⟩, ⟨2, 1, 0⟩, ⟨1, 1, 1⟩, ⟨2, 1, 0⟩] := by
    decide +kernel
  obtain ⟨hfits, hreturns⟩ := hruns
  have hrepeat : ∀ pass, Repeatable loggingWorkshop pass (sampleEntries.take 3) _ := fun pass =>
    (repeatable_of_apart rfl rfl apart_loggedFiles pass).of_subset (List.take_subset 3 _)
  obtain ⟨hleft, hagain⟩ := (indexAll_again hrepeat (.refl _ _ _) []).2
    [.registerFunction firstMain] hfits ⟨_, hreturns⟩
  exact ⟨hfits, hreturns, hagain _ [] hleft⟩

end Ingest

end CallForest
