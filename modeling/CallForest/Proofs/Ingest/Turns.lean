import CallForest.Ingest
import CallForest.Proofs.Graph.Operation

/-!
# The turns of a pass

A pass gives every listed file its turn. A file that is not there is passed over. For one that is
there a collaborator is asked, or the file itself is read, and what comes of it is an `Intake`: what
is to be entered into the store. It is entered by operations on the store that depend on nothing but
the intake and on what names stand for.

What comes of asking depends on the file system alone, so the turns of a pass are known without its
store (`turns`), and so are the intakes that it enters (`passIntakes`).
-/

namespace CallForest

/-- What is read of a file, ready to be entered into a store. -/
inductive Intake where
  | file (record : FileRecord)
  | functions (records : List FunctionRecord)
  /-- A listing of calls, and the names that make no edges unless they are registered. -/
  | calls (skip : List String) (listing : String)
  | measurements (ms : List Report.Measurement)
  deriving DecidableEq, Repr

namespace Intake

/-- The operations that enter an intake, names standing for the nodes that `resolve` gives them. -/
def operations (resolve : String → Option Node) : Intake → List StoreOperation
  | file record => [.registerFile record]
  | functions records => records.map .registerFunction
  | calls skip listing => (reconstruct resolve skip listing).edges.map .recordEdge
  | measurements ms => ms.map fun m => .updateComplexity m.name m.metrics

/-- Why a file is given up although something was read of it, if it is. -/
def failure (resolve : String → Option Node) : Intake → Option ReconstructError
  | calls skip listing => (reconstruct resolve skip listing).failure
  | file _ | functions _ | measurements _ => none

variable {σ : Type} [GraphStore σ]

/-- Enters an intake, also that of a file that is given up. -/
def enter (i : Intake) (store : σ) : σ :=
  performAll (i.operations (resolveNode store)) store

/-- Whether a file is handled with its intake, or given up. -/
def verdict (i : Intake) (store : σ) : Except IngestError Unit :=
  match i.failure (resolveNode store) with
  | none => .ok ()
  | some e => .error (.reconstruct e)

/-- Enters intakes one after another. -/
def takeIn : List Intake → σ → σ
  | [], store => store
  | i :: is, store => takeIn is (i.enter store)

/-- How many of the files are handled whose intakes are entered one after another. -/
def finished : List Intake → σ → Nat
  | [], _ => 0
  | i :: is, store =>
    (if (i.failure (resolveNode store)).isNone then 1 else 0) + finished is (i.enter store)

theorem takeIn_append (is js : List Intake) (store : σ) :
    takeIn (is ++ js) store = takeIn js (takeIn is store) := by
  induction is generalizing store with
  | nil => rfl
  | cons i is ih => exact ih _

theorem finished_append (is js : List Intake) (store : σ) :
    finished (is ++ js) store = finished is store + finished js (takeIn is store) := by
  induction is generalizing store with
  | nil => exact (Nat.zero_add _).symm
  | cons i is ih =>
      rw [List.cons_append, finished, ih, finished, takeIn]
      omega

/-- The operations that enter intakes one after another. -/
def operationsOf : List Intake → σ → List StoreOperation
  | [], _ => []
  | i :: is, store => i.operations (resolveNode store) ++ operationsOf is (i.enter store)

theorem operationsOf_append (is js : List Intake) (store : σ) :
    operationsOf (is ++ js) store = operationsOf is store ++ operationsOf js (takeIn is store) := by
  induction is generalizing store with
  | nil => rfl
  | cons i is ih =>
      rw [List.cons_append, operationsOf, ih, operationsOf, List.append_assoc]
      rfl

theorem takeIn_eq_performAll (is : List Intake) (store : σ) :
    takeIn is store = performAll (operationsOf is store) store := by
  induction is generalizing store with
  | nil => rfl
  | cons i is ih =>
      rw [takeIn, ih, operationsOf, performAll_append]
      rfl

/-- The intake of a listing is entered by rebuilding the listing, which depends on no other. -/
theorem enter_calls (skip : List String) (listing : String) (store : σ) :
    (calls skip listing).enter store = (rebuild skip listing store).1 :=
  performAll_recordEdge (reconstruct (resolveNode store) skip listing).edges store

end Intake

/-- What asks for a file: it gives the files that are left, and the intake or why there is none. -/
abbrev Asking := SourceEntry → FileSystem → FileSystem × Except IngestError Intake

/-- How many files a report counts. -/
def BatchReport.total (report : BatchReport) : Nat :=
  report.processed + report.skipped + report.failed

theorem BatchReport.eq_of_total_eq {one other : BatchReport} (htotal : one.total = other.total)
    (hprocessed : one.processed = other.processed) (hskipped : one.skipped = other.skipped) :
    one = other := by
  obtain ⟨processed, skipped, failed⟩ := one
  obtain ⟨_, _, _⟩ := other
  cases hprocessed
  cases hskipped
  cases Nat.add_left_cancel htotal
  rfl

/-- What became of a listed file. -/
structure Turn where
  entry : SourceEntry
  /-- What came of asking for the file; `none` if it was not there. -/
  reply : Option (Except IngestError Intake)

namespace Turn

/-- Whether the file was not there. -/
def isAbsent (t : Turn) : Bool := t.reply.isNone

/-- The intake of the file, if there is one. -/
def intake? (t : Turn) : Option Intake :=
  match t.reply with
  | some (.ok i) => some i
  | some (.error _) | none => none

/-- Why the pass ends with this turn, if it does: the collaborator cannot be started. -/
def fatal? (t : Turn) : Option CollaboratorError :=
  match t.reply with
  | some (.error (.collaborator (.missing program cause))) => some (.missing program cause)
  | _ => none

variable {σ : Type} [GraphStore σ]

/-- Counts a turn that meets a store. -/
def count (t : Turn) (store : σ) (report : BatchReport) : BatchReport :=
  match t.reply with
  | none => { report with skipped := report.skipped + 1 }
  | some (.error _) => { report with failed := report.failed + 1 }
  | some (.ok i) =>
    match i.failure (resolveNode store) with
    | none => { report with processed := report.processed + 1 }
    | some _ => { report with failed := report.failed + 1 }

theorem total_count (t : Turn) (store : σ) (report : BatchReport) :
    (t.count store report).total = report.total + 1 := by
  unfold count BatchReport.total
  split
  · show report.processed + (report.skipped + 1) + report.failed = _
    omega
  · rfl
  · split
    · show report.processed + 1 + report.skipped + report.failed = _
      omega
    · rfl

theorem skipped_count (t : Turn) (store : σ) (report : BatchReport) :
    (t.count store report).skipped = report.skipped + if t.isAbsent then 1 else 0 := by
  unfold count isAbsent
  split
  · next h => rw [h, Option.isNone_none, if_pos rfl]
  · next h =>
    rw [h]
    rfl
  · next h =>
    rw [h]
    split <;> rfl

theorem processed_count (t : Turn) (store : σ) (report : BatchReport) :
    (t.count store report).processed =
      report.processed + Intake.finished t.intake?.toList store := by
  unfold count intake?
  split
  · next h =>
    rw [h]
    rfl
  · next h =>
    rw [h]
    rfl
  · next i h =>
    rw [h, Option.toList_some, Intake.finished, Intake.finished]
    split
    · next hnone =>
      rw [hnone]
      rfl
    · next hsome =>
      rw [hsome]
      rfl

end Turn

/-- The intakes of turns, in order. -/
def intakes (ts : List Turn) : List Intake :=
  ts.filterMap Turn.intake?

/-- The turn of a file, and the files that it leaves. -/
def takeTurn (ask : Asking) (entry : SourceEntry) (fs : FileSystem) : Turn × FileSystem :=
  if entry.isPresent fs then (⟨entry, some (ask entry fs).2⟩, (ask entry fs).1)
  else (⟨entry, none⟩, fs)

/-- The turns of listed files, if no turn ends the pass. -/
def turns (ask : Asking) : List SourceEntry → FileSystem → List Turn
  | [], _ => []
  | entry :: entries, fs =>
    (takeTurn ask entry fs).1 :: turns ask entries (takeTurn ask entry fs).2

/-- The turns before the first that ends the pass. -/
def turnsBeforeEnd (ts : List Turn) : List Turn :=
  ts.takeWhile fun t => t.fatal?.isNone

/-- The files that the turns of listed files leave. A turn that ends the pass is the last. -/
def filesAfter (ask : Asking) : List SourceEntry → FileSystem → FileSystem
  | [], fs => fs
  | entry :: entries, fs =>
    match (takeTurn ask entry fs).1.fatal? with
    | some _ => (takeTurn ask entry fs).2
    | none => filesAfter ask entries (takeTurn ask entry fs).2

section Append

variable {ask : Asking} {before : List SourceEntry} {fs : FileSystem}

theorem turns_append (h : ∀ t ∈ turns ask before fs, t.fatal? = none)
    (rest : List SourceEntry) :
    turns ask (before ++ rest) fs =
      turns ask before fs ++ turns ask rest (filesAfter ask before fs) := by
  induction before generalizing fs with
  | nil => rfl
  | cons entry before ih =>
      obtain ⟨hturn, hturns⟩ := List.forall_mem_cons.mp h
      rw [List.cons_append, turns, ih hturns, turns, List.cons_append, filesAfter, hturn]

theorem filesAfter_append (h : ∀ t ∈ turns ask before fs, t.fatal? = none)
    (rest : List SourceEntry) :
    filesAfter ask (before ++ rest) fs = filesAfter ask rest (filesAfter ask before fs) := by
  induction before generalizing fs with
  | nil => rfl
  | cons entry before ih =>
      obtain ⟨hturn, hturns⟩ := List.forall_mem_cons.mp h
      simp only [List.cons_append, filesAfter, hturn]
      exact ih hturns

end Append

theorem intakes_cons (t : Turn) (ts : List Turn) :
    intakes (t :: ts) = t.intake?.toList ++ intakes ts := by
  rw [intakes, List.filterMap_cons]
  cases t.intake? <;> rfl

/-- The intake of a turn came of asking for the file. -/
theorem ask_of_intake? {ask : Asking} {entry : SourceEntry} {fs : FileSystem} {i : Intake}
    (h : (takeTurn ask entry fs).1.intake? = some i) : (ask entry fs).2 = .ok i := by
  rw [takeTurn] at h
  split at h
  · unfold Turn.intake? at h
    split at h
    · next hreply =>
      cases h
      exact Option.some.inj hreply
    · cases h
    · cases h
  · cases h

/-- Every intake came of asking for a listed file when it was its turn. -/
theorem exists_turn_of_mem_intakes {ask : Asking} {entries : List SourceEntry} {fs : FileSystem}
    {i : Intake} (h : i ∈ intakes (turnsBeforeEnd (turns ask entries fs))) :
    ∃ earlier entry later, entries = earlier ++ entry :: later ∧
      (ask entry (filesAfter ask earlier fs)).2 = .ok i := by
  induction entries generalizing fs with
  | nil => cases h
  | cons entry entries ih =>
      rw [turns, turnsBeforeEnd, List.takeWhile_cons] at h
      split at h
      · next hgoes =>
        rw [intakes_cons] at h
        rcases List.mem_append.mp h with h | h
        · exact ⟨[], entry, entries, rfl, ask_of_intake? (Option.mem_toList.mp h)⟩
        · obtain ⟨earlier, e, later, rfl, hask⟩ := ih h
          refine ⟨entry :: earlier, e, later, rfl, ?_⟩
          rw [filesAfter, Option.isNone_iff_eq_none.mp hgoes]
          exact hask
      · cases h

/-! ## The passes -/

namespace Ingest

/-- What comes of a collaborator's reply: its output is kept and read. -/
def readReply (w : Workshop) (kind : DumpKind) (entry : SourceEntry) (read : String → Intake)
    (reply : Reply String) : FileSystem × Except IngestError Intake :=
  match reply.answer with
  | .error e => (reply.files, .error (.collaborator e))
  | .ok text => ((w.logDirectory.dump kind entry.shortPath text reply.files).1, .ok (read text))

theorem exists_read_of_readReply {w : Workshop} {kind : DumpKind} {entry : SourceEntry}
    {read : String → Intake} {reply : Reply String} {i : Intake}
    (h : (readReply w kind entry read reply).2 = .ok i) : ∃ text, i = read text := by
  unfold readReply at h
  split at h
  · cases h
  · next text _ =>
    cases h
    exact ⟨text, rfl⟩

/-- Reads a file to count its lines. -/
def askFile : Asking := fun entry fs =>
  (fs, match fs.read entry.fullPath with
    | .error e => .error (.io entry.fullPath e)
    | .ok content =>
      .ok (.file ⟨entry.fullPath, entry.shortPath, UInt64.ofNat (lineCount content), entry.name⟩))

/-- How a pass asks for a file. -/
def ask (w : Workshop) (pass : Pass) : Asking := fun entry fs =>
  match pass with
  | .files => askFile entry fs
  | .functions =>
    readReply w .functions entry
      (fun listing => .functions ((Xref.definitions listing).map (recordOf entry)))
      (w.extractor.listing .crossReference entry.fullPath fs)
  | .edges =>
    readReply w .edges entry (.calls w.skip) (w.extractor.listing .callTree entry.fullPath fs)
  | .complexity =>
    readReply w .complexity entry (fun report => .measurements (Report.measurements report))
      (w.analyzer.report entry.fullPath fs)

/-- What a pass finds out before the first turn. The pass over the files themselves needs nobody. -/
def probe (w : Workshop) : Pass → FileSystem → Reply String
  | .files, fs => ⟨fs, [], .ok ""⟩
  | .functions, fs | .edges, fs => w.extractor.probe fs
  | .complexity, fs => w.analyzer.probe fs

/-- The turns of a pass, if its collaborator can be run and no turn ends it. -/
def passTurns (w : Workshop) (pass : Pass) (entries : List SourceEntry) (fs : FileSystem) :
    List Turn :=
  turns (ask w pass) entries (probe w pass fs).files

/-- The intakes that a pass enters. -/
def passIntakes (w : Workshop) (pass : Pass) (entries : List SourceEntry) (fs : FileSystem) :
    List Intake :=
  match (probe w pass fs).answer with
  | .error _ => []
  | .ok _ => intakes (turnsBeforeEnd (passTurns w pass entries fs))

/-! ## A sample -/

/-- An extractor that makes a listing that is malformed in the middle, and knows nothing of some
files. -/
def sampleListing : ListingKind → String → Except CollaboratorError String
  | .callTree, "/src/a.c" => .ok "main()\n    run()\n"
  | .callTree, "/src/b.c" => .ok "stop()\n    exit()\n"
  | .callTree, "/src/bad.c" => .ok "run()\n    stop()\n  half()\n    main()\n"
  | .crossReference, "/src/a.c" => .ok "main * a.c:3 int main (void)\nrun   a.c:5\n"
  | .crossReference, "/src/bad.c" => .ok "run * bad.c:7 void run (void)\nstop * bad.c\n"
  | _, source => .error (.failed "cflow" source (some 1) "no listing")

/-- Canned collaborators. -/
def sampleWorkshop : Workshop where
  extractor := .canned (.ok "cflow 1.7") sampleListing
  analyzer := .canned (.ok "lizard 1.17") fun _ => .ok "9,3,50,1,12,l,f,main,main( void),3,9\n"
  skip := ["exit"]
  logDirectory := ⟨"/log", false⟩

/-- A directory with all listed files but one, a line in each. -/
def sampleFiles : FileSystem :=
  let file : StoredFile := ⟨Utf8.encode "int main(void);\n", Mode.ofFile, 0⟩
  { FileSystem.ofRoot (.ofList [("src", .folder (.ofList
      [("a.c", .file 0), ("b.c", .file 1), ("bad.c", .file 2), ("dead.c", .file 3)]))]) [] with
    stored := #[file, file, file, file] }

def sampleEntries : List SourceEntry :=
  ["a.c", "gone.c", "bad.c", "dead.c", "b.c"].map (SourceEntry.under "/src")

/-- A pass begins here with the ledger empty. -/
def sampleSite : Site Ledger := ⟨.empty, sampleFiles, []⟩

end Ingest

end CallForest
