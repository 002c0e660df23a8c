import CallForest.Proofs.Ingest.Definitions
import CallForest.Proofs.Ingest.Programs

/-!
# The line numbers of records

The extractor is given a scratch copy, and the line of a record is one of the copy: if the program
lists each definition at the line where the text that it is given has it, a record that the function
pass makes has the line of a definition in the copy of its source, as the source was when it was its
turn (`LinesOfCopies`, `index_linesOfCopies`).

Without a prelude that is a line of the source. With one it need not be: the lines of the source
come later in the copy, and their numbers are not put right (`line_of_copy_not_source`).
-/

namespace CallForest

/-- At which lines of a text names are defined, lines being counted from 1. -/
abbrev Placement := Bytes → Nat → String → Prop

/-- Lines in front do not change what the lines behind them define, but how they are counted. -/
def Placement.CountsLines (definedAt : Placement) : Prop :=
  ∀ front text k name, 0 < k →
    (definedAt (front ++ 10 :: text) (front.count 10 + 1 + k) name ↔ definedAt text k name)

/-- A program lists a definition at a line exactly if the text that it is given has one there.
Numbers beyond 32 bits are not compared. -/
def ListsDefinitions (host : Host) (c : ExtractorConfig) (definedAt : Placement) : Prop :=
  ∀ fs copy text run, fs.read copy = .ok text →
    host c.program (c.xrefArgs ++ [copy]) c.timeout .files fs = .ok run → run.ending = .exited 0 →
      ∀ k < UInt32.size, ∀ name,
        (∃ d ∈ Xref.definitions (Utf8.decodeLossy run.output), d.line.toNat = k ∧ d.name = name) ↔
          definedAt text k name

/-- The records of an intake. -/
def Intake.records : Intake → List FunctionRecord
  | functions rs => rs
  | file _ | calls _ _ | measurements _ => []

namespace Ingest

/-- A function pass makes a record of a name that had none. -/
def Registers {σ : Type} [GraphStore σ] (w : Workshop) (entries : List SourceEntry) (site : Site σ)
    (record : FunctionRecord) : Prop :=
  GraphStore.lookup? record.name site.store = none ∧
    GraphStore.lookup? record.name (indexFunctions w entries site).1.store = some record

/-- A text that a listed file had when it was its turn in the function pass. -/
def HadText (w : Workshop) (entries : List SourceEntry) (files : FileSystem) (path : String)
    (text : Bytes) : Prop :=
  ∃ earlier entry later, entries = earlier ++ entry :: later ∧ entry.fullPath = path ∧
    (filesAfter (ask w .functions) earlier (probe w .functions files).files).read path = .ok text

/-- The lines of the records that a function pass makes. -/
structure LinesOfCopies {σ : Type} [GraphStore σ] (definedAt : Placement)
    (prelude : Option String) (w : Workshop) (entries : List SourceEntry) (site : Site σ) :
    Prop where
  /-- They are lines of the copies. -/
  line_of_copy : ∀ record, Registers w entries site record →
    ∃ text, HadText w entries site.files record.fullPath text ∧
      definedAt (Scratch.content prelude text) record.line.toNat record.name
  /-- Without a prelude they are lines of the sources. -/
  line_of_source : prelude = none → ∀ record, Registers w entries site record →
    ∃ text, HadText w entries site.files record.fullPath text ∧
      definedAt text record.line.toNat record.name
  /-- Behind a prelude they are too large by the number of its lines. -/
  line_behind_prelude : ∀ line, prelude = some line → definedAt.CountsLines →
    ∀ record, Registers w entries site record →
      (Utf8.encode line).count 10 + 1 < record.line.toNat →
      ∃ text, HadText w entries site.files record.fullPath text ∧
        definedAt text (record.line.toNat - ((Utf8.encode line).count 10 + 1)) record.name

/-! ## Where records come from -/

/-- What a program answers about a source, it answers about a copy of the source. -/
theorem exists_run_of_answer {host : Host} {spec : CommandSpec} {timeout : Option Nat}
    {prelude : Option String} {directory source listing : String} {fs : FileSystem}
    (h : (runOnCopy host spec timeout prelude directory source fs).answer = .ok listing) :
    ∃ text copy left run, fs.read source = .ok text ∧
      left.read copy = .ok (Scratch.content prelude text) ∧
      host spec.program (spec.args ++ [copy]) timeout .files left = .ok run ∧
      run.ending = .exited 0 ∧ listing = Utf8.decodeLossy run.output := by
  rw [runOnCopy] at h
  split at h
  · cases h
  · next left copy hcreate =>
    obtain ⟨text, hread, hcopy⟩ := Scratch.read_create hcreate
    rw [runProgram] at h
    dsimp only at h
    split at h
    · cases h
    · next run hrun =>
      split at h
      · next hending =>
        cases h
        exact ⟨text, copy, left, run, hread, hcopy, hrun, hending, rfl⟩
      · cases h
      · cases h

section Index

variable {c : Config} {host : Host} {scratch : String} {definedAt : Placement}
  {entries : List SourceEntry}

/-- A record that is read of a copy has a line of the copy. -/
theorem line_of_mem_records (hlists : ListsDefinitions host c.extractor definedAt)
    {files : FileSystem} {i : Intake}
    (hi : i ∈ passIntakes (c.workshop host scratch) .functions entries files)
    {record : FunctionRecord} (hrecord : record ∈ i.records) :
    ∃ text, HadText (c.workshop host scratch) entries files record.fullPath text ∧
      definedAt (Scratch.content c.extractor.prelude text) record.line.toNat record.name := by
  obtain ⟨earlier, entry, later, rfl, hask⟩ := exists_turn_of_mem_passIntakes hi
  have hread := ask_eq (c.workshop host scratch) .functions entry
    (filesAfter (ask (c.workshop host scratch) .functions) earlier
      (probe (c.workshop host scratch) .functions files).files)
  rw [show DumpKind.functions.pass = .functions from rfl, readReply] at hread
  rw [hread] at hask
  split at hask
  · cases hask
  · next listing hanswer =>
    cases hask
    obtain ⟨d, hd, rfl⟩ := List.mem_map.mp hrecord
    obtain ⟨text, copy, left, run, hsource, hcopy, hrun, hending, rfl⟩ :=
      exists_run_of_answer hanswer
    refine ⟨text, ⟨earlier, entry, later, rfl, rfl, hsource⟩, ?_⟩
    exact (hlists left copy _ run hcopy hrun hending _ d.line.toNat_lt _).mp ⟨d, hd, rfl, rfl⟩

/-- A function pass registers the records of its intakes. -/
theorem passOperations_eq_records {σ : Type} [GraphStore σ] (hkeeps : KeepsNames σ) (w : Workshop)
    (entries : List SourceEntry) (site : Site σ) :
    passOperations w .functions entries site =
      ((passIntakes w .functions entries site.files).flatMap Intake.records).map
        .registerFunction := by
  rw [passOperations_eq_flatMap hkeeps, List.map_flatMap]
  refine List.flatMap_congr fun i hi => ?_
  have hpass := pass_of_mem_passIntakes hi
  cases i with
  | functions rs => rfl
  | file record | calls skip listing | measurements ms => cases hpass

/-- It is enough that the records are found in the intakes of the pass. -/
theorem LinesOfCopies.of_mem_records {σ : Type} [GraphStore σ] {site : Site σ}
    (hlists : ListsDefinitions host c.extractor definedAt)
    (hmem : ∀ record, Registers (c.workshop host scratch) entries site record →
      record ∈ (passIntakes (c.workshop host scratch) .functions entries site.files).flatMap
        Intake.records) :
    LinesOfCopies definedAt c.extractor.prelude (c.workshop host scratch) entries site := by
  have hcopy : ∀ record, Registers (c.workshop host scratch) entries site record →
      ∃ text, HadText (c.workshop host scratch) entries site.files record.fullPath text ∧
        definedAt (Scratch.content c.extractor.prelude text) record.line.toNat record.name := by
    intro record hrecord
    obtain ⟨i, hi, hmem⟩ := List.mem_flatMap.mp (hmem record hrecord)
    exact line_of_mem_records hlists hi hmem
  constructor
  · exact hcopy
  · intro hnone record hrecord
    rw [hnone] at hcopy
    exact hcopy record hrecord
  · intro line hline hcounts record hrecord hbehind
    obtain ⟨text, htext, hdefined⟩ := hcopy record hrecord
    refine ⟨text, htext, (hcounts (Utf8.encode line) text _ record.name ?_).mp ?_⟩
    · omega
    · rw [hline] at hdefined
      rw [Nat.add_sub_cancel' (Nat.le_of_lt hbehind)]
      exact hdefined

/-- **The line of a record is a line of the scratch copy**, and so of the source if there is no
prelude: in every ledger, and in every archive that what is registered fits into. -/
theorem index_linesOfCopies (hlists : ListsDefinitions host c.extractor definedAt)
    (scratch : String) (entries : List SourceEntry) (files : FileSystem) (log : List Event) :
    (∀ l : Ledger, LinesOfCopies definedAt c.extractor.prelude (c.workshop host scratch) entries
        ⟨l, files, log⟩) ∧
      ∀ ops, let site : Site Archive := ⟨performAll ops .empty, files, log⟩
        Archive.Fits (ops ++ passOperations (c.workshop host scratch) .functions entries site) →
          LinesOfCopies definedAt c.extractor.prelude (c.workshop host scratch) entries site := by
  let rs := (passIntakes (c.workshop host scratch) .functions entries files).flatMap Intake.records
  constructor
  · intro l
    refine .of_mem_records hlists fun record ⟨hnone, hsome⟩ => ?_
    have hstore : (indexFunctions (c.workshop host scratch) entries ⟨l, files, log⟩).1.store =
        performAll (rs.map .registerFunction) l :=
      passOperations_eq_records Ledger.keepsNames (c.workshop host scratch) entries
          ⟨l, files, log⟩ ▸
        store_index_eq_performAll (c.workshop host scratch) .functions entries _
    have hfound : ((l.function? record.name).or (rs.find? fun r => r.name = record.name)) =
        some record := by
      rw [← l.function?_performAll_registerFunction]
      exact hstore ▸ hsome
    rw [show l.function? record.name = none from hnone, Option.none_or] at hfound
    exact List.mem_of_find?_eq_some hfound
  · intro ops site hfits
    refine .of_mem_records hlists fun record ⟨hnone, hsome⟩ => ?_
    have hstore : (indexFunctions (c.workshop host scratch) entries site).1.store =
        performAll (rs.map .registerFunction) site.store :=
      passOperations_eq_records Archive.keepsNames (c.workshop host scratch) entries site ▸
        store_index_eq_performAll (c.workshop host scratch) .functions entries _
    rw [passOperations_eq_records Archive.keepsNames] at hfits
    have hfound : ((site.store.function? record.name).or
        (rs.find? fun r => r.name = record.name)) = some record := by
      rw [← Archive.function?_performAll_registerFunction hfits]
      exact hstore ▸ hsome
    rw [show site.store.function? record.name = none from hnone, Option.none_or] at hfound
    exact List.mem_of_find?_eq_some hfound

end Index

/-! ## A program that lists one line -/

/-- The listing of a text: the numbers of the lines that declare `main`. -/
def mainListing (text : Bytes) : String :=
  String.join ((Text.numbered (text.splitOn 10)).map fun (k, line) =>
    if line = Utf8.encode "int main(void);" then s!"main * t:{k}\n" else "")

/-- A host with a program that lists the text of the file named last. -/
def listingHost : Host := fun _ args _ capture files =>
  match capture with
  | .pipes => .ok ⟨.exited 0, Utf8.encode "lister 1.0\n", [], files⟩
  | .files =>
    match files.read (args.getLastD "") with
    | .ok text => .ok ⟨.exited 0, Utf8.encode (mainListing text), [], files⟩
    | .error _ => .ok ⟨.exited 1, [], [], files⟩

/-- What it lists. -/
def mainAt : Placement := fun text k name =>
  ∃ d ∈ Xref.definitions (Utf8.decodeLossy (Utf8.encode (mainListing text))),
    d.line.toNat = k ∧ d.name = name

theorem listsDefinitions_listingHost (c : ExtractorConfig) :
    ListsDefinitions listingHost c mainAt := by
  intro fs copy text run hread hrun hending k _ name
  rw [listingHost, List.getLastD_concat, hread] at hrun
  cases hrun
  rfl

/-- The program as it is configured, with that prelude. -/
def listingConfig (prelude : Option String) : Config :=
  { Config.default with extractor := ⟨"lister", [], ["-x"], none, prelude⟩ }

/-- A source whose first line declares `main`. -/
def listedFiles : FileSystem :=
  ((FileSystem.ofRoot (.ofList [("src", .folder .nil)]) []).write "/src/a.c"
    (Utf8.encode "int main(void);\n")).1

def listedEntries : List SourceEntry := [.under "/src" "a.c"]

theorem index_linesOfCopies_sample :
    ListsDefinitions listingHost (listingConfig none).extractor mainAt ∧
      LinesOfCopies mainAt none ((listingConfig none).workshop listingHost "/") listedEntries
        (⟨.empty, listedFiles, []⟩ : Site Ledger) ∧
      Registers ((listingConfig none).workshop listingHost "/") listedEntries
        (⟨.empty, listedFiles, []⟩ : Site Ledger) ⟨"/src/a.c", "a.c", "main", 1, "", none⟩ := by
  have hlists := listsDefinitions_listingHost (listingConfig none).extractor
  have hlines : LinesOfCopies mainAt none ((listingConfig none).workshop listingHost "/")
      listedEntries (⟨.empty, listedFiles, []⟩ : Site Ledger) :=
    (index_linesOfCopies hlists "/" listedEntries listedFiles []).1 .empty
  exact ⟨hlists, hlines, by decide +kernel, by decide +kernel⟩

/-- The text of the one source. -/
theorem eq_of_hadText {prelude : Option String} {text : Bytes}
    (h : HadText ((listingConfig prelude).workshop listingHost "/") listedEntries listedFiles
      "/src/a.c" text) : text = Utf8.encode "int main(void);\n" := by
  obtain ⟨earlier, entry, later, hentries, -, hread⟩ := h
  cases earlier with
  | nil =>
      have htext : listedFiles.read "/src/a.c" = .ok (Utf8.encode "int main(void);\n") := by
        decide +kernel
      exact Except.ok.inj (hread.symm.trans htext)
  | cons e earlier => simp [listedEntries] at hentries

/-- **Behind a prelude the line of a record is not one of the source**, although the program lists
every definition where the text that it is given has it. -/
theorem line_of_copy_not_source :
    ¬∀ (c : Config) (host : Host) (scratch : String) (definedAt : Placement)
        (entries : List SourceEntry) (files : FileSystem) (record : FunctionRecord),
      ListsDefinitions host c.extractor definedAt →
      Registers (c.workshop host scratch) entries (⟨.empty, files, []⟩ : Site Ledger) record →
        ∃ text, HadText (c.workshop host scratch) entries files record.fullPath text ∧
          definedAt text record.line.toNat record.name := by
  intro h
  obtain ⟨text, htext, hdefined⟩ := h (listingConfig (some "#include <x.h>")) listingHost "/" mainAt
    listedEntries listedFiles ⟨"/src/a.c", "a.c", "main", 2, "", none⟩
    (listsDefinitions_listingHost _) ⟨by decide +kernel, by decide +kernel⟩
  rw [eq_of_hadText htext] at hdefined
  -- the program lists the first line of the source, and no other
  have hfirst : Xref.definitions (Utf8.decodeLossy (Utf8.encode (mainListing
      (Utf8.encode "int main(void);\n")))) = [⟨"main", 1, ""⟩] := by decide +kernel
  rw [mainAt, hfirst] at hdefined
  obtain ⟨d, hd, hline, -⟩ := hdefined
  cases List.mem_singleton.mp hd
  cases hline

end Ingest

end CallForest
