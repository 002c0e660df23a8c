import CallForest.Proofs.Cli.Runs
import CallForest.Proofs.Files.DumpPaths
import CallForest.Proofs.Ingest.ReadOnly
import Mathlib.Data.List.Find

/-!
# Runs where everything has its place

A run has opened its store, so the directories that it writes to are there, and the log. All that
its stages write goes to files that are known beforehand, or to places where nothing was; and none
of that is read but the image of the store. If the programs leave files alone as well, and make of
a file what depends on its content alone, runs behind it can go on (`Settled.continues`).

Nothing needs to be there before the first of them, so they may begin in a directory that holds
nothing but sources and their list.
-/

namespace CallForest.Cli

open FileSystem (Rewritten Spares SparesBelow LeadsInto)
open Ingest

/-- All that runs with these options write, from the stages of the first one on, goes to the files
of those numbers and to those places, where nothing was. Only the image is read again. -/
structure Settled (host : Host) (o : Options) (c : Config) (numbers : List Nat)
    (places : List (List String)) (fs : FileSystem) : Prop where
  config_eq : (Config.loadOrDefault fs o.config).map (configured o) = .ok c
  sizeLimit_eq : fs.sizeLimit = none
  vacant : fs.Vacant places
  configs : ∀ p ∈ o.config.toList ++ Config.candidates, fs.Spares numbers places p
  list : ∀ p ∈ o.fileList, fs.Spares numbers places p
  headers : ∀ root ∈ o.indexHeaders, fs.SparesBelow places root
  entries : ∀ b ∈ o.parts, ∀ entries ∈ sources o c.headers fs b, ∀ entry ∈ entries,
    InPlace ⟨c.output.logDirectory, c.output.keepsOutput⟩
      (FileSystem.pathOf fs.workingDirectory) fs numbers places entry
  drawing : ∀ function ∈ o.drawFunction,
    fs.LeadsInto numbers places (o.artifact (workshop c host fs).logDirectory function)
  directories : ∀ path ∈ imageDirectory (o.store.getD "") ::
      DumpKind.all.map (workshop c host fs).logDirectory.kindPath,
    (fs.named (Path.withoutSlashes path)).isOk ∧ fs.isDirectory path
  image : fs.LeadsInto numbers places (imagePath (o.store.getD ""))
  /-- The log is there, and is not the image. -/
  log : FileSystem.asksForDirectory c.output.logFile = false ∧
    ∃ n ∈ numbers, n ∈ fs.fileOf? c.output.logFile ∧
      n ∉ fs.fileOf? (imagePath (o.store.getD ""))

section Settled

variable {host : Host} {o : Options} {c : Config} {numbers : List Nat}
  {places : List (List String)} {fs gs : FileSystem}

/-! What is loaded depends on what can be read, whatever the errors are. -/

theorem config_toOption (fs : FileSystem) (path : String) : (Config.load fs path).toOption =
    (fs.readText path).toOption.bind fun document =>
      (Toml.parse document).bind Config.ofValue? := by
  rw [Config.load]
  cases fs.readText path with
  | error e => rfl
  | ok document =>
      dsimp only [Except.toOption, Option.bind_some]
      cases (Toml.parse document).bind Config.ofValue? <;> rfl

theorem list_toOption (fs : FileSystem) (list root : String) :
    (SourceList.load fs list root).toOption =
      if fs.isDirectory root then
        (fs.readText list).toOption.map (SourceList.ofDocument root)
      else none := by
  rw [SourceList.load]
  split
  · cases fs.readText list <;> rfl
  · rfl

theorem headers_toOption (fs : FileSystem) (filter : HeaderFilter) (root : String) :
    (SourceList.headers fs filter root).result.toOption =
      (fs.readDirectory root).toOption.bind fun d =>
        (SourceList.search filter root d).result.toOption := by
  rw [SourceList.headers]
  cases fs.readDirectory root <;> rfl

/-- The same configuration is read. -/
theorem loadOrDefault_eq (h : Rewritten fs numbers places gs) {path : Option String}
    (hspares : ∀ p ∈ path.toList ++ Config.candidates, fs.Spares numbers places p) :
    (Config.loadOrDefault gs path).toOption = (Config.loadOrDefault fs path).toOption := by
  have hload : ∀ p ∈ path.toList ++ Config.candidates,
      (Config.load gs p).toOption = (Config.load fs p).toOption := by
    intro p hp
    rw [config_toOption, config_toOption, h.readText_eq (hspares p hp)]
  cases path with
  | some p => exact hload p List.mem_cons_self
  | none =>
      have hfind : Config.candidates.find? gs.exists? = Config.candidates.find? fs.exists? :=
        List.find?_congr fun p hp => h.exists?_eq (hspares p hp)
      rw [Config.loadOrDefault.eq_def, Config.loadOrDefault.eq_def, hfind]
      dsimp only
      cases hfound : Config.candidates.find? fs.exists? with
      | none => rfl
      | some p => exact hload p (List.mem_of_find?_eq_some hfound)

/-- Every part has the same files. -/
theorem sources_of_rewritten (h : Rewritten fs numbers places gs)
    (hlist : ∀ p ∈ o.fileList, fs.Spares numbers places p)
    (hheaders : ∀ root ∈ o.indexHeaders, fs.SparesBelow places root) (filter : HeaderFilter)
    (b : Batch) : sources o filter gs b = sources o filter fs b := by
  cases b with
  | headers =>
      refine Option.bind_congr fun root hroot => ?_
      rw [headers_toOption, headers_toOption, h.readDirectory_eq (hheaders root hroot)]
  | pass p =>
      refine Option.bind_congr fun list hfile => Option.bind_congr fun root _ => ?_
      rw [list_toOption, list_toOption, h.isDirectory_eq, h.readText_eq (hlist list hfile)]

/-- The archive of an image as it was read. -/
def readImage (image : Except OsError Bytes) : Except OsError Archive :=
  match image with
  | .ok bytes =>
    match Archive.ofImage? bytes with
    | some archive => .ok archive
    | none => .error (.reported "corrupted store")
  | .error .notFound => .ok .empty
  | .error e => .error e

/-- A store whose directory is there is read from its image. -/
theorem openStore_of_there {store : String}
    (hthere : (fs.named (Path.withoutSlashes (imageDirectory store))).isOk ∧
      fs.isDirectory (imageDirectory store)) :
    openStore fs store = (fs, readImage (fs.read (imagePath store))) := by
  rw [openStore, FileSystem.createDirectories_of_there hthere.1 hthere.2]
  dsimp only
  cases fs.read (imagePath store) with
  | error e => cases e <;> rfl
  | ok bytes =>
      dsimp only [readImage]
      cases Archive.ofImage? bytes <;> rfl

/-- Log directories that are there are not made. -/
theorem createKinds_of_there {d : LogDirectory} {kinds : List DumpKind}
    (hthere : ∀ path ∈ kinds.map d.kindPath,
      (fs.named (Path.withoutSlashes path)).isOk ∧ fs.isDirectory path) :
    d.createKinds fs kinds = (fs, .ok ()) := by
  induction kinds with
  | nil => rfl
  | cons kind kinds ih =>
      obtain ⟨hkind, hkinds⟩ := List.forall_mem_cons.mp hthere
      rw [LogDirectory.createKinds.eq_def]
      dsimp only
      rw [FileSystem.createDirectories_of_there hkind.1 hkind.2]
      exact ih hkinds

theorem pieces_imagePath (store : String) : Path.pieces (imagePath store) ≠ [] := by
  rw [imagePath, Path.pieces_join_name (by decide) (by decide)]
  exact List.append_ne_nil_of_right_ne_nil _ (List.cons_ne_nil _ _)

namespace Settled

variable (h : Settled host o c numbers places fs)

include h

theorem directories_there (hgs : Rewritten fs numbers places gs) :
    ∀ path ∈ imageDirectory (o.store.getD "") ::
        DumpKind.all.map (workshop c host fs).logDirectory.kindPath,
      (gs.named (Path.withoutSlashes path)).isOk ∧ gs.isDirectory path := by
  intro path hpath
  obtain ⟨hnamed, hdirectory⟩ := h.directories path hpath
  exact ⟨hgs.isOk_named hnamed, (hgs.isDirectory_eq path).trans hdirectory⟩

theorem create_eq (hgs : Rewritten fs numbers places gs) :
    (workshop c host fs).logDirectory.create gs = (gs, .ok ()) :=
  createKinds_of_there fun path hpath =>
    h.directories_there hgs path (List.mem_cons_of_mem _ hpath)

theorem openStore_eq (hgs : Rewritten fs numbers places gs) :
    openStore gs (o.store.getD "") =
      (gs, readImage (gs.read (imagePath (o.store.getD "")))) :=
  openStore_of_there (h.directories_there hgs _ List.mem_cons_self)

/-- What goes to the log leaves the image as it is. -/
theorem append_log (hgs : Rewritten fs numbers places gs) {image : Bytes}
    (himage : gs.read (imagePath (o.store.getD "")) = .ok image) (text : Bytes) :
    Rewritten fs numbers places (gs.append c.output.logFile text).1 ∧
      (gs.append c.output.logFile text).1.read (imagePath (o.store.getD "")) = .ok image := by
  obtain ⟨hslash, n, hn, hfile, hother⟩ := h.log
  refine ⟨hgs.append ⟨hslash, .inr ⟨n, hn, hfile⟩⟩ text, ?_⟩
  have hlt := h.vacant.wellFormed.lt_of_mem_fileOf? hfile
  have hlogged : Rewritten gs [n] [] (gs.append c.output.logFile text).1 :=
    (Rewritten.refl hgs.wellFormed.vacant_nil [n]).append
      ⟨hslash, .inr ⟨n, List.mem_singleton.mpr rfl, hgs.mem_fileOf?_of_mem hfile⟩⟩ text
  refine hlogged.read_ok ⟨fun _ _ => List.not_mem_nil, fun m hm hmem => ?_⟩ himage
  cases List.mem_singleton.mp hmem
  exact hgs.not_mem_fileOf? hlt hother hm

/-- What a run leaves behind. -/
theorem leftBehind (hgs : Rewritten fs numbers places gs) (a : Archive) (text : Bytes) :
    Rewritten fs numbers places (leftBehind o c gs a text) ∧
      (leftBehind o c gs a text).read (imagePath (o.store.getD "")) = .ok a.image :=
  h.append_log (hgs.write h.image a.image)
    (hgs.read_write h.image h.sizeLimit_eq (pieces_imagePath _) a.image) text

/-- **Runs behind a settled one go on where it ended**, if their programs read. -/
theorem continues (hreads : host.Reads) :
    Continues host o c (workshop c host fs) (Rewritten fs numbers places) where
  sources_eq b _ x y hx hy := by
    rw [sources_of_rewritten hx h.list h.headers, sources_of_rewritten hy h.list h.headers]
  repeatable b hb gs hgs entries hentries pass _ := by
    rw [sources_of_rewritten hgs h.list h.headers] at hentries
    exact repeatable_of_reads hreads h.sizeLimit_eq (h.entries b hb entries hentries) pass
  drawing function hfunction := by
    have hinto := h.drawing function hfunction
    refine ⟨fun hgs text => hgs.write hinto text, fun ha hb text => ?_⟩
    rw [ha.result_write hinto h.sizeLimit_eq, hb.result_write hinto h.sizeLimit_eq]
  saved hgs a text himage := by
    obtain ⟨hleft, hread⟩ := h.leftBehind hgs a text
    rw [h.openStore_eq hleft, hread, readImage, himage]
  next {gs} hgs a text himage c' w' site hbegins := by
    obtain ⟨hleft, hread⟩ := h.leftBehind hgs a text
    obtain ⟨hconfig, -, hworkshop, -, hopened, -⟩ := hbegins
    have hload := loadOrDefault_eq hleft h.configs
    have hc : c' = c := by
      have hfirst := h.config_eq
      cases hbefore : Config.loadOrDefault fs o.config with
      | error e =>
          rw [hbefore] at hfirst
          cases hfirst
      | ok base =>
          rw [hbefore] at hload hfirst
          rw [FileSystem.eq_ok_of_toOption hload] at hconfig
          exact Except.ok.inj (hconfig.symm.trans hfirst)
    subst hc
    obtain ⟨hlogged, hread⟩ := h.append_log hleft hread []
    have hw : w' = workshop c' host fs := by
      rw [← hworkshop, workshop, workshop, hlogged.workingDirectory_eq]
    subst hw
    rw [h.create_eq hlogged, h.openStore_eq hlogged, hread, readImage, himage] at hopened
    obtain ⟨hfiles, hstore⟩ := Prod.mk.inj hopened
    exact ⟨rfl, rfl, (Except.ok.inj hstore).symm, hfiles ▸ hlogged⟩

end Settled

end Settled

/-! ## A sample -/

/-- What programs say about the one source that they know. -/
def quietOutput : Option String → String
  | some "-x" => "main * a.c:1 int main (void)\n"
  | some "--csv" => "1,1,9,1,1,l,f,main,main( void),1,1\n"
  | _ => "main()\n    run()\n"

/-- A host with programs that do nothing but say it. -/
def quietHost : Host := fun _ args _ capture files =>
  match capture with
  | .pipes => .ok ⟨.exited 0, Utf8.encode "1.0\n", [], files⟩
  | .files => .ok ⟨.exited 0, Utf8.encode (quietOutput args.head?), [], files⟩

theorem reads_quietHost : quietHost.Reads where
  files_eq _ _ _ capture _ _ h := by
    cases capture <;> cases h <;> rfl
  version_eq _ _ _ _ _ := rfl
  output_eq _ _ _ _ _ _ _ := rfl

/-- A source, and beside its directory the list of the sources. -/
def freshFiles (list : String × Entry) : FileSystem :=
  let file (text : String) : StoredFile := ⟨Utf8.encode text, Mode.ofFile, 0⟩
  { FileSystem.ofRoot (.ofList [("src", .folder (.ofList [("a.c", .file 0)])), list]) [] with
    stored := #[file "int main(void);\n", file "a.c\n"] }

/-- Two passes over a list, and a drawing. -/
def drawingOptions (list : String) : Options :=
  { Options.none with
    store := some "db"
    fileList := some list
    sourcePath := some "src"
    indexFunctions := true
    indexEdges := true
    drawFunction := some "main"
    logLevel := some .none }

/-- The site that the stages of the first run begin on: an empty store, and beside the sources the
log, and the directories that the run has made. -/
def freshSite : Site Archive where
  store := .empty
  files := (openStore (LogDirectory.create ⟨"calltreelog", false⟩
    ((freshFiles ("list", .file 1)).append "calltrees.log" []).1).1 "db").1
  log := [.started version]

/-- Where the drawing and the image are put, which are not there yet. -/
def freshPlaces : List (List String) :=
  [["calltreelog", "main-1"], ["db", "image", "graph"]]

theorem configured_default {fs : FileSystem} (hnone : Config.candidates.find? fs.exists? = none)
    (list : String) :
    (Config.loadOrDefault fs (drawingOptions list).config).map (configured (drawingOptions list)) =
      .ok .default := by
  rw [Config.loadOrDefault.eq_def]
  dsimp only [drawingOptions, Options.none]
  rw [hnone]
  rfl

theorem begins_freshSite :
    Begins quietHost (drawingOptions "list") .default (workshop .default quietHost freshSite.files)
      (freshFiles ("list", .file 1)) freshSite := by
  let logged := (freshFiles ("list", .file 1)).append "calltrees.log" []
  let made := LogDirectory.create ⟨"calltreelog", false⟩ logged.1
  have hchecks : Config.candidates.find? (freshFiles ("list", .file 1)).exists? = none ∧
      logged.2 = .ok () ∧ logged.1.workingDirectory = [] ∧ made.2 = .ok () ∧
        (openStore made.1 "db").2 = .ok .empty ∧ freshSite.files.workingDirectory = [] := by
    decide +kernel
  obtain ⟨hnone, hlog, hplace, hmade, hopened, hplace'⟩ := hchecks
  refine ⟨configured_default hnone "list", hlog, ?_, hmade, Prod.ext rfl hopened, rfl⟩
  show workshop .default quietHost logged.1 = _
  rw [workshop, workshop, hplace, hplace']

/-- Nothing is in the way of its stages. -/
theorem settled_freshSite :
    Settled quietHost (drawingOptions "list") .default [2] freshPlaces freshSite.files := by
  let fs := freshSite.files
  let o := drawingOptions "list"
  let d := (workshop .default quietHost fs).logDirectory
  -- decided together, so that what the run has made is made once
  have hchecks : (Config.candidates.find? fs.exists? = none ∧ fs.sizeLimit = none ∧
      fs.Vacant freshPlaces) ∧
      ((∀ p ∈ o.config.toList ++ Config.candidates, fs.Spares [2] freshPlaces p) ∧
        (∀ p ∈ o.fileList, fs.Spares [2] freshPlaces p) ∧
        ∀ b ∈ o.parts, ∀ entries ∈ sources o Config.default.headers fs b, ∀ entry ∈ entries,
          InPlace ⟨"calltreelog", false⟩ (FileSystem.pathOf fs.workingDirectory) fs [2] freshPlaces
            entry) ∧
      (∀ function ∈ o.drawFunction, fs.LeadsInto [2] freshPlaces (o.artifact d function)) ∧
      (∀ path ∈ imageDirectory "db" :: DumpKind.all.map d.kindPath,
        (fs.named (Path.withoutSlashes path)).isOk ∧ fs.isDirectory path) ∧
      fs.LeadsInto [2] freshPlaces (imagePath "db") ∧
      FileSystem.asksForDirectory "calltrees.log" = false ∧
        ∃ n ∈ [2], n ∈ fs.fileOf? "calltrees.log" ∧ n ∉ fs.fileOf? (imagePath "db") := by
    decide +kernel
  obtain ⟨⟨hnone, hlimit, hvacant⟩, ⟨hconfigs, hlist, hentries⟩, hdrawing, hdirectories, himage,
    hlog⟩ := hchecks
  exact ⟨configured_default hnone "list", hlimit, hvacant, hconfigs, hlist, nofun, hentries,
    hdrawing, hdirectories, himage, hlog⟩

end CallForest.Cli
