import CallForest.Cli.Run
import CallForest.Proofs.Ingest.Reindexing
import CallForest.Proofs.Ingest.Soundness

/-!
# The parts of a run

A run goes through what its options ask for in a fixed order: the passes over the file list, and
those over the headers. These are its parts, and a run may be asked for some of them only
(`Options.only`).

Every part goes through a list of files with one pass after another. If no pass can tell apart the
file systems that it meets, what a part enters is known beforehand (`brings`), and whether it
succeeds (`Works`). The stages of a run enter what its parts bring, and succeed if its parts work
and the drawing can be made (`enters_stages`).
-/

namespace CallForest

open Ingest
open Intake (takeIn takeIn_append)

/-! ## Passes that return -/

namespace Ingest

/-- The passes of a batch. -/
def Batch.passes : Batch → List Pass
  | pass p => [p]
  | headers => [.functions, .complexity]

/-- Nothing ends a pass. -/
def Goes (w : Workshop) (pass : Pass) (entries : List SourceEntry) (fs : FileSystem) : Prop :=
  (∃ version, (probe w pass fs).answer = .ok version) ∧
    ∀ t ∈ passTurns w pass entries fs, t.fatal? = none

section Passes

variable {σ : Type} [GraphStore σ] {w : Workshop} {pass : Pass} {entries : List SourceEntry}
  {Kept : FileSystem → Prop} {fs gs : FileSystem}

theorem returns_index_iff {site : Site σ} :
    (∃ report, (index w pass entries site).2 = .ok report) ↔ Goes w pass entries site.files := by
  constructor
  · rintro ⟨report, hreport⟩
    exact goes_of_returns hreport
  · rintro ⟨⟨version, hversion⟩, hgoes⟩
    exact returns_index site hversion hgoes

theorem Repeatable.goes_iff (h : Repeatable w pass entries Kept) (hfs : Kept fs) (hgs : Kept gs) :
    Goes w pass entries fs ↔ Goes w pass entries gs := by
  rw [Goes, Goes, h.probe_eq hfs hgs, h.passTurns_eq hfs hgs, h.passTurns_eq hgs hgs]

/-- Passes return one after another if nothing ends any of them. -/
theorem returns_inTurn_iff {passes : List Pass}
    (hrepeat : ∀ pass ∈ passes, Repeatable w pass entries Kept) (hfs : Kept fs) {site : Site σ}
    (hkept : Kept site.files) :
    (∃ reports, (inTurn w entries passes site).2 = .ok reports) ↔
      ∀ pass ∈ passes, Goes w pass entries fs := by
  induction passes generalizing site with
  | nil => exact ⟨fun _ => nofun, fun _ => ⟨[], rfl⟩⟩
  | cons pass passes ih =>
      obtain ⟨hpass, hpasses⟩ := List.forall_mem_cons.mp hrepeat
      have hrest := ih hpasses (hpass.kept_index hkept)
      have hgoes := returns_index_iff.trans (hpass.goes_iff hkept hfs)
      rw [List.forall_mem_cons, ← hgoes, ← hrest]
      constructor
      · rintro ⟨reports, hreports⟩
        obtain ⟨report, rest, hreport, hrest, -⟩ := returns_of_inTurn_cons hreports
        exact ⟨⟨report, hreport⟩, rest, hrest⟩
      · rintro ⟨⟨report, hreport⟩, rest, hrest⟩
        refine ⟨report :: rest, ?_⟩
        rw [inTurn_cons_of_returns hreport, Prod.map_snd, hrest]
        rfl

end Passes

end Ingest

namespace Cli

/-! ## Parts -/

/-- All parts, in their order. -/
def allParts : List Batch := allPasses.map .pass ++ [.headers]

namespace Options

/-- Whether options ask for a part. -/
def asks (o : Options) : Batch → Bool
  | .pass .files => o.indexFiles
  | .pass .functions => o.indexFunctions
  | .pass .edges => o.indexEdges
  | .pass .complexity => o.complexity
  | .headers => o.indexHeaders.isSome

/-- The parts that options ask for, in their order. -/
def parts (o : Options) : List Batch := allParts.filter o.asks

/-- The passes over the file list that options ask for. -/
def listPasses (o : Options) : List Pass := allPasses.filter fun p => o.asks (.pass p)

/-- The same options, but for the other parts. -/
def only (o : Options) (ps : List Batch) : Options :=
  { o with
    indexFiles := o.indexFiles && decide (.pass .files ∈ ps)
    indexFunctions := o.indexFunctions && decide (.pass .functions ∈ ps)
    indexEdges := o.indexEdges && decide (.pass .edges ∈ ps)
    complexity := o.complexity && decide (.pass .complexity ∈ ps)
    indexHeaders := o.indexHeaders.filter fun _ => decide (.headers ∈ ps) }

variable {o : Options} {ps : List Batch}

theorem asks_only (b : Batch) : (o.only ps).asks b = (o.asks b && decide (b ∈ ps)) := by
  cases b with
  | pass p => cases p <;> rfl
  | headers => cases h : o.indexHeaders <;> simp [asks, only, h]

theorem nodup_parts (o : Options) : o.parts.Nodup :=
  List.Nodup.filter _ (by decide)

/-- Some of the parts are what is asked for if only they are. -/
theorem parts_only (h : ps.Sublist o.parts) : (o.only ps).parts = ps := by
  have hparts : (o.only ps).parts = o.parts.filter fun b => decide (b ∈ ps) := by
    rw [parts, funext asks_only, parts, List.filter_filter]
    exact List.filter_congr fun b _ => Bool.and_comm _ _
  have hsublist := h.filter fun b => decide (b ∈ ps)
  rw [List.filter_eq_self.mpr fun b hb => decide_eq_true hb, ← hparts] at hsublist
  -- the other way round these are no more, as none is asked for twice
  have hsubset : (o.only ps).parts ⊆ ps := by
    intro b hb
    rw [hparts] at hb
    exact of_decide_eq_true (List.mem_filter.mp hb).2
  exact (hsublist.eq_of_length_le (List.subperm_of_subset (nodup_parts _) hsubset).length_le).symm

theorem parts_eq (o : Options) :
    o.parts = o.listPasses.map .pass ++ (o.indexHeaders.map fun _ => .headers).toList := by
  rw [parts, allParts, List.filter_append, List.filter_map]
  congr 1
  cases h : o.indexHeaders <;> simp [asks, h]

/-- The passes over the file list are a stage if one of them is asked for. -/
theorem wantsPasses_iff (o : Options) : o.wantsPasses ↔ o.listPasses ≠ [] := by
  cases hfiles : o.indexFiles <;> cases hfunctions : o.indexFunctions <;>
    cases hedges : o.indexEdges <;> cases hcomplexity : o.complexity <;>
      simp [wantsPasses, listPasses, allPasses, asks, hfiles, hfunctions, hedges, hcomplexity]

end Options

/-- The files that a part goes through, if their list can be had. -/
def sources (o : Options) (filter : HeaderFilter) (fs : FileSystem) :
    Batch → Option (List SourceEntry)
  | .pass _ =>
    o.fileList.bind fun list => o.sourcePath.bind fun root =>
      (SourceList.load fs list root).toOption
  | .headers => o.indexHeaders.bind fun root => (SourceList.headers fs filter root).result.toOption

/-- What a part brings that is run on a file system. -/
def brings (w : Workshop) (o : Options) (filter : HeaderFilter) (fs : FileSystem) (b : Batch) :
    List Intake :=
  ((sources o filter fs b).map fun entries => intakesOf w entries fs b.passes).getD []

/-- A part succeeds that is run on a file system. -/
def Works (w : Workshop) (o : Options) (filter : HeaderFilter) (fs : FileSystem) (b : Batch) :
    Prop :=
  ∃ entries, sources o filter fs b = some entries ∧
    ∀ pass ∈ b.passes, Goes w pass entries fs

/-! ## Stages -/

/-- Stages succeed on a site. -/
def Succeed (stages : List Stage) (site : Site Archive) : Prop :=
  ∃ printed, (inOrder stages site).2 = .ok printed

/-- Stages enter intakes and leave a file system that is `Kept`, if the store they begin with is
`Good`; else they fail. -/
structure Enters (Kept : FileSystem → Prop) (stages : List Stage) (is : List Intake)
    (Good : Archive → Prop) : Prop where
  succeed_iff : ∀ site, Kept site.files → (Succeed stages site ↔ Good site.store)
  kept : ∀ site, Kept site.files → Good site.store → Kept (inOrder stages site).1.files
  store_eq : ∀ site, Kept site.files → Good site.store →
    (inOrder stages site).1.store = takeIn is site.store

section InOrder

variable {stage : Stage} {stages later : List Stage} {site : Site Archive} {printed : String}

theorem inOrder_cons_of_ok (h : (stage site).2 = .ok printed) :
    inOrder (stage :: stages) site =
      (inOrder stages (stage site).1).map id (Except.map (printed ++ ·)) := by
  rw [inOrder]
  generalize stage site = x at h
  obtain ⟨next, result⟩ := x
  cases h
  dsimp only
  generalize inOrder stages next = y
  obtain ⟨last, _ | more⟩ := y <;> rfl

theorem inOrder_cons_of_error {e : Failure} (h : (stage site).2 = .error e) :
    inOrder (stage :: stages) site = ((stage site).1, .error e) := by
  rw [inOrder]
  generalize stage site = x at h
  obtain ⟨next, result⟩ := x
  cases h
  rfl

/-- Stages succeed if the first does and the others do behind it. -/
theorem succeed_cons_iff : Succeed (stage :: stages) site ↔
    (∃ printed, (stage site).2 = .ok printed) ∧ Succeed stages (stage site).1 := by
  cases h : (stage site).2 with
  | error e =>
      rw [Succeed, inOrder_cons_of_error h]
      exact ⟨nofun, nofun⟩
  | ok printed =>
      rw [Succeed, inOrder_cons_of_ok h, Succeed, Prod.map_snd]
      cases (inOrder stages (stage site).1).2 with
      | error e => exact ⟨nofun, nofun⟩
      | ok more => exact ⟨fun _ => ⟨⟨printed, rfl⟩, more, rfl⟩, fun _ => ⟨printed ++ more, rfl⟩⟩

theorem inOrder_cons_fst (h : ∃ printed, (stage site).2 = .ok printed) :
    (inOrder (stage :: stages) site).1 = (inOrder stages (stage site).1).1 := by
  obtain ⟨printed, hprinted⟩ := h
  rw [inOrder_cons_of_ok hprinted]
  rfl

theorem inOrder_singleton_fst (stage : Stage) (site : Site Archive) :
    (inOrder [stage] site).1 = (stage site).1 := by
  cases h : (stage site).2 with
  | error e => rw [inOrder_cons_of_error h]
  | ok printed => rw [inOrder_cons_fst ⟨printed, h⟩, inOrder]

theorem succeed_singleton_iff :
    Succeed [stage] site ↔ ∃ printed, (stage site).2 = .ok printed :=
  succeed_cons_iff.trans (and_iff_left ⟨"", rfl⟩)

theorem succeed_append_iff : Succeed (stages ++ later) site ↔
    Succeed stages site ∧ Succeed later (inOrder stages site).1 := by
  induction stages generalizing site with
  | nil => exact (and_iff_right ⟨"", rfl⟩).symm
  | cons stage stages ih =>
      rw [List.cons_append, succeed_cons_iff, succeed_cons_iff, ih, and_assoc]
      refine and_congr_right fun h => ?_
      rw [inOrder_cons_fst h]

theorem inOrder_append_fst (h : Succeed stages site) :
    (inOrder (stages ++ later) site).1 = (inOrder later (inOrder stages site).1).1 := by
  induction stages generalizing site with
  | nil => rfl
  | cons stage stages ih =>
      obtain ⟨hstage, hstages⟩ := succeed_cons_iff.mp h
      rw [List.cons_append, inOrder_cons_fst hstage, inOrder_cons_fst hstage, ih hstages]

/-- Passes as stages. -/
theorem inOrder_passes (w : Workshop) (entries : List SourceEntry) (passes : List Pass) :
    inOrder (passes.map fun pass => passStage (index w pass entries)) =
      passStage (inTurn w entries passes) := by
  induction passes with
  | nil => rfl
  | cons pass passes ih =>
      funext site
      rw [List.map_cons, inOrder, passStage, passStage, inTurn]
      generalize index w pass entries site = x
      obtain ⟨next, _ | report⟩ := x
      · rfl
      · dsimp only
        rw [ih, passStage]
        generalize inTurn w entries passes next = y
        obtain ⟨last, _ | reports⟩ := y <;> rfl

end InOrder

namespace Enters

variable {Kept : FileSystem → Prop} {stages later : List Stage} {is js : List Intake}
  {Good Good' : Archive → Prop}

theorem nil (Kept : FileSystem → Prop) : Enters Kept [] [] fun _ => True where
  succeed_iff _ _ := ⟨fun _ => trivial, fun _ => ⟨"", rfl⟩⟩
  kept _ hkept _ := hkept
  store_eq _ _ _ := rfl

theorem append (h : Enters Kept stages is Good) (hlater : Enters Kept later js Good') :
    Enters Kept (stages ++ later) (is ++ js) fun a => Good a ∧ Good' (takeIn is a) where
  succeed_iff site hkept := by
    rw [succeed_append_iff, h.succeed_iff site hkept]
    refine and_congr_right fun hgood => ?_
    rw [hlater.succeed_iff _ (h.kept site hkept hgood), h.store_eq site hkept hgood]
  kept site hkept hgood := by
    rw [inOrder_append_fst ((h.succeed_iff site hkept).mpr hgood.1)]
    refine hlater.kept _ (h.kept site hkept hgood.1) ?_
    rw [h.store_eq site hkept hgood.1]
    exact hgood.2
  store_eq site hkept hgood := by
    have hstore := h.store_eq site hkept hgood.1
    rw [inOrder_append_fst ((h.succeed_iff site hkept).mpr hgood.1), takeIn_append,
      hlater.store_eq _ (h.kept site hkept hgood.1) (hstore ▸ hgood.2), hstore]

theorem congr (h : Enters Kept stages is Good) (his : is = js) (hgood : ∀ a, Good a ↔ Good' a) :
    Enters Kept stages js Good' := by
  rw [← his, ← funext fun a => propext (hgood a)]
  exact h

/-- A stage that fails on all that is `Kept`. -/
theorem of_error {stage : Stage}
    (h : ∀ site, Kept site.files → ∃ e, (stage site).2 = .error e) :
    Enters Kept [stage] is fun _ => False where
  succeed_iff site hkept := by
    obtain ⟨e, he⟩ := h site hkept
    rw [succeed_singleton_iff, he]
    exact ⟨nofun, nofun⟩
  kept _ _ hgood := hgood.elim
  store_eq _ _ hgood := hgood.elim

/-- A stage that runs passes one after another, whatever it has logged before. -/
theorem of_inTurn {w : Workshop} {entries : List SourceEntry} {passes : List Pass}
    {fs : FileSystem} (hrepeat : ∀ pass ∈ passes, Repeatable w pass entries Kept) (hfs : Kept fs)
    {stage : Stage}
    (h : ∀ site, Kept site.files → ∃ next : Site Archive, next.store = site.store ∧
      next.files = site.files ∧ stage site = passStage (inTurn w entries passes) next) :
    Enters Kept [stage] (intakesOf w entries fs passes) fun _ =>
      ∀ pass ∈ passes, Goes w pass entries fs := by
  have hpass : ∀ site : Site Archive,
      (passStage (inTurn w entries passes) site).1 = (inTurn w entries passes site).1 ∧
        ((∃ printed, (passStage (inTurn w entries passes) site).2 = .ok printed) ↔
          ∃ reports, (inTurn w entries passes site).2 = .ok reports) := by
    intro site
    rw [passStage]
    generalize inTurn w entries passes site = x
    obtain ⟨next, _ | reports⟩ := x
    · exact ⟨rfl, nofun, nofun⟩
    · exact ⟨rfl, fun _ => ⟨reports, rfl⟩, fun _ => ⟨"", rfl⟩⟩
  -- what holds of passes that return
  have hreturns : ∀ site, Kept site.files → (∀ pass ∈ passes, Goes w pass entries fs) →
      (inOrder [stage] site).1.store = takeIn (intakesOf w entries fs passes) site.store ∧
        Kept (inOrder [stage] site).1.files := by
    intro site hkept hgoes
    obtain ⟨next, hstore, hfiles, heq⟩ := h site hkept
    rw [← hfiles] at hkept
    obtain ⟨reports, hreports⟩ := (returns_inTurn_iff hrepeat hfs hkept).mpr hgoes
    rw [inOrder_singleton_fst, heq, (hpass next).1, ← hstore]
    exact store_inTurn hrepeat hfs hkept hreports
  refine ⟨fun site hkept => ?_, fun site hkept hgoes => (hreturns site hkept hgoes).2,
    fun site hkept hgoes => (hreturns site hkept hgoes).1⟩
  obtain ⟨next, -, hfiles, heq⟩ := h site hkept
  rw [← hfiles] at hkept
  rw [succeed_singleton_iff, heq, (hpass next).2]
  exact returns_inTurn_iff hrepeat hfs hkept

end Enters

/-! ## Stages that do not disturb each other -/

/-- Where the drawing of a function goes. -/
def Options.artifact (o : Options) (d : LogDirectory) (function : String) : String :=
  d.treePath function (o.drawDepth.getD 1) (o.format.getD .text).extension?

/-- The drawing that options ask for can be made of a store. -/
def Draws (o : Options) (d : LogDirectory) (fs : FileSystem) (a : Archive) : Prop :=
  ∀ function ∈ o.drawFunction, ∃ printed, (drawStage o d function ⟨a, fs, []⟩).2 = .ok printed

/-- What is written to a path leaves a file system that is `Kept`. It can be written on all of them,
or on none. -/
structure Output (Kept : FileSystem → Prop) (path : String) : Prop where
  kept : ∀ {fs}, Kept fs → ∀ text, Kept (fs.write path text).1
  ok_iff : ∀ {a b}, Kept a → Kept b → ∀ text,
    (a.write path text).2 = .ok () ↔ (b.write path text).2 = .ok ()

/-- Nothing that the stages of a run leave makes a difference to them, but for the store. On file
systems that are `Kept` its parts have the same files, and their passes may be repeated. The drawing
leaves such a file system. -/
structure Undisturbed (o : Options) (c : Config) (w : Workshop) (Kept : FileSystem → Prop) :
    Prop where
  sources_eq : ∀ b ∈ o.parts, ∀ {x y}, Kept x → Kept y →
    sources o c.headers x b = sources o c.headers y b
  repeatable : ∀ b ∈ o.parts, ∀ {fs}, Kept fs → ∀ entries,
    sources o c.headers fs b = some entries → ∀ pass ∈ b.passes, Repeatable w pass entries Kept
  drawing : ∀ function ∈ o.drawFunction, Output Kept (o.artifact w.logDirectory function)

section Stages

variable {o : Options} {c : Config} {w : Workshop} {Kept : FileSystem → Prop} {fs : FileSystem}

theorem passes_eq (o : Options) (w : Workshop) (entries : List SourceEntry) :
    passes o w entries = o.listPasses.map fun pass => passStage (index w pass entries) := by
  cases hfiles : o.indexFiles <;> cases hfunctions : o.indexFunctions <;>
    cases hedges : o.indexEdges <;> cases hcomplexity : o.complexity <;>
      simp [passes, Options.listPasses, allPasses, Options.asks, index, hfiles, hfunctions, hedges,
        hcomplexity]

/-- The passes over the file list, if it can be had. -/
theorem passStages_eq (filter : HeaderFilter) (p : Pass) (site : Site Archive) :
    (∃ entries, sources o filter site.files (.pass p) = some entries ∧
      passStages o w site = passStage (inTurn w entries o.listPasses) site) ∨
    (sources o filter site.files (.pass p) = none ∧ ∃ e, (passStages o w site).2 = .error e) := by
  rw [passStages, sources]
  cases hlist : o.fileList with
  | none => exact .inr ⟨rfl, _, rfl⟩
  | some list =>
      cases hroot : o.sourcePath with
      | none => exact .inr ⟨rfl, _, rfl⟩
      | some root =>
          dsimp only [Option.bind_some]
          cases hload : SourceList.load site.files list root with
          | error e => exact .inr ⟨rfl, _, rfl⟩
          | ok entries =>
              refine .inl ⟨entries, rfl, ?_⟩
              rw [← inOrder_passes, ← passes_eq]

theorem intakesOf_eq_flatMap {filter : HeaderFilter} {p : Pass} {entries : List SourceEntry}
    (hentries : sources o filter fs (.pass p) = some entries) (w : Workshop)
    (passes : List Pass) :
    intakesOf w entries fs passes = (passes.map Batch.pass).flatMap (brings w o filter fs) := by
  rw [intakesOf, List.flatMap_map]
  refine List.flatMap_congr fun pass _ => ?_
  have hsame : sources o filter fs (.pass pass) = some entries := hentries
  rw [brings, hsame]
  exact (List.append_nil _).symm

/-- The stage of the passes over the file list. -/
theorem enters_passStages (h : Undisturbed o c w Kept) (hfs : Kept fs) :
    Enters Kept (if o.wantsPasses then [passStages o w] else [])
      ((o.listPasses.map Batch.pass).flatMap (brings w o c.headers fs))
      fun _ => ∀ b ∈ o.listPasses.map Batch.pass, Works w o c.headers fs b := by
  have hpart : ∀ p ∈ o.listPasses, Batch.pass p ∈ o.parts := by
    intro p hp
    rw [Options.parts_eq]
    exact List.mem_append_left _ (List.mem_map_of_mem hp)
  cases hpasses : o.listPasses with
  | nil =>
      have hwants : ¬o.wantsPasses := fun hwants => o.wantsPasses_iff.mp hwants hpasses
      rw [if_neg hwants]
      exact (Enters.nil Kept).congr rfl fun _ => ⟨fun _ => nofun, fun _ => trivial⟩
  | cons p passes =>
      have hp : Batch.pass p ∈ o.parts := hpart p (hpasses ▸ List.mem_cons_self)
      rw [← hpasses, if_pos (o.wantsPasses_iff.mpr (hpasses ▸ List.cons_ne_nil p passes))]
      cases hsource : sources o c.headers fs (.pass p) with
      | none =>
          refine (Enters.of_error fun site hkept => ?_).congr rfl fun _ =>
            ⟨False.elim, fun hworks => ?_⟩
          · rcases passStages_eq c.headers p site with ⟨entries, hentries, -⟩ | ⟨-, herror⟩
            · rw [h.sources_eq _ hp hkept hfs, hsource] at hentries
              cases hentries
            · exact herror
          · obtain ⟨entries, hentries, -⟩ := hworks (.pass p)
              (List.mem_map_of_mem (hpasses ▸ List.mem_cons_self))
            rw [hsource] at hentries
            cases hentries
      | some entries =>
          have hrepeat : ∀ pass ∈ o.listPasses, Repeatable w pass entries Kept := fun pass hpass =>
            h.repeatable (.pass pass) (hpart pass hpass) hfs entries hsource pass
              (List.mem_singleton.mpr rfl)
          refine (Enters.of_inTurn hrepeat hfs fun site hkept => ⟨site, rfl, rfl, ?_⟩).congr
            (intakesOf_eq_flatMap hsource w o.listPasses) fun _ => ?_
          · rcases passStages_eq c.headers p site with ⟨found, hfound, heq⟩ | ⟨hnone, -⟩
            · rw [h.sources_eq _ hp hkept hfs, hsource] at hfound
              rw [heq, Option.some.inj hfound]
            · rw [h.sources_eq _ hp hkept hfs, hsource] at hnone
              cases hnone
          · rw [List.forall_mem_map]
            refine forall₂_congr fun pass _ => ?_
            have hsame : sources o c.headers fs (.pass pass) = some entries := hsource
            rw [Works, hsame]
            simp [Batch.passes]

/-- The passes over headers are the two passes, one after the other. -/
theorem passStage_indexHeaders (w : Workshop) (found : List SourceEntry) (site : Site Archive) :
    passStage (indexHeaders w found) site =
      passStage (inTurn w found Batch.headers.passes)
        (site.note [.headersStarted found.length]) := by
  rw [passStage, passStage, indexHeaders, Batch.passes, inTurn]
  dsimp only [index]
  generalize indexFunctions w found (site.note [.headersStarted found.length]) = x
  obtain ⟨next, _ | functions⟩ := x
  · rfl
  · dsimp only [inTurn, index]
    generalize indexComplexity w found next = y
    obtain ⟨last, _ | complexity⟩ := y <;> rfl

/-- The stage of the passes over the headers. -/
theorem enters_headerStage (h : Undisturbed o c w Kept) (hfs : Kept fs) :
    let ps : List Batch := (o.indexHeaders.map fun _ => .headers).toList
    Enters Kept (o.indexHeaders.map (headerStage c.headers w)).toList
      (ps.flatMap (brings w o c.headers fs)) fun _ => ∀ b ∈ ps, Works w o c.headers fs b := by
  cases hroot : o.indexHeaders with
  | none => exact (Enters.nil Kept).congr rfl fun _ => ⟨fun _ => nofun, fun _ => trivial⟩
  | some root =>
      have hb : Batch.headers ∈ o.parts := by
        rw [Options.parts_eq, hroot]
        exact List.mem_append_right _ (List.mem_singleton.mpr rfl)
      have hsource : ∀ gs, sources o c.headers gs .headers =
          (SourceList.headers gs c.headers root).result.toOption := by
        intro gs
        rw [sources, hroot, Option.bind_some]
      have hsame : ∀ site : Site Archive, Kept site.files →
          (SourceList.headers site.files c.headers root).result.toOption =
            (SourceList.headers fs c.headers root).result.toOption := by
        intro site hkept
        rw [← hsource, ← hsource]
        exact h.sources_eq _ hb hkept hfs
      simp only [Option.map_some, Option.toList_some, List.flatMap_singleton,
        List.forall_mem_singleton]
      rw [brings, Works, hsource]
      cases hresult : (SourceList.headers fs c.headers root).result with
      | error e =>
          refine (Enters.of_error fun site hkept => ?_).congr rfl fun _ => ⟨False.elim, nofun⟩
          have hsite := hsame site hkept
          rw [hresult] at hsite
          rw [headerStage]
          cases hfound : (SourceList.headers site.files c.headers root).result with
          | error e => exact ⟨_, rfl⟩
          | ok found =>
              rw [hfound] at hsite
              cases hsite
      | ok found =>
          have hrepeat : ∀ pass ∈ Batch.headers.passes, Repeatable w pass found Kept :=
            h.repeatable .headers hb hfs found (by rw [hsource, hresult]; rfl)
          refine (Enters.of_inTurn hrepeat hfs fun site hkept => ?_).congr rfl fun _ => ?_
          · have hsite := hsame site hkept
            rw [hresult] at hsite
            rw [headerStage]
            cases hfound : (SourceList.headers site.files c.headers root).result with
            | error e =>
                rw [hfound] at hsite
                cases hsite
            | ok there =>
                rw [hfound] at hsite
                cases hsite
                exact ⟨(site.note _).note _, rfl, rfl, passStage_indexHeaders w found _⟩
          · exact ⟨fun hgoes => ⟨found, rfl, hgoes⟩, fun ⟨_, hentries, hgoes⟩ => by
              cases hentries
              exact hgoes⟩

/-- Drawing leaves the store as it is. Whether it goes well depends on the store, and on whether the
file can be written. -/
theorem draw_written {artifact : String} (hout : Output Kept artifact) (format : TreeFormat)
    (function : String) (depth : Nat) {site : Site Archive} (hkept : Kept site.files) :
    (draw format function depth artifact site).1.store = site.store ∧
      Kept (draw format function depth artifact site).1.files ∧
        ((∃ drawing, (draw format function depth artifact site).2 = .ok drawing) ↔
          ∃ origin, Origin.resolve? site.store function depth = some origin ∧
            (site.files.write artifact []).2 = .ok () ∧
              ((site.files.write artifact []).1.write artifact
                (Utf8.encode (format.export (walk site.store origin)))).2 = .ok ()) := by
  rw [draw]
  cases horigin : Origin.resolve? site.store function depth with
  | none =>
      refine ⟨rfl, hkept, ?_, ?_⟩
      · rintro ⟨drawing, ⟨⟩⟩
      · rintro ⟨origin, ⟨⟩, -⟩
  | some origin =>
      have hcleared := hout.kept hkept []
      dsimp only
      generalize site.files.write artifact [] = cleared at hcleared
      obtain ⟨files, _ | _⟩ := cleared
      · refine ⟨rfl, hcleared, ?_, ?_⟩
        · rintro ⟨drawing, ⟨⟩⟩
        · rintro ⟨other, -, ⟨⟩, -⟩
      · have hwritten := hout.kept hcleared (Utf8.encode (format.export (walk site.store origin)))
        dsimp only
        generalize hresult : files.write artifact
          (Utf8.encode (format.export (walk site.store origin))) = written at hwritten
        obtain ⟨left, _ | _⟩ := written
        · refine ⟨rfl, hwritten, ?_, ?_⟩
          · rintro ⟨drawing, ⟨⟩⟩
          · rintro ⟨other, ⟨⟩, -, herror⟩
            rw [hresult] at herror
            cases herror
        · exact ⟨rfl, hwritten, fun _ => ⟨origin, rfl, rfl, by rw [hresult]⟩, fun _ => ⟨_, rfl⟩⟩

theorem draw_alike {artifact : String} (hout : Output Kept artifact) (format : TreeFormat)
    (function : String) (depth : Nat) {site other : Site Archive} (hkept : Kept site.files)
    (hother : Kept other.files) (hstore : site.store = other.store) :
    (∃ drawing, (draw format function depth artifact site).2 = .ok drawing) ↔
      ∃ drawing, (draw format function depth artifact other).2 = .ok drawing := by
  rw [(draw_written hout format function depth hkept).2.2,
    (draw_written hout format function depth hother).2.2, hstore]
  refine exists_congr fun origin => and_congr_right fun _ => ?_
  exact and_congr (hout.ok_iff hkept hother _)
    (hout.ok_iff (hout.kept hkept _) (hout.kept hother _) _)

theorem drawStage_eq (d : LogDirectory) (function : String) (site : Site Archive) :
    let drawn := draw (o.format.getD .text) function (o.drawDepth.getD 1) (o.artifact d function)
      site
    (drawStage o d function site).1 = drawn.1 ∧
      ((∃ printed, (drawStage o d function site).2 = .ok printed) ↔
        ∃ drawing, drawn.2 = .ok drawing) := by
  rw [drawStage]
  dsimp only [Options.artifact]
  generalize draw _ _ _ _ site = x
  obtain ⟨next, _ | drawing⟩ := x
  · exact ⟨rfl, nofun, nofun⟩
  · exact ⟨rfl, fun _ => ⟨drawing, rfl⟩, fun _ => ⟨_, rfl⟩⟩

/-- The stage of the drawing. -/
theorem enters_drawStage {d : LogDirectory}
    (hout : ∀ function ∈ o.drawFunction, Output Kept (o.artifact d function)) (hfs : Kept fs) :
    Enters Kept (o.drawFunction.map (drawStage o d)).toList [] (Draws o d fs) := by
  show Enters Kept _ [] fun a => Draws o d fs a
  simp only [Draws]
  cases hfunction : o.drawFunction with
  | none => exact (Enters.nil Kept).congr rfl fun _ => ⟨fun _ => nofun, fun _ => trivial⟩
  | some function =>
      have hartifact : Output Kept (o.artifact d function) := hout function hfunction
      rw [Option.map_some, Option.toList_some]
      refine ⟨fun site hkept => ?_, fun site hkept _ => ?_, fun site hkept _ => ?_⟩
      · simp only [Option.mem_some_iff, forall_eq']
        rw [succeed_singleton_iff, (drawStage_eq d function site).2, (drawStage_eq d function _).2]
        exact draw_alike hartifact _ _ _ hkept hfs rfl
      · rw [inOrder_singleton_fst, (drawStage_eq d function site).1]
        exact (draw_written hartifact _ _ _ hkept).2.1
      · rw [inOrder_singleton_fst, (drawStage_eq d function site).1]
        exact (draw_written hartifact _ _ _ hkept).1

/-- **The stages of a run enter what its parts bring.** They succeed if all parts work and the
drawing can be made of the store that they come to. -/
theorem enters_stages (h : Undisturbed o c w Kept) (hfs : Kept fs) :
    let is := o.parts.flatMap (brings w o c.headers fs)
    Enters Kept (stages o c.headers w) is fun a =>
      (∀ b ∈ o.parts, Works w o c.headers fs b) ∧
        Draws o w.logDirectory fs (takeIn is a) := by
  have hpasses := (enters_passStages h hfs).append (enters_headerStage h hfs)
  refine (hpasses.append (enters_drawStage h.drawing hfs)).congr ?_ fun a => ?_
  · rw [List.append_nil, ← List.flatMap_append, ← Options.parts_eq]
  · rw [← List.forall_mem_append, ← List.flatMap_append, ← Options.parts_eq]

end Stages

end Cli

end CallForest
