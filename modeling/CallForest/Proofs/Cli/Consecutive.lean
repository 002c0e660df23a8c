import CallForest.Proofs.Cli.Settled
import CallForest.Proofs.Graph.History

/-!
# Several runs for one

What a run is asked for may be spread over several runs, each of which takes up what the one before
left: the parts are cut at any points, and every run gets some of them, with the same store and
otherwise the same options. If nothing that the runs write is read by them but the store, and all of
them succeed, then the one run that is asked for all parts succeeds as well, and leaves the same
archive (`runs_asOnce`). So every lookup, every list of callees, the count of calls and every
drawing is the same.

What a run writes may be what the next one reads. A drawing that takes the place of the file list
makes a difference (`drawing_replaces_list`).
-/

namespace CallForest.Cli

open Ingest (Batch)
open Intake (takeIn operationsOf takeIn_append takeIn_eq_performAll operationsOf_append)

/-- What runs leave of the files, each of which begins with what the one before left. -/
def filesBehind (host : Host) : List Options → FileSystem → FileSystem
  | [], fs => fs
  | o :: os, fs => filesBehind host os (runOptions host o fs).files

/-- All of these runs succeed. -/
def AllSucceed (host : Host) : List Options → FileSystem → Prop
  | [], _ => True
  | o :: os, fs =>
    (runOptions host o fs).code = 0 ∧ AllSucceed host os (runOptions host o fs).files

instance decidableAllSucceed (host : Host) :
    (os : List Options) → (fs : FileSystem) → Decidable (AllSucceed host os fs)
  | [], _ => isTrue trivial
  | o :: os, fs =>
    have := decidableAllSucceed host os (runOptions host o fs).files
    inferInstanceAs (Decidable ((runOptions host o fs).code = 0 ∧
      AllSucceed host os (runOptions host o fs).files))

/-- What several runs that have left `gs` have in common with the one run. -/
structure AsOnce (host : Host) (o : Options) (fs gs : FileSystem) : Prop where
  succeeds : (runOptions host o fs).code = 0
  /-- The same store is opened behind both. -/
  same_store : ∃ a, (openStore (runOptions host o fs).files (o.store.getD "")).2 = .ok a ∧
    (openStore gs (o.store.getD "")).2 = .ok a

section Continues

variable {host : Host} {o : Options} {c : Config} {w : Workshop} {Kept : FileSystem → Prop}
  {base fs : FileSystem} {site : Site Archive}

/-- Runs of some parts each leave the archive with what all these parts bring. All of the parts
work, and the drawing can be made of what is left. -/
theorem runs_enter (h : Continues host o c w Kept) (hbase : Kept base)
    {groups : List (List Batch)} (hgroups : ∀ ps ∈ groups, ps.Sublist o.parts)
    (hne : groups ≠ []) {ops : List StoreOperation}
    (hfits : Archive.Fits (ops ++ operationsOf
      (groups.flatten.flatMap (brings w o c.headers base)) (performAll ops Archive.empty)))
    (hbegins : Begins host o c w fs site) (hkept : Kept site.files)
    (hstore : site.store = performAll ops Archive.empty)
    (hruns : AllSucceed host (groups.map o.only) fs) :
    let left := takeIn (groups.flatten.flatMap (brings w o c.headers base))
      (performAll ops Archive.empty)
    (openStore (filesBehind host (groups.map o.only) fs) (o.store.getD "")).2 = .ok left ∧
      (∀ b ∈ groups.flatten, Works w o c.headers base b) ∧ Draws o w.logDirectory base left := by
  induction groups generalizing ops fs site with
  | nil => exact absurd rfl hne
  | cons ps groups ih =>
      obtain ⟨hps, hrest⟩ := List.forall_mem_cons.mp hgroups
      obtain ⟨hsucceeds, hruns⟩ := hruns
      obtain ⟨hworks, hdraws, gs, text, hgs, hfiles⟩ :=
        runOptions_only_enters h.toUndisturbed hbase hbegins hkept hps hsucceeds
      -- the archive that this run leaves is again one that operations lead to
      have hnext : takeIn (ps.flatMap (brings w o c.headers base)) (performAll ops Archive.empty) =
          performAll (ops ++ operationsOf (ps.flatMap (brings w o c.headers base))
            (performAll ops Archive.empty)) Archive.empty := by
        rw [takeIn_eq_performAll, performAll_append]
      rw [hstore, hnext] at hfiles hdraws
      rw [List.flatten_cons, List.flatMap_append, operationsOf_append, ← List.append_assoc,
        hnext] at hfits
      rw [List.flatten_cons, List.flatMap_append, takeIn_append, hnext, List.map_cons, filesBehind,
        hfiles]
      have himage := hfits.of_append.ofImage?_image
      cases groups with
      | nil =>
          rw [List.flatten_nil, List.append_nil]
          exact ⟨h.saved hgs _ text himage, hworks, hdraws⟩
      | cons next groups =>
          rw [hfiles] at hruns
          obtain ⟨c', w', site', hbegins'⟩ := begins_of_succeeds hruns.1
          obtain ⟨rfl, rfl, hstore', hkept'⟩ :=
            h.next hgs _ text himage (begins_only_iff.mp hbegins')
          obtain ⟨hopened, hworks', hdraws'⟩ := ih hrest (List.cons_ne_nil _ _) hfits
            (begins_only_iff.mp hbegins') hkept' hstore' hruns
          exact ⟨hopened, List.forall_mem_append.mpr ⟨hworks, hworks'⟩, hdraws'⟩

/-- **Runs one after another come to what the one run comes to** that is asked for all their parts,
if nothing that they write is read by them but the store, and all of them succeed. The first of them
begins on a site with whatever store operations lead to, which may be none. -/
theorem runs_asOnce (h : Continues host o c w Kept) (hbegins : Begins host o c w fs site)
    (hkept : Kept site.files) {groups : List (List Batch)} (hgroups : groups.flatten = o.parts)
    (hne : groups ≠ []) {ops : List StoreOperation}
    (hstore : site.store = performAll ops Archive.empty)
    (hfits : Archive.Fits (ops ++ operationsOf (o.parts.flatMap (brings w o c.headers site.files))
      (performAll ops Archive.empty)))
    (hruns : AllSucceed host (groups.map o.only) fs) :
    AsOnce host o fs (filesBehind host (groups.map o.only) fs) := by
  have hparts : ∀ ps ∈ groups, ps.Sublist o.parts := by
    intro ps hps
    rw [← hgroups]
    exact List.sublist_flatten_of_mem hps
  rw [← hgroups] at hfits
  obtain ⟨hopened, hworks, hdraws⟩ :=
    runs_enter h hkept hparts hne hfits hbegins hkept hstore hruns
  rw [hgroups] at hfits hopened hworks hdraws
  -- the one run begins as the first of them has
  obtain ⟨hcode, hleft⟩ := runOptions_enters h.toUndisturbed hkept hbegins hkept
  rw [hstore] at hcode hleft
  obtain ⟨gs, text, hgs, hfiles⟩ := hleft ⟨hworks, hdraws⟩
  have himage := hfits.ofImage?_image
  rw [performAll_append, ← takeIn_eq_performAll] at himage
  refine ⟨hcode.mpr ⟨hworks, hdraws⟩, _, ?_, hopened⟩
  rw [hfiles]
  exact h.saved hgs _ text himage

end Continues

/-- The sample passes in two runs. -/
def twoRuns : List (List Batch) :=
  [[.pass .functions], [.pass .edges]]

/-- They may be the first runs in a directory. -/
theorem runs_asOnce_fresh :
    let o := drawingOptions "list"
    let fs := freshFiles ("list", .file 1)
    let w := workshop .default quietHost freshSite.files
    Continues quietHost o .default w (freshSite.files.Rewritten [2] freshPlaces) ∧
      Begins quietHost o .default w fs freshSite ∧ AllSucceed quietHost (twoRuns.map o.only) fs ∧
        AsOnce quietHost o fs (filesBehind quietHost (twoRuns.map o.only) fs) := by
  intro o fs w
  have hcontinues := settled_freshSite.continues reads_quietHost
  have hkept := FileSystem.Rewritten.refl settled_freshSite.vacant [2]
  -- decided together, so that what the programs say is read once
  have hcheck : AllSucceed quietHost (twoRuns.map o.only) fs ∧
      Archive.Fits ([] ++ operationsOf (o.parts.flatMap (brings w o Config.default.headers
        freshSite.files)) (performAll [] Archive.empty)) := by
    decide +kernel
  obtain ⟨hruns, hfits⟩ := hcheck
  exact ⟨hcontinues, begins_freshSite, hruns, runs_asOnce hcontinues begins_freshSite hkept
    (by decide +kernel) (List.cons_ne_nil _ _) rfl hfits hruns⟩

/-- **A drawing that takes the place of the list makes a difference.** The second run finds the
drawing there, and reads no calls. -/
theorem drawing_replaces_list :
    ¬∀ (host : Host) (o : Options) (groups : List (List Batch)) (fs : FileSystem),
      groups.flatten = o.parts → groups ≠ [] → AllSucceed host (groups.map o.only) fs →
        AsOnce host o fs (filesBehind host (groups.map o.only) fs) := by
  intro h
  let o := drawingOptions "calltreelog/main-1"
  let fs := freshFiles ("calltreelog", .folder (.ofList [("main-1", .file 1)]))
  let countBehind (fs : FileSystem) : Option Nat :=
    (openStore fs "db").2.toOption.map GraphStore.edgeCount
  have hcounts : AllSucceed quietHost (twoRuns.map o.only) fs ∧
      countBehind (runOptions quietHost o fs).files = some 1 ∧
        countBehind (filesBehind quietHost (twoRuns.map o.only) fs) = some 0 := by
    decide +kernel
  obtain ⟨hruns, honce, hparts⟩ := hcounts
  obtain ⟨-, a, hone, hother⟩ := h quietHost o twoRuns fs (by decide +kernel)
    (List.cons_ne_nil _ _) hruns
  have hcount : countBehind (runOptions quietHost o fs).files =
      countBehind (filesBehind quietHost (twoRuns.map o.only) fs) := by
    show (openStore _ (o.store.getD "")).2.toOption.map _ =
      (openStore _ (o.store.getD "")).2.toOption.map _
    rw [hone, hother]
  cases (honce.symm.trans hcount).trans hparts

end CallForest.Cli
