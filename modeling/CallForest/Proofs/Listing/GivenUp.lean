import CallForest.Proofs.Graph.Series
import CallForest.Proofs.Text.Lines
import CallForest.Proofs.Listing.Stops

/-!
# Listings that are given up

A listing that is given up at a record is worth as much as the records in front of it: these are a
listing that is read to its end, and it leaves the same store (`KeepsFront`). The record that ends
the listing may have closed frames and have been counted by then, but nothing of that reaches the
store, or the next listing: what a rebuilder had open when it began makes no difference either
(`read_keepsFront`).
-/

namespace CallForest

open Listing Reconstruction

/-- Given up or not, the calls of a listing are recorded in the store. -/
theorem Rebuilder.store_read {σ : Type} [GraphStore σ] (skip : List String) (listing : String)
    (b : Rebuilder σ) :
    (b.read skip listing).1.store = recordEdges (b.read skip listing).2.edges b.store :=
  rfl

/-- What is left of a listing that a rebuilder gives up, `registry` being what a store holds beside
calls. -/
structure KeepsFront {σ ρ : Type} [GraphStore σ] (registry : σ → ρ) (skip : List String)
    (listing : String) (b : Rebuilder σ) (e : ReconstructError) : Prop where
  /-- The error has the number of a record. -/
  lineNo_mem : 0 < e.lineNo ∧ e.lineNo ≤ (records listing).length
  /-- All lines in front of that record are finished. -/
  lines_eq : (b.read skip listing).2.summary.lines = e.lineNo - 1
  /-- Up to that record and with it, the listing is given up for the same reason. -/
  stops : ((Rebuilder.new b.store).read skip (firstRecords e.lineNo listing)).2.failure = some e
  /-- Without that record it is read to its end. -/
  front_read :
    ((Rebuilder.new b.store).read skip (firstRecords (e.lineNo - 1) listing)).2.failure = none
  /-- The calls are those of the records in front. -/
  edges_eq : (b.read skip listing).2.edges =
    ((Rebuilder.new b.store).read skip (firstRecords (e.lineNo - 1) listing)).2.edges
  store_eq : (b.read skip listing).1.store =
    ((Rebuilder.new b.store).read skip (firstRecords (e.lineNo - 1) listing)).1.store
  registry_eq : registry (b.read skip listing).1.store = registry b.store

/-- A listing that is given up keeps its front, if recorded calls do not change the registry. -/
theorem KeepsFront.of_failure {σ ρ : Type} [GraphStore σ] {registry : σ → ρ}
    (hregistry : ∀ es store, registry (recordEdges es store) = registry store) {skip : List String}
    {listing : String} {b : Rebuilder σ} {e : ReconstructError}
    (h : (b.read skip listing).2.failure = some e) : KeepsFront registry skip listing b e := by
  rcases readToEnd_or_stops (records listing) with
    ⟨lines, hread, hall⟩ | ⟨done, raw, rest, lines, e', hrecords, hread, hall, hstop⟩
  · have hrun := reconstruct_of_admitsAll (resolveNode b.store) skip hread hall
    cases h.symm.trans (congrArg Outcome.failure hrun)
  · obtain ⟨frames, counts, hcounts, hrun⟩ :=
      reconstruct_of_stops (resolveNode b.store) skip hrecords hread hall hstop
    obtain rfl : e = e' := Option.some.inj (h.symm.trans (congrArg Outcome.failure hrun))
    have hlineNo : e.lineNo = lines.length + 1 := hstop.lineNo_eq
    have hlength := readAll_length hread
    -- the records in front, and with them the one that ends the listing
    have hfront : records (firstRecords (e.lineNo - 1) listing) = done := by
      rw [records_firstRecords, hrecords, hlineNo, Nat.add_sub_cancel, hlength, List.take_left]
    have hwith : records (firstRecords e.lineNo listing) = done ++ [raw] := by
      rw [records_firstRecords, hrecords, hlineNo, hlength, List.take_append,
        Nat.add_sub_cancel_left, List.take_of_length_le (Nat.le_succ _)]
      rfl
    have hshort := reconstruct_of_admitsAll (resolveNode b.store) skip (hfront ▸ hread) hall
    obtain ⟨_, _, -, hlast⟩ :=
      reconstruct_of_stops (resolveNode b.store) skip hwith hread hall hstop
    have hedges : (b.read skip listing).2.edges =
        ((Rebuilder.new b.store).read skip (firstRecords (e.lineNo - 1) listing)).2.edges :=
      (congrArg Outcome.edges hrun).trans (congrArg Outcome.edges hshort).symm
    exact {
      lineNo_mem := by
        rw [hlineNo, hrecords, List.length_append, List.length_cons]
        omega
      lines_eq := by
        rw [hlineNo]
        exact (congrArg (fun o : Outcome => o.summary.lines) hrun).trans hcounts
      stops := congrArg Outcome.failure hlast
      front_read := congrArg Outcome.failure hshort
      edges_eq := hedges
      store_eq := by
        rw [Rebuilder.store_read, Rebuilder.store_read, hedges]
        rfl
      registry_eq := by rw [Rebuilder.store_read, hregistry] }

/-- **What is given up keeps its front**, in both stores, whatever a rebuilder has read before. -/
theorem read_keepsFront (skip : List String) (listing : String) (e : ReconstructError) :
    (∀ b : Rebuilder Ledger, (b.read skip listing).2.failure = some e →
        KeepsFront (fun l : Ledger => (l.files, l.functions)) skip listing b e) ∧
      ∀ b : Rebuilder Archive, (b.read skip listing).2.failure = some e →
        KeepsFront (fun a : Archive => (a.files, a.functions)) skip listing b e := by
  constructor
  · intro b
    refine KeepsFront.of_failure fun es l => ?_
    rw [Ledger.recordEdges_eq]
  · intro b
    refine KeepsFront.of_failure fun es a => ?_
    obtain ⟨m, n, heq⟩ := a.recordEdges_eq es
    rw [heq]

/-- A listing with eight spaces to a level that returns to a root. -/
def deepReturn : String :=
  "main()\n        foo()\n                bar()\nnext()\n    last()\n"

/-- A rebuilder that has just given up another listing. -/
def interrupted : Rebuilder Archive :=
  ((Rebuilder.new Archive.empty).read [] "a()\n    b()\n        c()\n\nd()\n").1

theorem read_deepReturn :
    interrupted.chain.frames.length = 3 ∧
      (interrupted.read [] deepReturn).2.failure = some (.stackUnderflow 4 5 3) ∧
      firstRecords 3 deepReturn = "main()\n        foo()\n                bar()\n" ∧
      (interrupted.read [] deepReturn).1.store =
        ((Rebuilder.new interrupted.store).read [] (firstRecords 3 deepReturn)).1.store := by
  have hrecords : records deepReturn = _ := records_ofList _
  have hopen : interrupted.chain.frames.length = 3 := by
    rw [interrupted, Rebuilder.read, records_ofList]
    decide +kernel
  have hfail : (interrupted.read [] deepReturn).2.failure = some (.stackUnderflow 4 5 3) := by
    rw [Rebuilder.read, hrecords]
    decide +kernel
  have hfirst : firstRecords 3 deepReturn = "main()\n        foo()\n                bar()\n" := by
    rw [firstRecords, hrecords]
    decide +kernel
  have hstore := ((read_keepsFront [] deepReturn _).2 interrupted hfail).store_eq
  have hlineNo : (ReconstructError.stackUnderflow 4 5 3).lineNo - 1 = 3 := rfl
  rw [hlineNo] at hstore
  exact ⟨hopen, hfail, hfirst, hstore⟩

end CallForest
