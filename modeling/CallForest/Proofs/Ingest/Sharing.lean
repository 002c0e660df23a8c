import CallForest.Ingest

/-!
# One rebuilder for all files

The edge pass reads the listings of all files with one rebuilder. Between two files it has open what
the last listing left, which may be anything if that listing was given up. This does no harm: a
rebuilder begins every listing afresh, so every file is handled as by a rebuilder of its own
(`edgesIn_map`), and the pass comes to the same, log and report included (`indexEdges_eq`).
-/

namespace CallForest

namespace Rebuilder

variable {σ : Type}

@[simp] theorem store_new (store : σ) : (new store).store = store := rfl

variable [GraphStore σ] (skip : List String) (listing : String) (b : Rebuilder σ)

/-- What a rebuilder makes of a listing does not depend on what it has open. -/
@[simp] theorem outcome_read : (b.read skip listing).2 = (rebuild skip listing b.store).2 := rfl

end Rebuilder

namespace Site

variable {σ τ : Type} (f : σ → τ) (site : Site σ)

@[simp] theorem store_note (es : List Event) : (site.note es).store = site.store := rfl

@[simp] theorem files_note (es : List Event) : (site.note es).files = site.files := rfl

@[simp] theorem store_hear {α : Type} (r : Reply α) : (site.hear r).store = site.store := rfl

@[simp] theorem files_hear {α : Type} (r : Reply α) : (site.hear r).files = r.files := rfl

@[simp] theorem store_dump (d : LogDirectory) (kind : DumpKind) (path text : String) :
    (site.dump d kind path text).store = site.store := rfl

@[simp] theorem files_dump (d : LogDirectory) (kind : DumpKind) (path text : String) :
    (site.dump d kind path text).files = (d.dump kind path text site.files).1 := rfl

@[simp] theorem store_map : (site.map f).store = f site.store := rfl

@[simp] theorem files_map : (site.map f).files = site.files := rfl

theorem map_note (es : List Event) : (site.note es).map f = (site.map f).note es := rfl

theorem hear_map {α : Type} (r : Reply α) : (site.map f).hear r = (site.hear r).map f := rfl

theorem dump_map (d : LogDirectory) (kind : DumpKind) (path text : String) :
    (site.map f).dump d kind path text = (site.dump d kind path text).map f := by
  unfold dump
  rw [files_map]
  cases d.dump kind path text site.files
  rfl

end Site

namespace Ingest

section Run

variable {σ τ : Type} {f : τ → σ}
  {shared : SourceEntry → Site τ → Site τ × Except IngestError Unit}
  {handle : SourceEntry → Site σ → Site σ × Except IngestError Unit}

/-- If a handler does the same after a part of the store has been left out, so does a pass with
it. -/
theorem runPass_map
    (h : ∀ entry site, (shared entry site).map (Site.map f) id = handle entry (site.map f))
    (pass : Pass) (report : BatchReport) (entries : List SourceEntry) (site : Site τ) :
    (runPass pass shared report entries site).map (Site.map f) id =
      runPass pass handle report entries (site.map f) := by
  induction entries generalizing report site with
  | nil => rfl
  | cons entry entries ih =>
      rw [runPass, runPass, Site.files_map]
      split
      · have hstep := h entry (site.note [.processing pass entry.shortPath])
        rw [Site.map_note] at hstep
        rw [← hstep]
        generalize shared entry (site.note [.processing pass entry.shortPath]) = x
        obtain ⟨next, result⟩ := x
        -- the handler's result is what the pass branches on, and leaving out does not touch it
        cases result with
        | ok _ => exact ih _ next
        | error e =>
            cases e with
            | collaborator e =>
                cases e with
                | missing program cause => rfl
                | failed _ _ _ _ | timedOut _ _ _ | io _ _ _ => exact ih _ _
            | reconstruct e => exact ih _ _
            | io path cause => exact ih _ _
      · exact ih _ _

end Run

section Edges

variable {σ : Type} [GraphStore σ]

/-- Records the calls of a file with a rebuilder of its own. -/
def edgesAfresh (w : Workshop) (entry : SourceEntry) (site : Site σ) :
    Site σ × Except IngestError Unit :=
  (edgesIn w entry (site.map Rebuilder.new)).map (Site.map Rebuilder.store) id

/-- Whatever a rebuilder has open, it handles a file as a new one does. -/
theorem edgesIn_map (w : Workshop) (entry : SourceEntry) (site : Site (Rebuilder σ)) :
    (edgesIn w entry site).map (Site.map Rebuilder.store) id =
      edgesAfresh w entry (site.map Rebuilder.store) := by
  unfold edgesAfresh edgesIn
  simp only [Site.files_map, Site.hear_map, Site.dump_map]
  generalize w.extractor.listing .callTree entry.fullPath site.files = reply
  cases reply.answer with
  | error e => rfl
  | ok listing =>
      simp only [Rebuilder.outcome_read, Site.store_map, Rebuilder.store_new]
      generalize (site.hear reply).dump w.logDirectory .edges entry.shortPath listing = dumped
      cases (rebuild w.skip listing dumped.store.store).2.failure with
      | none => rfl
      | some e => rfl

/-- The pass over the calls comes to what it would with a new rebuilder for every file. -/
theorem indexEdges_eq (w : Workshop) (entries : List SourceEntry) (site : Site σ) :
    indexEdges w entries site =
      probed .edges w.extractor.probe (edgesAfresh w) entries site := by
  unfold indexEdges probed
  simp only [Site.files_map]
  cases (w.extractor.probe site.files).answer with
  | error e => rfl
  | ok version => exact runPass_map (edgesIn_map w) .edges .zero entries _

end Edges

end Ingest

end CallForest
