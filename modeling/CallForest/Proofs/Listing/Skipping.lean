import CallForest.Proofs.Graph.Mirror
import CallForest.Proofs.Listing.WellNested

/-!
# Names to skip

Skipping names takes calls away and changes nothing else (`OnlyRemoves`): a listing with names to
skip is read as far, with the same error and the same frames open, as the listing without, and its
calls are those of the other that have no hidden end. So with more names to skip there are fewer
calls, and those that are left have the same ends and the same order (`skipping_onlyRemoves`).

Two runs are compared step by step. Their chains differ only in what the frames are known to be
(`Frame.reveal`), and neither where a line finds itself nor whether it is refused depends on that
(`place_reveal`).
-/

namespace CallForest.Reconstruction

open Listing

/-- A call that has no hidden end. -/
def Shown (resolve : String → Option Node) (skip : List String) (e : Edge) : Prop :=
  ¬ Hidden resolve skip e.caller.name ∧ ¬ Hidden resolve skip e.callee.name

instance (resolve : String → Option Node) (skip : List String) (e : Edge) :
    Decidable (Shown resolve skip e) :=
  inferInstanceAs (Decidable (_ ∧ _))

/-- What a listing comes to in a store with some names to skip, against what it comes to with
none. -/
structure OnlyRemoves {σ : Type} [GraphStore σ] (skip : List String) (listing : String)
    (store : σ) : Prop where
  failure_eq : (rebuild skip listing store).2.failure = (rebuild [] listing store).2.failure
  lines_eq : (rebuild skip listing store).2.summary.lines =
    (rebuild [] listing store).2.summary.lines
  depth_eq : (rebuild skip listing store).2.frames.length =
    (rebuild [] listing store).2.frames.length
  /-- Just the calls with a hidden end are left out. -/
  edges_eq : (rebuild skip listing store).2.edges =
    (rebuild [] listing store).2.edges.filter fun e => Shown (resolveNode store) skip e
  store_eq : (rebuild skip listing store).1 = recordEdges
    ((rebuild [] listing store).2.edges.filter fun e => Shown (resolveNode store) skip e) store
  /-- A line that is skipped would be unresolved. -/
  counts_eq : (rebuild skip listing store).2.summary.unresolved +
      (rebuild skip listing store).2.summary.skipped =
    (rebuild [] listing store).2.summary.unresolved
  /-- With more names to skip, calls are left out of those there are. -/
  more : ∀ names, skip ⊆ names →
    (rebuild names listing store).2.edges =
        (rebuild skip listing store).2.edges.filter
          (fun e => Shown (resolveNode store) names e) ∧
      (rebuild names listing store).2.edges.Sublist (rebuild skip listing store).2.edges

/-! ## Frames as they are without names to skip -/

/-- What would be known of a name if none were skipped. -/
def Standing.reveal : Standing → Standing
  | .skipped => .unresolved
  | .registered => .registered
  | .unresolved => .unresolved

def Frame.reveal (f : Frame) : Frame :=
  { f with standing := f.standing.reveal }

def Chain.reveal (c : Chain) : Chain :=
  { c with frames := c.frames.map Frame.reveal }

def Place.reveal (p : Place) : Place :=
  { p with callers := p.callers.map Frame.reveal }

/-- Where a line finds itself depends on how many frames are open, not on what is known of them. -/
theorem place_reveal (c : Chain) (l : Line) :
    c.reveal.place l = (c.place l).map Place.reveal := by
  unfold Chain.place Chain.reveal
  simp only [List.length_map]
  split
  · rfl
  · split
    · split
      · simp only [Except.map, Place.reveal, List.map_tail]
      · rfl
    · split
      · rfl
      · simp only [Except.map, Place.reveal, List.map_drop]

section Frames

variable (resolve : String → Option Node) (skip : List String)

theorem reveal_frameAt (l : Line) :
    (frameAt resolve skip l).reveal = frameAt resolve [] l := by
  unfold frameAt frameOf
  cases resolve l.name with
  | some node => rfl
  | none => by_cases h : l.name ∈ skip <;> simp [h, Frame.reveal, Standing.reveal]

/-- A frame that is skipped just if the name of its node is hidden. -/
def Frame.Fair (f : Frame) : Prop :=
  f.standing = .skipped ↔ Hidden resolve skip f.node.name

variable {resolve skip}

theorem fair_frameAt (hname : ∀ name, (nodeOf resolve name).name = name) (l : Line) :
    (frameAt resolve skip l).Fair resolve skip := by
  rw [Frame.Fair, standing_skipped_iff, node_frameAt, hname]

/-- The call between two frames is the one that they have without names to skip, if it is shown. -/
theorem toList_link {caller callee : Frame} (hcaller : caller.Fair resolve skip)
    (hcallee : callee.Fair resolve skip) :
    (link caller callee).toList =
      (link caller.reveal callee.reveal).toList.filter fun e => Shown resolve skip e := by
  have hreveal : ∀ f : Frame, f.reveal.standing ≠ .skipped := by
    rintro ⟨node, standing⟩
    cases standing <;> exact Standing.noConfusion
  -- with no names to skip there is a call between any two frames
  have hfull : link caller.reveal callee.reveal = some ⟨caller.node, callee.node⟩ :=
    if_neg (not_or.mpr ⟨hreveal caller, hreveal callee⟩)
  have hshown : Shown resolve skip ⟨caller.node, callee.node⟩ ↔
      ¬ (caller.standing = .skipped ∨ callee.standing = .skipped) := by
    rw [not_or]
    exact and_congr (not_congr hcaller.symm) (not_congr hcallee.symm)
  rw [hfull, link, Option.toList_some, List.filter_singleton]
  by_cases h : caller.standing = .skipped ∨ callee.standing = .skipped <;> simp [hshown, h]

end Frames

/-! ## Two runs -/

/-- Counts with names to skip, and without. -/
structure Summary.Matches (s t : Summary) : Prop where
  lines_eq : s.lines = t.lines
  counts_eq : s.unresolved + s.skipped = t.unresolved

theorem Summary.Matches.meet {s t : Summary} (h : s.Matches t) (standing : Standing) :
    (s.meet standing).Matches (t.meet standing.reveal) := by
  have hcounts := h.counts_eq
  cases standing with
  | registered => exact h
  | unresolved =>
      refine ⟨h.lines_eq, ?_⟩
      simp only [Summary.meet, Standing.reveal]
      omega
  | skipped =>
      refine ⟨h.lines_eq, ?_⟩
      simp only [Summary.meet, Standing.reveal]
      omega

theorem Summary.Matches.finish {s t : Summary} (h : s.Matches t) (e f : Option Edge) :
    (s.finish e).Matches (t.finish f) :=
  ⟨congrArg (· + 1) h.lines_eq, h.counts_eq⟩

/-- An outcome with names to skip, and without. -/
structure Outcome.Thins (resolve : String → Option Node) (skip : List String)
    (thin full : Outcome) : Prop where
  failure_eq : thin.failure = full.failure
  depth_eq : thin.frames.length = full.frames.length
  edges_eq : thin.edges = full.edges.filter fun e => Shown resolve skip e
  summary_matches : thin.summary.Matches full.summary

section Run

variable {resolve : String → Option Node} {skip : List String}

theorem Outcome.Thins.abandoned {frames : List Frame} {s t : Summary} (h : s.Matches t)
    (e : ReconstructError) :
    Outcome.Thins resolve skip (.abandoned frames s e)
      (.abandoned (frames.map Frame.reveal) t e) where
  failure_eq := rfl
  depth_eq := (List.length_map _).symm
  edges_eq := rfl
  summary_matches := h

theorem Outcome.Thins.prepend {thin full : Outcome} (h : Outcome.Thins resolve skip thin full)
    {e f : Option Edge}
    (hlink : e.toList = f.toList.filter fun e => Shown resolve skip e) :
    Outcome.Thins resolve skip (thin.prepend e) (full.prepend f) where
  failure_eq := h.failure_eq
  depth_eq := h.depth_eq
  edges_eq := by
    rw [Outcome.prepend, Outcome.prepend, List.filter_append, hlink, h.edges_eq]
  summary_matches := h.summary_matches

/-- **Two runs side by side**, one with names to skip and one without. -/
theorem thins_run (hname : ∀ name, (nodeOf resolve name).name = name) {s t : Summary}
    (chain : Chain) (n : Nat) (raws : List (List Char))
    (hfair : ∀ f ∈ chain.frames, f.Fair resolve skip) (h : s.Matches t) :
    Outcome.Thins resolve skip (run resolve skip chain s n raws)
      (run resolve [] chain.reveal t n raws) := by
  induction raws generalizing chain s t n with
  | nil => exact ⟨rfl, (List.length_map _).symm, rfl, h⟩
  | cons raw rest ih =>
      rcases step_cases chain n raw with ⟨e, hraw⟩ | ⟨l, hraw, hstep⟩
      · rw [run_of_parse_error hraw, run_of_parse_error hraw]
        exact .abandoned h _
      · have hl : (frameAt resolve skip l).Fair resolve skip := fair_frameAt hname l
        have hmet : (s.meet (frameAt resolve skip l).standing).Matches
            (t.meet (frameAt resolve [] l).standing) := by
          rw [← reveal_frameAt resolve skip l]
          exact h.meet _
        -- once the line is taken in, the rest is read alike, whatever call it made
        have hrest : ∀ callers, (∀ f ∈ callers, f.Fair resolve skip) → ∀ e f,
            Outcome.Thins resolve skip
              (run resolve skip ⟨frameAt resolve skip l :: callers, l.indent⟩
                ((s.meet (frameAt resolve skip l).standing).finish e) (n + 1) rest)
              (run resolve [] ⟨frameAt resolve [] l :: callers.map Frame.reveal, l.indent⟩
                ((t.meet (frameAt resolve [] l).standing).finish f) (n + 1) rest) := by
          intro callers hcallers e f
          rw [← reveal_frameAt resolve skip l] at hmet ⊢
          exact ih _ (n + 1) (List.forall_mem_cons.mpr ⟨hl, hcallers⟩) (hmet.finish e f)
        have hfull := place_reveal chain l
        rcases hstep with ⟨e, hplace⟩ | hplace | ⟨callers, hplace⟩ | ⟨caller, callers, hplace⟩ <;>
          rw [hplace] at hfull
        · rw [run_of_place_error hraw hplace, run_of_place_error hraw hfull]
          exact .abandoned hmet e
        · rw [run_of_orphan hraw hplace, run_of_orphan hraw hfull]
          exact .abandoned hmet _
        · rw [run_of_root hraw hplace, run_of_root hraw hfull]
          exact hrest _ (fun f hf => hfair f (mem_frames_of_place hplace f hf)) none none
        · have hcallers : ∀ f ∈ caller :: callers, f.Fair resolve skip := fun f hf =>
            hfair f (mem_frames_of_place hplace f hf)
          have hlink := toList_link (hcallers caller List.mem_cons_self) hl
          rw [reveal_frameAt] at hlink
          rw [run_of_nested hraw hplace, run_of_nested hraw hfull]
          exact (hrest _ hcallers _ _).prepend hlink

end Run

/-! ## Stores -/

/-- With more names to skip fewer calls are shown. -/
theorem Shown.of_subset {resolve : String → Option Node} {skip names : List String} {e : Edge}
    (h : Shown resolve names e) (hsubset : skip ⊆ names) : Shown resolve skip e :=
  ⟨fun hidden => h.1 ⟨hidden.1, hsubset hidden.2⟩, fun hidden => h.2 ⟨hidden.1, hsubset hidden.2⟩⟩

/-- Skipping only removes calls in a store in which every name stands for a node of that name. -/
theorem OnlyRemoves.of_names {σ : Type} [GraphStore σ] {store : σ}
    (hname : ∀ name, (nodeOf (resolveNode store) name).name = name) (skip : List String)
    (listing : String) : OnlyRemoves skip listing store := by
  have hthins : ∀ names, Outcome.Thins (resolveNode store) names (rebuild names listing store).2
      (rebuild [] listing store).2 := fun names =>
    thins_run hname .start 1 (records listing) (by simp [Chain.start]) ⟨rfl, rfl⟩
  have h := hthins skip
  refine ⟨h.failure_eq, h.summary_matches.lines_eq, h.depth_eq, h.edges_eq,
    congrArg (recordEdges · store) h.edges_eq, h.summary_matches.counts_eq,
    fun names hsubset => ?_⟩
  have hmore : (rebuild names listing store).2.edges =
      (rebuild skip listing store).2.edges.filter
        fun e => Shown (resolveNode store) names e := by
    rw [(hthins names).edges_eq, h.edges_eq, List.filter_filter]
    apply List.filter_congr
    intro e _
    by_cases hshown : Shown (resolveNode store) names e
    · simp [hshown, hshown.of_subset hsubset]
    · simp [hshown]
  refine ⟨hmore, ?_⟩
  rw [hmore]
  exact List.filter_sublist

/-- **Skipping only removes calls**, from any ledger, and from any archive that has had room for
what was done to it. -/
theorem skipping_onlyRemoves (skip : List String) (listing : String) :
    (∀ l : Ledger, OnlyRemoves skip listing l) ∧
      ∀ ops, Archive.Fits ops → OnlyRemoves skip listing (performAll ops Archive.empty) := by
  constructor
  · intro l
    exact .of_names (name_nodeOf l) skip listing
  · intro ops hfits
    refine .of_names (fun name => ?_) skip listing
    rw [hfits.mirrors.resolveNode_eq]
    exact name_nodeOf _ name

/-- What was done to an archive in which `main` is registered and has called something. -/
def skippingHistory : List StoreOperation :=
  [.registerFunction ⟨"src/app.c", "app.c", "main", 20, "int main (void)", none⟩,
    .recordEdge ⟨⟨"app.c", "main"⟩, .unresolved "old"⟩]

def skippingArchive : Archive :=
  performAll skippingHistory Archive.empty

theorem skipping_sample :
    Archive.Fits skippingHistory ∧
      (rebuild ["skip"] sampleListing skippingArchive).2.edges = sampleCalls ∧
      (rebuild ["skip", "main", "step"] sampleListing skippingArchive).2.edges =
        sampleCalls.filter fun e => e.callee.name ≠ "step" := by
  have hfits : Archive.Fits skippingHistory := by decide +kernel
  have hcalls : (rebuild ["skip"] sampleListing skippingArchive).2.edges = sampleCalls := by
    have htext : records sampleListing = _ := records_ofList_append _ _
    rw [rebuild, reconstruct, htext]
    decide +kernel
  have hmore := (((skipping_onlyRemoves ["skip"] sampleListing).2 _ hfits).more
    ["skip", "main", "step"] (by decide)).1
  rw [← skippingArchive, hcalls] at hmore
  exact ⟨hfits, hcalls, hmore.trans (by decide +kernel)⟩

end CallForest.Reconstruction
