import CallForest.Proofs.Graph.Operation
import CallForest.Proofs.Listing.Chain

/-!
# Rebuilding a well-nested listing

What a well-nested listing expresses is said without any chain of frames: a line at level `m + 1` is
called by the last earlier line at level `m`. Rebuilding records exactly those calls
(`rebuild_wellNested`), whatever names are registered and whatever the store holds. A name that is
neither registered nor wanted makes no call, but its line keeps its place in the nesting.
-/

namespace CallForest.Reconstruction

open Listing

/-- The node that a name stands for: its record's, or the unresolved one. -/
def nodeOf (resolve : String → Option Node) (name : String) : Node :=
  (resolve name).getD (.unresolved name)

/-- A name that makes no calls: it is not registered, and among those to be skipped. -/
def Hidden (resolve : String → Option Node) (skip : List String) (name : String) : Prop :=
  resolve name = none ∧ name ∈ skip

instance (resolve : String → Option Node) (skip : List String) (name : String) :
    Decidable (Hidden resolve skip name) :=
  inferInstanceAs (Decidable (_ ∧ _))

/-- The call between two lines, unless one of them is hidden. -/
def callBetween (resolve : String → Option Node) (skip : List String) (caller callee : Line) :
    Option Edge :=
  if Hidden resolve skip caller.name ∨ Hidden resolve skip callee.name then none
  else some ⟨nodeOf resolve caller.name, nodeOf resolve callee.name⟩

/-- The calls that the nesting of the lines expresses, in the order of the lines. -/
def nestedCalls (resolve : String → Option Node) (skip : List String) (lines : List Line) :
    List Edge :=
  (withEarlier [] lines).filterMap fun x =>
    (parent? x.1 x.2).bind fun p => callBetween resolve skip p x.2

/-! ## Frames -/

section Frames

variable (resolve : String → Option Node) (skip : List String)

theorem node_frameAt (l : Line) : (frameAt resolve skip l).node = nodeOf resolve l.name := by
  unfold frameAt frameOf nodeOf
  cases resolve l.name <;> rfl

theorem standing_skipped_iff (l : Line) :
    (frameAt resolve skip l).standing = .skipped ↔ Hidden resolve skip l.name := by
  unfold frameAt frameOf Hidden
  cases resolve l.name with
  | some node => simp
  | none => by_cases h : l.name ∈ skip <;> simp [h]

theorem standing_unresolved_iff (l : Line) :
    (frameAt resolve skip l).standing = .unresolved ↔ resolve l.name = none ∧ l.name ∉ skip := by
  unfold frameAt frameOf
  cases resolve l.name with
  | some node => simp
  | none => by_cases h : l.name ∈ skip <;> simp [h]

theorem link_frameAt (p l : Line) :
    link (frameAt resolve skip p) (frameAt resolve skip l) = callBetween resolve skip p l := by
  unfold link callBetween
  simp only [standing_skipped_iff, node_frameAt]

end Frames

/-- In a ledger a name stands for a node of that name. -/
theorem name_nodeOf (l : Ledger) (name : String) : (nodeOf (resolveNode l) name).name = name := by
  have hresolve : resolveNode l name = (l.function? name).map FunctionRecord.node := rfl
  rw [nodeOf, hresolve]
  cases hr : l.function? name with
  | none => rfl
  | some r => exact Ledger.name_of_function? hr

/-! ## Well-nested listings -/

/-- In a well-nested listing the calls from the lines left open are those from the parents. -/
theorem callsAfter_eq_nestedCalls (resolve : String → Option Node) (skip : List String)
    {lines : List Line} (h : WellNested lines) :
    callsAfter (frameAt resolve skip) [] lines = nestedCalls resolve skip lines := by
  unfold callsAfter nestedCalls
  apply List.filterMap_congr
  intro x hx
  unfold callAt
  rw [opener?_eq_parent? (h.admitsAll.accepted_of_mem hx) (h.leftOut_of_mem hx)]
  simp only [link_frameAt]

/-- After a well-nested listing as many frames are open as the last line has levels, and its own. -/
theorem length_frames_wellNested (frame : Line → Frame) {lines : List Line}
    (h : WellNested lines) :
    (chainAfter frame lines.reverse).frames.length =
      (lines.getLast?.map fun l => l.level + 1).getD 0 := by
  have acc := h.admitsAll.accepted
  have hzero := h.leftOut_reverse
  rw [List.getLast?_eq_head?_reverse]
  cases hrev : lines.reverse with
  | nil => rfl
  | cons l before =>
      rw [hrev] at acc hzero
      rw [length_frames_chainAfter frame acc, height, hzero]
      rfl

/-- **A well-nested listing is rebuilt exactly.** For every store and every set of names to skip,
the listing is read to its end, and recorded are, in the order of the lines, the calls from the
parent of each nested line to the line, those with a hidden end left out. -/
theorem rebuild_wellNested {σ : Type} [GraphStore σ] (store : σ) (skip : List String)
    (listing : String) (lines : List Line) (hread : readAll 1 (records listing) = .ok lines)
    (hnested : WellNested lines) :
    (∀ x ∈ withEarlier [] lines, 0 < x.2.level → (parent? x.1 x.2).isSome) ∧
      ∃ frames,
        rebuild skip listing store =
          (recordEdges (nestedCalls (resolveNode store) skip lines) store,
            { edges := nestedCalls (resolveNode store) skip lines
              summary :=
                { lines := (records listing).length
                  edges := (nestedCalls (resolveNode store) skip lines).length
                  unresolved := lines.countP fun l =>
                    GraphStore.lookup? l.name store = none ∧ l.name ∉ skip
                  skipped := lines.countP fun l =>
                    GraphStore.lookup? l.name store = none ∧ l.name ∈ skip }
              frames := frames
              failure := none }) ∧
        frames.length = (lines.getLast?.map fun l => l.level + 1).getD 0 := by
  have hrun := reconstruct_of_admitsAll (resolveNode store) skip hread hnested.admitsAll
  rw [callsAfter_eq_nestedCalls _ _ hnested] at hrun
  constructor
  · intro x hx hpos
    have acc := hnested.admitsAll.accepted_of_mem hx
    rw [← opener?_eq_parent? acc (hnested.leftOut_of_mem hx)]
    exact isSome_opener? acc hpos
  · refine ⟨_, ?_, length_frames_wellNested (frameAt (resolveNode store) skip) hnested⟩
    unfold rebuild
    rw [hrun]
    simp only [Summary.after, Summary.zero, Nat.zero_add, standing_unresolved_iff,
      standing_skipped_iff, readAll_length hread, Hidden, resolveNode, Option.map_eq_none_iff]

/-- A listing with a registered root, a skipped name that calls something, and a second root. -/
def sampleListing : String :=
  "main() <int main (void)>:\n    run()\n        step()\n    skip()\n" ++
    "        inner()\n    stop\nend()\n"

/-- The lines of the sample. -/
def sampleLines : List Line :=
  [⟨1, 0, "main"⟩, ⟨2, 4, "run"⟩, ⟨3, 8, "step"⟩, ⟨4, 4, "skip"⟩, ⟨5, 8, "inner"⟩, ⟨6, 4, "stop"⟩,
    ⟨7, 0, "end"⟩]

theorem readAll_sampleListing : readAll 1 (records sampleListing) = .ok sampleLines := by
  have htext : records sampleListing = _ := records_ofList_append _ _
  rw [htext]
  decide +kernel

theorem wellNested_sampleLines : WellNested sampleLines :=
  ⟨by decide, by decide⟩

/-- A store that knows the root of the sample, and has an edge already. -/
def sampleLedger : Ledger :=
  ⟨[], [⟨"src/app.c", "app.c", "main", 20, "int main (void)", none⟩],
    [⟨.unresolved "old", ⟨"app.c", "main"⟩⟩]⟩

/-- The calls of the sample when `skip` is to be skipped. -/
def sampleCalls : List Edge :=
  [⟨⟨"app.c", "main"⟩, .unresolved "run"⟩, ⟨.unresolved "run", .unresolved "step"⟩,
    ⟨⟨"app.c", "main"⟩, .unresolved "stop"⟩]

theorem rebuild_sample :
    readAll 1 (records sampleListing) = .ok sampleLines ∧ WellNested sampleLines ∧
      ∃ frames, frames.length = 1 ∧
        rebuild ["skip", "main"] sampleListing sampleLedger =
          ({ sampleLedger with edges := sampleLedger.edges ++ sampleCalls },
            ⟨sampleCalls, ⟨7, 3, 5, 1⟩, frames, none⟩) := by
  have hcalls : nestedCalls (resolveNode sampleLedger) ["skip", "main"] sampleLines =
      sampleCalls := by decide +kernel
  obtain ⟨-, frames, hrebuild, hlength⟩ :=
    rebuild_wellNested sampleLedger ["skip", "main"] _ _ readAll_sampleListing
      wellNested_sampleLines
  rw [hcalls, ← readAll_length readAll_sampleListing] at hrebuild
  exact ⟨readAll_sampleListing, wellNested_sampleLines, frames, hlength, hrebuild⟩

end CallForest.Reconstruction
