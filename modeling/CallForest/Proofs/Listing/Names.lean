import CallForest.Proofs.Tree.Printing
import CallForest.Proofs.Xref.Definitions

/-!
# Names are words

Whatever a collaborator prints, what is read from it as a function's name is a word: not empty, and
without white space. That holds for the names of a cross-reference listing
(`isWord_of_mem_definitions`) and for those of a call listing (`isWord_of_parse`). A call listing
may be given up at any line: all calls found up to there are between nodes of words
(`exists_names_of_mem_edges`).
-/

namespace CallForest

namespace Text

theorem isWord_of_mem_words {w cs : List Char} (h : w ∈ words cs) : IsWord (String.ofList w) := by
  obtain ⟨hsplit, hne⟩ := List.mem_filter.mp h
  rw [List.splitOnP_eq_splitOnPPrepend] at hsplit
  have hblank := not_of_mem_splitOnPPrepend (fun _ hc => absurd hc List.not_mem_nil) hsplit
  refine ⟨fun hempty => ?_, by rwa [String.toList_ofList]⟩
  rw [← String.toList_eq_nil_iff, String.toList_ofList] at hempty
  rw [hempty] at hne
  cases hne

end Text

namespace Xref

theorem isWord_of_readLine {lineNo : Nat} {line : List Char} {d : Definition}
    (h : readLine lineNo line = some (.definition d)) : IsWord d.name := by
  by_cases hmark : IsMarked line
  · obtain ⟨finding, hread, hyields⟩ := exists_yields lineNo hmark
    cases hread.symm.trans h
    cases hyields with
    | definition hwords => exact Text.isWord_of_mem_words (hwords ▸ List.mem_cons_self)
  · cases (readLine_of_unmarked lineNo hmark).symm.trans h

/-- The name of a definition is a word. -/
theorem isWord_of_mem_definitions {listing : String} {d : Definition}
    (h : d ∈ definitions listing) : IsWord d.name := by
  obtain ⟨finding, hfinding, hd⟩ := List.mem_filterMap.mp h
  obtain ⟨⟨lineNo, line⟩, -, hread⟩ := List.mem_filterMap.mp hfinding
  cases finding with
  | definition d' =>
      cases hd
      exact isWord_of_readLine hread
  | noLineNumber lineNo location => cases hd
  | noLocation lineNo text => cases hd

end Xref

namespace Listing

/-- The name of a line is a word. -/
theorem isWord_of_parse {n : Nat} {raw : List Char} {l : Line} (h : Line.parse n raw = .ok l) :
    IsWord l.name := by
  obtain ⟨-, hne, -, token, rest, hcut, hnames⟩ := ((readsByGrammar n raw).ok_iff l).mp h
  exact ⟨hne, fun c hc => hcut.solid c (hnames.subset hc)⟩

end Listing

namespace Reconstruction

open Listing

/-- An edge between the nodes of two words. -/
def Worded (resolve : String → Option Node) (e : Edge) : Prop :=
  ∃ caller callee, IsWord caller ∧ IsWord callee ∧
    e = ⟨nodeOf resolve caller, nodeOf resolve callee⟩

variable {resolve : String → Option Node} {skip : List String}

theorem worded_of_mem_link {caller callee : Frame} {e : Edge}
    (hcaller : ∃ name, IsWord name ∧ caller.node = nodeOf resolve name)
    (hcallee : ∃ name, IsWord name ∧ callee.node = nodeOf resolve name)
    (h : e ∈ (link caller callee).toList) : Worded resolve e := by
  obtain ⟨name, hname, hnode⟩ := hcaller
  obtain ⟨name', hname', hnode'⟩ := hcallee
  unfold link at h
  split at h
  · cases h
  · rw [Option.toList_some, List.mem_singleton, hnode, hnode'] at h
    exact ⟨name, name', hname, hname', h⟩

/-- If the open frames are those of words, so are the ends of all calls found behind them. -/
theorem worded_of_mem_run {chain : Chain} {s : Summary} {n : Nat} {raws : List (List Char)}
    (h : ∀ f ∈ chain.frames, ∃ name, IsWord name ∧ f.node = nodeOf resolve name) :
    ∀ e ∈ (run resolve skip chain s n raws).edges, Worded resolve e := by
  induction raws generalizing chain s n with
  | nil => exact fun _ he => absurd he List.not_mem_nil
  | cons raw rest ih =>
      rcases step_cases chain n raw with ⟨e, hraw⟩ | ⟨l, hraw, hstep⟩
      · rw [run_of_parse_error hraw]
        exact fun _ he => absurd he List.not_mem_nil
      · have hword : ∃ name, IsWord name ∧
            (frameAt resolve skip l).node = nodeOf resolve name :=
          ⟨l.name, isWord_of_parse hraw, node_frameAt resolve skip l⟩
        rcases hstep with ⟨e, hplace⟩ | hplace | ⟨callers, hplace⟩ | ⟨caller, callers, hplace⟩
        · rw [run_of_place_error hraw hplace]
          exact fun _ he => absurd he List.not_mem_nil
        · rw [run_of_orphan hraw hplace]
          exact fun _ he => absurd he List.not_mem_nil
        · rw [run_of_root hraw hplace]
          exact ih (List.forall_mem_cons.mpr
            ⟨hword, fun f hf => h f (mem_frames_of_place hplace f hf)⟩)
        · have hcallers : ∀ f ∈ caller :: callers, ∃ name, IsWord name ∧
              f.node = nodeOf resolve name := fun f hf => h f (mem_frames_of_place hplace f hf)
          rw [run_of_nested hraw hplace]
          intro e he
          rcases List.mem_append.mp he with he | he
          · exact worded_of_mem_link (hcallers caller List.mem_cons_self) hword he
          · exact @ih ⟨frameAt resolve skip l :: caller :: callers, l.indent⟩ _ _
              (List.forall_mem_cons.mpr ⟨hword, hcallers⟩) e he

/-- Every call that a listing comes to is between the nodes of two words, also when the listing is
given up. -/
theorem exists_names_of_mem_edges {listing : String} {e : Edge}
    (h : e ∈ (reconstruct resolve skip listing).edges) : Worded resolve e :=
  have hstart : ∀ f ∈ Chain.start.frames, ∃ name, IsWord name ∧ f.node = nodeOf resolve name :=
    fun _ hf => absurd hf List.not_mem_nil
  worded_of_mem_run hstart e h

end Reconstruction

end CallForest
