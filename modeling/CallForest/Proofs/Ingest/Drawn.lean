import CallForest.Proofs.Ingest.Soundness
import CallForest.Proofs.Text.Lines
import CallForest.Proofs.Tree.Chains
import CallForest.Proofs.Tree.Forms

/-!
# Trees that are drawn of what lists hold

The entries of a list document have their paths from its lines, so these hold no newline, and the
functions that are registered have theirs from the entries. Their names, and those of all calls, are
words. So whatever is drawn of a store that batches over list documents have filled, has plain lines
(`DrawsPlain`), and its text tells what it shows (`text_unambiguous`).
-/

namespace CallForest

/-- Whatever is drawn of a store has plain lines. -/
def DrawsPlain {σ : Type} [GraphStore σ] (store : σ) : Prop :=
  ∀ name bound origin, Origin.resolve? store name bound = some origin →
    ∀ l ∈ walk store origin, l.Plain

/-- The records of a store have paths on one line. -/
def PathsOnLines {σ : Type} [GraphStore σ] (store : σ) : Prop :=
  ∀ name r, GraphStore.lookup? name store = some r → '\n' ∉ r.shortPath.toList

theorem newline_not_mem_ofDocument {root document : String} {e : SourceEntry}
    (h : e ∈ SourceList.ofDocument root document) : '\n' ∉ e.shortPath.toList := by
  obtain ⟨path, hpath, rfl⟩ := List.mem_map.mp h
  obtain ⟨line, hline, rfl⟩ := List.mem_map.mp (List.mem_of_mem_filter hpath)
  rw [SourceEntry.under, String.toList_ofList]
  exact fun hmem => Text.newline_not_mem_of_mem_lines hline ((Text.trimEnd_prefix line).subset hmem)

/-! ## What is drawn -/

section Drawn

variable {σ : Type} [GraphStore σ] {store : σ}

/-- A node of a word is shown on a plain line. -/
theorem StandsFor.plain {l : TreeLine} (h : StandsFor store l.node) (hpaths : PathsOnLines store) :
    l.Plain := by
  refine ⟨h.1.2, ?_⟩
  obtain hunknown | hnode := h.2
  · rw [show l.path = Node.unknownPath from hunknown]
    decide
  · obtain ⟨r, hr, hnode⟩ := Option.map_eq_some_iff.mp hnode
    rw [show l.path = r.shortPath from congrArg Node.path hnode.symm]
    exact hpaths _ r hr

/-- What is drawn of a sound store stands for words. -/
theorem drawsPlain_of_sound {callees : Node → σ → List Node} (hsound : Sound callees store)
    (hcallees : ∀ n, GraphStore.children n store ⊆ callees n store)
    (hpaths : PathsOnLines store) : DrawsPlain store := by
  intro name bound origin horigin l hl
  obtain ⟨node, hnode, rfl⟩ := Option.map_eq_some_iff.mp horigin
  refine StandsFor.plain ?_ hpaths
  rw [Walk.walk_eq] at hl
  obtain ⟨count, -, hreaches⟩ := Walk.mem_node_preorder.mp (List.mem_map_of_mem hl)
  cases hreaches with
  | start =>
      obtain ⟨r, hr, hnode'⟩ := Option.map_eq_some_iff.mp hnode
      obtain ⟨hword, hname⟩ := hsound.isWord name r hr
      have hshown : l.node.name = name := (congrArg Node.name hnode').symm.trans hname
      rw [StandsFor, hshown]
      exact ⟨hword, .inr hnode⟩
  | call _ hcall => exact hsound.callee _ _ (hcallees _ hcall)

end Drawn

theorem Mirrors.pathsOnLines {a : Archive} {l : Ledger} (h : Mirrors a l)
    (hpaths : PathsOnLines l) : PathsOnLines a :=
  fun name r hr => hpaths name r ((h.function?_eq name).symm.trans hr)

/-- As long as all fits into an archive, names stand for the same nodes as in the ledger. -/
theorem Archive.Fits.resolvesAlike {ops : List StoreOperation} (h : Archive.Fits ops) :
    Ingest.ResolvesAlike Archive ops := by
  rintro earlier later rfl
  exact h.of_append.mirrors.resolveNode_eq

namespace Ingest

/-! ## What is registered -/

theorem exists_intake_of_mem_operationsOf {σ : Type} [GraphStore σ] {is : List Intake} {store : σ}
    {op : StoreOperation} (h : op ∈ Intake.operationsOf is store) :
    ∃ i ∈ is, ∃ resolve, op ∈ i.operations resolve := by
  induction is generalizing store with
  | nil => cases h
  | cons i is ih =>
      rw [Intake.operationsOf] at h
      obtain h | h := List.mem_append.mp h
      · exact ⟨i, List.mem_cons_self, _, h⟩
      · obtain ⟨j, hj, hop⟩ := ih h
        exact ⟨j, List.mem_cons_of_mem i hj, hop⟩

/-- What a file is asked for is registered under its short path. -/
theorem shortPath_of_ask {w : Workshop} {pass : Pass} {entry : SourceEntry} {fs : FileSystem}
    {i : Intake} (h : (ask w pass entry fs).2 = .ok i) {resolve : String → Option Node}
    {r : FunctionRecord} (hr : .registerFunction r ∈ i.operations resolve) :
    r.shortPath = entry.shortPath := by
  cases pass with
  | files =>
      unfold ask askFile at h
      simp only at h
      split at h
      · cases h
      · cases h
        cases List.mem_singleton.mp hr
  | functions =>
      obtain ⟨listing, rfl⟩ := exists_read_of_readReply h
      obtain ⟨record, hrecord, ⟨⟩⟩ := List.mem_map.mp hr
      obtain ⟨d, -, rfl⟩ := List.mem_map.mp hrecord
      rfl
  | edges =>
      obtain ⟨listing, rfl⟩ := exists_read_of_readReply h
      obtain ⟨e, -, he⟩ := List.mem_map.mp hr
      cases he
  | complexity =>
      obtain ⟨report, rfl⟩ := exists_read_of_readReply h
      obtain ⟨m, -, hm⟩ := List.mem_map.mp hr
      cases hm

section Run

variable {σ : Type} [GraphStore σ]

theorem exists_entry_of_passOperations {w : Workshop} {pass : Pass} {entries : List SourceEntry}
    {site : Site σ} {r : FunctionRecord}
    (h : .registerFunction r ∈ passOperations w pass entries site) :
    ∃ entry ∈ entries, r.shortPath = entry.shortPath := by
  obtain ⟨i, hi, resolve, hr⟩ := exists_intake_of_mem_operationsOf h
  obtain ⟨earlier, entry, later, rfl, hask⟩ := exists_turn_of_mem_passIntakes hi
  exact ⟨entry, List.mem_append_right _ List.mem_cons_self, shortPath_of_ask hask hr⟩

/-- A batch registers functions under the short paths of its entries. -/
theorem Batch.exists_entry_of_operations {w : Workshop} {entries : List SourceEntry}
    {site : Site σ} {b : Batch} {r : FunctionRecord}
    (h : .registerFunction r ∈ b.operations w entries site) :
    ∃ entry ∈ entries, r.shortPath = entry.shortPath := by
  cases b with
  | pass p => exact exists_entry_of_passOperations h
  | headers =>
      obtain h | h := List.mem_append.mp h
      · exact exists_entry_of_passOperations h
      · split at h
        · cases h
        · exact exists_entry_of_passOperations h

/-- The stores that batches over the entries of list documents leave, one batch after another. -/
inductive ReachedByLists : List StoreOperation → σ → Prop
  | empty : ReachedByLists [] GraphStore.empty
  | batch {ops : List StoreOperation} {site : Site σ} (w : Workshop) (root document : String)
      (b : Batch) (h : ReachedByLists ops site.store) :
      ReachedByLists (ops ++ b.operations w (SourceList.ofDocument root document) site)
        (b.run w (SourceList.ofDocument root document) site).store

variable {ops : List StoreOperation} {store : σ}

theorem ReachedByLists.reached (h : ReachedByLists ops store) : Reached ops store := by
  induction h with
  | empty => exact .empty
  | batch w root document b _ ih => exact .batch w _ b ih

/-- Functions are registered under paths on one line. -/
theorem ReachedByLists.newline_not_mem (h : ReachedByLists ops store) {r : FunctionRecord}
    (hr : .registerFunction r ∈ ops) : '\n' ∉ r.shortPath.toList := by
  induction h with
  | empty => cases hr
  | batch w root document b _ ih =>
      obtain hr | hr := List.mem_append.mp hr
      · exact ih hr
      · obtain ⟨entry, hentry, hpath⟩ := Batch.exists_entry_of_operations hr
        rw [hpath]
        exact newline_not_mem_ofDocument hentry

theorem ReachedByLists.pathsOnLines (h : ReachedByLists ops store) :
    PathsOnLines (performAll ops Ledger.empty) := by
  intro name r hr
  obtain ⟨s, hs, hnode⟩ := Ledger.exists_registration hr
  rw [show r.shortPath = s.shortPath from congrArg Node.path hnode.symm]
  exact h.newline_not_mem hs

end Run

/-- **The text of a tree tells what it shows**: it is read back if the names are without white space
and the paths on one line, so different trees have different texts; and that is so for whatever is
drawn of a store that batches over list documents have filled. -/
theorem text_unambiguous :
    (∀ lines, (∀ l ∈ lines, l.Plain) →
        Export.readText? (TreeFormat.text.export lines) = some lines) ∧
      (∀ lines others, (∀ l ∈ lines, l.Plain) → (∀ l ∈ others, l.Plain) →
        TreeFormat.text.export lines = TreeFormat.text.export others → lines = others) ∧
      (∀ ops (l : Ledger), ReachedByLists ops l → DrawsPlain l) ∧
      ∀ ops (a : Archive), ReachedByLists ops a → Archive.Fits ops → DrawsPlain a := by
  refine ⟨fun _ => Export.readText?_text, fun _ _ => Export.eq_of_text_eq, ?_, ?_⟩
  · intro ops l h
    have htidy := tidyThrough_of_reached h.reached (fun _ _ _ => rfl) ops []
      (List.append_nil ops).symm
    rw [show l = performAll ops Ledger.empty from h.reached.store_eq]
    exact drawsPlain_of_sound htidy.sound (fun n _ hm => mem_firstOccurrences.mp hm) h.pathsOnLines
  · intro ops a h hfits
    have hmirrors := hfits.mirrors
    have htidy := tidyThrough_of_reached h.reached hfits.resolvesAlike ops []
      (List.append_nil ops).symm
    rw [show a = performAll ops Archive.empty from h.reached.store_eq]
    exact drawsPlain_of_sound
      (hmirrors.sound (Nat.le_of_lt hfits.nextId_lt) htidy.sound)
      (fun n _ hm => mem_firstOccurrences.mp hm) (hmirrors.pathsOnLines h.pathsOnLines)

/-- Lines with white space and parentheses in their paths, and one without a name. -/
def awkwardLines : List TreeLine :=
  [⟨0, "main", "a b.c"⟩, ⟨2, "f(x)", "\t(odd) (dir)/b.c)\r"⟩, ⟨1, "", ""⟩]

/-- A document with trailing white space and a blank line. -/
def sampleDocument : String := "a.c \n\nbad.c\r\n"

/-- The site after the functions of the listed files and then their calls have been recorded. -/
def listedRun (σ : Type) [GraphStore σ] : Site σ :=
  let entries := SourceList.ofDocument "/src" sampleDocument
  let named := Batch.run sampleWorkshop entries ⟨GraphStore.empty, sampleFiles, []⟩
    (.pass .functions)
  Batch.run sampleWorkshop entries named (.pass .edges)

/-- The operations that come to it. -/
def listedOperations : List StoreOperation :=
  [.registerFunction ⟨"/src/a.c", "a.c", "main", 3, "int main (void)", none⟩,
    .registerFunction ⟨"/src/bad.c", "bad.c", "run", 7, "void run (void)", none⟩,
    .recordEdge ⟨⟨"a.c", "main"⟩, ⟨"bad.c", "run"⟩⟩,
    .recordEdge ⟨⟨"bad.c", "run"⟩, .unresolved "stop"⟩]

theorem text_unambiguous_awkwardLines :
    Export.readText? (TreeFormat.text.export awkwardLines) = some awkwardLines ∧
      TreeFormat.text.export awkwardLines ≠ TreeFormat.text.export [] ∧
      DrawsPlain (listedRun Ledger).store ∧ DrawsPlain (listedRun Archive).store ∧
      Origin.resolve? (listedRun Archive).store "main" 9 = some ⟨⟨"a.c", "main"⟩, 9⟩ := by
  have hplain : ∀ l ∈ awkwardLines, l.Plain := by
    have hdecide : ∀ l ∈ awkwardLines,
        l.name.toList.any Text.isBlank = false ∧ '\n' ∉ l.path.toList := by decide
    exact fun l hl => ⟨by simpa using (hdecide l hl).1, (hdecide l hl).2⟩
  have hledger : ∃ ops, ReachedByLists ops (listedRun Ledger).store :=
    ⟨_, .batch sampleWorkshop "/src" sampleDocument (.pass .edges)
      (.batch sampleWorkshop "/src" sampleDocument (.pass .functions) .empty)⟩
  have harchive : ∃ ops, ReachedByLists ops (listedRun Archive).store ∧ ops = listedOperations :=
    ⟨_, .batch sampleWorkshop "/src" sampleDocument (.pass .edges)
      (.batch sampleWorkshop "/src" sampleDocument (.pass .functions) .empty), by decide +kernel⟩
  obtain ⟨_, hledger⟩ := hledger
  obtain ⟨_, harchive, rfl⟩ := harchive
  refine ⟨text_unambiguous.1 awkwardLines hplain, fun heq => ?_,
    text_unambiguous.2.2.1 _ _ hledger,
    text_unambiguous.2.2.2 _ _ harchive (by decide +kernel), ?_⟩
  · cases text_unambiguous.2.1 awkwardLines [] hplain (fun l hl => by cases hl) heq
  · rw [harchive.reached.store_eq]
    decide +kernel

end Ingest

end CallForest
