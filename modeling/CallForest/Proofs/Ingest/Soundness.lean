import CallForest.Proofs.Graph.Calls
import CallForest.Proofs.Graph.Registry
import CallForest.Proofs.Ingest.Passes
import CallForest.Proofs.Listing.Names
import CallForest.Proofs.Tree.Drawing
import Mathlib.Algebra.BigOperators.Group.List.Lemmas

/-!
# Every store that passes fill is sound

Passes may be run in any order and any number of times, over any files, with any collaborators, and
may end early. Whatever they leave in a store that was empty, `Sound` holds of it: the ends of every
recorded call stand for words, each of them either unresolved or the node that its name stands for
now; registered names are words; and every counted call has its caller.

A call is recorded with the nodes that its names stand for at the time. It stays sound because a
name stands for the same node ever after (`Ledger.resolveNode_performAll`). So the invariant `Tidy`
is kept by every operation that is clean when it is performed (`Tidy.perform`), and the operations
that enter an intake are clean (`clean_operations`).

`Reached` follows the operations that the passes perform. Wherever they are broken off, the ledger
and the cabinet are sound, and so is the archive as far as they fit into it (`reached_sound`).
-/

namespace CallForest

/-- A node of a word: unresolved, or what the word stands for in the store. -/
def StandsFor {σ : Type} [GraphStore σ] (store : σ) (n : Node) : Prop :=
  IsWord n.name ∧ (n.path = Node.unknownPath ∨ resolveNode store n.name = some n)

/-- What holds of a store that passes fill; `callees` gives the recorded callees, repeated ones
included. -/
structure Sound {σ : Type} [GraphStore σ] (callees : Node → σ → List Node) (store : σ) :
    Prop where
  caller : ∀ m n, m ∈ callees n store → StandsFor store n
  callee : ∀ m n, m ∈ callees n store → StandsFor store m
  isWord : ∀ name r, GraphStore.lookup? name store = some r → IsWord name ∧ r.name = name
  /-- The recorded edges are those of all callers together. -/
  edgeCount_eq : ∃ callers : List Node, callers.Nodup ∧
    (∀ n, n ∈ callers ↔ callees n store ≠ []) ∧
      GraphStore.edgeCount store = Walk.total (fun n => (callees n store).length) callers

/-! ## The ledger -/

/-- The registered names are words, and the ends of calls stand for words. -/
structure Tidy (l : Ledger) : Prop where
  names : ∀ r ∈ l.functions, IsWord r.name
  ends : ∀ e ∈ l.edges, StandsFor l e.caller ∧ StandsFor l e.callee

/-- An operation that keeps a ledger tidy. -/
def Clean (l : Ledger) : StoreOperation → Prop
  | .registerFunction r => IsWord r.name
  | .recordEdge e => StandsFor l e.caller ∧ StandsFor l e.callee
  | .registerFile _ | .lookup _ | .children _ | .updateComplexity _ _ | .edgeCount => True

section Ledger

variable {l : Ledger}

/-- What a node stands for, it stands for ever after. -/
theorem StandsFor.performAll {n : Node} (h : StandsFor l n) (ops : List StoreOperation) :
    StandsFor (CallForest.performAll ops l) n :=
  ⟨h.1, h.2.imp_right fun hnode => Ledger.resolveNode_performAll hnode ops⟩

theorem Clean.perform {op : StoreOperation} (h : Clean l op) (before : StoreOperation) :
    Clean (before.perform l).2 op := by
  cases op with
  | registerFunction r => exact h
  | recordEdge e => exact ⟨h.1.performAll [before], h.2.performAll [before]⟩
  | registerFile _ | lookup _ | children _ | updateComplexity _ _ | edgeCount => trivial

theorem names_perform (h : Tidy l) {op : StoreOperation} (hop : Clean l op) :
    ∀ r ∈ (op.perform l).2.functions, IsWord r.name := by
  cases op with
  | registerFile f =>
      cases hf : l.file? f.fullPath with
      | some g =>
          rw [Ledger.perform_registerFile_of_some hf]
          exact h.names
      | none =>
          rw [Ledger.perform_registerFile_of_none hf]
          exact h.names
  | registerFunction r =>
      cases hr : l.function? r.name with
      | some s =>
          rw [Ledger.perform_registerFunction_of_some hr]
          exact h.names
      | none =>
          rw [Ledger.perform_registerFunction_of_none hr]
          intro s hs
          rcases List.mem_append.mp hs with hs | hs
          · exact h.names s hs
          · rw [List.mem_singleton.mp hs]
            exact hop
  | updateComplexity name c =>
      cases hr : l.function? name with
      | none =>
          rw [Ledger.perform_updateComplexity_of_none hr]
          exact h.names
      | some r =>
          rw [Ledger.perform_updateComplexity_of_some hr]
          intro s hs
          obtain ⟨t, ht, rfl⟩ := List.mem_map.mp hs
          rw [Ledger.name_measure]
          exact h.names t ht
  | recordEdge _ | lookup _ | children _ | edgeCount => exact h.names

/-- A clean operation keeps a ledger tidy. -/
theorem Tidy.perform (h : Tidy l) {op : StoreOperation} (hop : Clean l op) :
    Tidy (op.perform l).2 where
  names := names_perform h hop
  ends e he := by
    rw [Ledger.edges_perform] at he
    have hends : StandsFor l e.caller ∧ StandsFor l e.callee := by
      rcases List.mem_append.mp he with he | he
      · exact h.ends e he
      · have hcall : op.call? = some e := Option.mem_toList.mp he
        cases op <;> cases hcall
        exact hop
    -- what stood for a name before the operation still does
    exact ⟨hends.1.performAll [op], hends.2.performAll [op]⟩

theorem Tidy.performAll (h : Tidy l) {ops : List StoreOperation} (hops : ∀ op ∈ ops, Clean l op) :
    Tidy (CallForest.performAll ops l) := by
  induction ops generalizing l with
  | nil => exact h
  | cons op ops ih =>
      obtain ⟨hop, hrest⟩ := List.forall_mem_cons.mp hops
      exact ih (h.perform hop) fun o ho => (hrest o ho).perform op

theorem Tidy.empty : Tidy .empty :=
  ⟨fun _ hr => absurd hr List.not_mem_nil, fun _ he => absurd he List.not_mem_nil⟩

/-- Each call is counted with its caller. -/
theorem length_edges_eq (l : Ledger) :
    l.edges.length =
      Walk.total (fun n => (l.callees n).length) (l.edges.map Edge.caller).dedup := by
  have hsum : ∀ (f : Node → Nat) (ns : List Node), Walk.total f ns = (ns.map f).sum := by
    intro f ns
    induction ns with
    | nil => rfl
    | cons n ns ih => rw [Walk.total, ih, List.map_cons, List.sum_cons]
  have hcount : ∀ n, (l.callees n).length = (l.edges.map Edge.caller).count n := by
    intro n
    rw [Ledger.callees, List.length_map, List.count_eq_countP, List.countP_map,
      List.countP_eq_length_filter]
    rfl
  rw [hsum, funext hcount, List.sum_map_count_dedup_eq_length, List.length_map]

theorem Tidy.sound (h : Tidy l) : Sound Ledger.callees l where
  caller _ _ hm := (h.ends _ (Ledger.mem_callees.mp hm)).1
  callee _ _ hm := (h.ends _ (Ledger.mem_callees.mp hm)).2
  isWord name r hr := by
    have hname := Ledger.name_of_function? hr
    exact ⟨hname ▸ h.names r (Ledger.mem_of_function? hr), hname⟩
  edgeCount_eq := by
    refine ⟨(l.edges.map Edge.caller).dedup, List.nodup_dedup _, fun n => ?_, length_edges_eq l⟩
    rw [List.mem_dedup, List.mem_map]
    constructor
    · rintro ⟨e, he, rfl⟩
      exact List.ne_nil_of_mem (Ledger.mem_callees.mpr he)
    · intro hne
      obtain ⟨m, hm⟩ := List.exists_mem_of_ne_nil _ hne
      exact ⟨_, Ledger.mem_callees.mp hm, rfl⟩

end Ledger

/-- A store that answers as a sound one does is sound. -/
theorem Sound.of_alike {σ τ : Type} [GraphStore σ] [GraphStore τ] {callees : Node → σ → List Node}
    {callees' : Node → τ → List Node} {s : σ} {t : τ} (hsound : Sound callees' t)
    (hlookup : ∀ name, GraphStore.lookup? name s = GraphStore.lookup? name t)
    (hcallees : ∀ n, callees n s = callees' n t)
    (hcount : GraphStore.edgeCount s = GraphStore.edgeCount t) : Sound callees s := by
  have hstands : ∀ n, StandsFor t n → StandsFor s n := by
    intro n hn
    rw [StandsFor, resolveNode_congr hlookup]
    exact hn
  constructor
  · intro m n hm
    exact hstands n (hsound.caller m n (hcallees n ▸ hm))
  · intro m n hm
    exact hstands m (hsound.callee m n (hcallees n ▸ hm))
  · intro name r hr
    exact hsound.isWord name r ((hlookup name).symm.trans hr)
  · obtain ⟨callers, hnodup, hcallers, htotal⟩ := hsound.edgeCount_eq
    refine ⟨callers, hnodup, fun n => ?_, ?_⟩
    · rw [hcallees]
      exact hcallers n
    · rw [funext fun n => congrArg List.length (hcallees n)]
      exact hcount.trans htotal

/-- The archive is sound if the ledger is that it mirrors. -/
theorem Mirrors.sound {a : Archive} {l : Ledger} (h : Mirrors a l)
    (hroom : a.nextId ≤ UInt64.size) (hsound : Sound Ledger.callees l) :
    Sound Archive.callees a :=
  hsound.of_alike h.function?_eq (h.callees_eq hroom) h.edgeCount_eq

/-- So is the cabinet that holds what the ledger has. -/
theorem Cabinet.Holds.sound {c : Cabinet} {l : Ledger} (h : c.Holds l)
    (hsound : Sound Ledger.callees l) : Sound Cabinet.callees c :=
  hsound.of_alike h.functions_eq h.callees_eq h.edgeTotal_eq

/-! ## Intakes -/

/-- An intake whose functions have words for names. -/
def Intake.Worded : Intake → Prop
  | functions records => ∀ r ∈ records, IsWord r.name
  | file _ | calls _ _ | measurements _ => True

theorem standsFor_nodeOf (l : Ledger) {name : String} (h : IsWord name) :
    StandsFor l (Reconstruction.nodeOf (resolveNode l) name) := by
  have hname := Reconstruction.name_nodeOf l name
  refine ⟨hname.symm ▸ h, ?_⟩
  rw [hname]
  unfold Reconstruction.nodeOf
  cases resolveNode l name with
  | none => exact .inl rfl
  | some n => exact .inr rfl

/-- The operations that enter an intake are clean. -/
theorem clean_operations {i : Intake} (h : i.Worded) (l : Ledger) :
    ∀ op ∈ i.operations (resolveNode l), Clean l op := by
  intro op hop
  cases i with
  | file record =>
      rw [List.mem_singleton.mp hop]
      trivial
  | functions records =>
      obtain ⟨r, hr, rfl⟩ := List.mem_map.mp hop
      exact h r hr
  | calls skip listing =>
      obtain ⟨e, he, rfl⟩ := List.mem_map.mp hop
      obtain ⟨caller, callee, hcaller, hcallee, rfl⟩ :=
        Reconstruction.exists_names_of_mem_edges he
      exact ⟨standsFor_nodeOf l hcaller, standsFor_nodeOf l hcallee⟩
  | measurements ms =>
      obtain ⟨m, -, rfl⟩ := List.mem_map.mp hop
      trivial

namespace Ingest

theorem worded_of_ask {w : Workshop} {pass : Pass} {entry : SourceEntry} {fs : FileSystem}
    {i : Intake} (h : (ask w pass entry fs).2 = .ok i) : i.Worded := by
  cases pass with
  | files =>
      unfold ask askFile at h
      simp only at h
      split at h
      · cases h
      · cases h
        trivial
  | functions =>
      obtain ⟨listing, rfl⟩ := exists_read_of_readReply h
      intro r hr
      obtain ⟨d, hd, rfl⟩ := List.mem_map.mp hr
      exact Xref.isWord_of_mem_definitions hd
  | edges =>
      obtain ⟨listing, rfl⟩ := exists_read_of_readReply h
      trivial
  | complexity =>
      obtain ⟨report, rfl⟩ := exists_read_of_readReply h
      trivial

/-- Every pass reads words for names. -/
theorem worded_of_mem_passIntakes {w : Workshop} {pass : Pass} {entries : List SourceEntry}
    {fs : FileSystem} {i : Intake} (h : i ∈ passIntakes w pass entries fs) : i.Worded := by
  obtain ⟨_, _, _, -, hask⟩ := exists_turn_of_mem_passIntakes h
  exact worded_of_ask hask

/-! ## Runs of passes -/

section Run

variable {σ : Type} [GraphStore σ]

/-- What passes over a list can be asked for: one pass, or those over headers. -/
inductive Batch where
  | pass (p : Pass)
  | headers
  deriving DecidableEq, Repr

/-- Runs a batch. -/
def Batch.run (w : Workshop) (entries : List SourceEntry) (site : Site σ) : Batch → Site σ
  | pass p => (index w p entries site).1
  | headers => (indexHeaders w entries site).1

/-- The operations that a batch performs on the store. -/
def Batch.operations (w : Workshop) (entries : List SourceEntry) (site : Site σ) :
    Batch → List StoreOperation
  | pass p => passOperations w p entries site
  | headers =>
    let begun := site.note [.headersStarted entries.length]
    passOperations w .functions entries begun ++
      match (index w .functions entries begun).2 with
      | .error _ => []
      | .ok _ => passOperations w .complexity entries (index w .functions entries begun).1

theorem Batch.store_run (w : Workshop) (entries : List SourceEntry) (site : Site σ) (b : Batch) :
    (b.run w entries site).store = performAll (b.operations w entries site) site.store := by
  cases b with
  | pass p => exact store_index_eq_performAll w p entries site
  | headers =>
      rw [Batch.run, indexHeaders_fst, Batch.operations, performAll_append]
      have hfunctions := store_index_eq_performAll w .functions entries
        (site.note [.headersStarted entries.length])
      rw [Site.store_note] at hfunctions
      rw [← hfunctions]
      dsimp only
      cases (index w .functions entries (site.note [.headersStarted entries.length])).2 with
      | error e => rfl
      | ok report => exact store_index_eq_performAll w .complexity entries _

/-- The stores that batches leave, one batch after another, with the operations that they have
performed. Files may change between batches, and every batch may have collaborators of its own. -/
inductive Reached : List StoreOperation → σ → Prop
  | empty : Reached [] GraphStore.empty
  | batch {ops : List StoreOperation} {site : Site σ} (w : Workshop) (entries : List SourceEntry)
      (b : Batch) (h : Reached ops site.store) :
      Reached (ops ++ b.operations w entries site) (b.run w entries site).store

theorem Reached.store_eq {ops : List StoreOperation} {store : σ} (h : Reached ops store) :
    store = performAll ops GraphStore.empty := by
  induction h with
  | empty => rfl
  | batch w entries b h ih => rw [Batch.store_run, ih, performAll_append]

/-- At every point of these operations names stand for the same nodes as in the ledger. -/
def ResolvesAlike (σ : Type) [GraphStore σ] (ops : List StoreOperation) : Prop :=
  ∀ earlier later, ops = earlier ++ later →
    resolveNode (performAll earlier (GraphStore.empty : σ)) =
      resolveNode (performAll earlier Ledger.empty)

theorem ResolvesAlike.of_append {ops later : List StoreOperation}
    (h : ResolvesAlike σ (ops ++ later)) : ResolvesAlike σ ops :=
  fun earlier rest hops => h earlier (rest ++ later) (by rw [hops, List.append_assoc])

/-- At every point of these operations the ledger is tidy. -/
def TidyThrough (ops : List StoreOperation) : Prop :=
  ∀ earlier later, ops = earlier ++ later → Tidy (performAll earlier Ledger.empty)

variable {ops : List StoreOperation}

theorem TidyThrough.append (h : TidyThrough ops) {more : List StoreOperation}
    (hmore : ∀ op ∈ more, Clean (performAll ops Ledger.empty) op) : TidyThrough (ops ++ more) := by
  intro earlier later hsplit
  -- the point lies behind some of the new operations, or among the old ones
  rcases List.append_eq_append_iff.mp hsplit with ⟨front, rfl, rfl⟩ | ⟨rest, rfl, -⟩
  · rw [performAll_append]
    exact (h ops [] (List.append_nil ops).symm).performAll fun op hop =>
      hmore op (List.mem_append_left _ hop)
  · exact h earlier rest rfl

/-- Intakes are entered with the names standing for the same nodes as in the ledger, and so by clean
operations. -/
theorem TidyThrough.operationsOf (h : TidyThrough ops) {is : List Intake}
    (hworded : ∀ i ∈ is, i.Worded) {store : σ} (hstore : store = performAll ops GraphStore.empty)
    (halike : ResolvesAlike σ (ops ++ Intake.operationsOf is store)) :
    TidyThrough (ops ++ Intake.operationsOf is store) := by
  induction is generalizing ops store with
  | nil => rwa [Intake.operationsOf, List.append_nil]
  | cons i is ih =>
      obtain ⟨hi, his⟩ := List.forall_mem_cons.mp hworded
      have hresolve : resolveNode store = resolveNode (performAll ops Ledger.empty) :=
        hstore ▸ halike ops _ rfl
      have hentered : TidyThrough (ops ++ i.operations (resolveNode store)) :=
        h.append (hresolve ▸ clean_operations hi (performAll ops Ledger.empty))
      rw [Intake.operationsOf, ← List.append_assoc] at halike ⊢
      refine ih hentered his ?_ halike
      rw [performAll_append, ← hstore]
      rfl

theorem TidyThrough.passOperations (h : TidyThrough ops) (w : Workshop) (pass : Pass)
    (entries : List SourceEntry) {site : Site σ}
    (hstore : site.store = performAll ops GraphStore.empty)
    (halike : ResolvesAlike σ (ops ++ passOperations w pass entries site)) :
    TidyThrough (ops ++ Ingest.passOperations w pass entries site) :=
  h.operationsOf (fun _ hi => worded_of_mem_passIntakes hi) hstore halike

/-- Through the operations by which a store is reached the ledger is tidy. -/
theorem tidyThrough_of_reached {store : σ} (h : Reached ops store)
    (halike : ResolvesAlike σ ops) : TidyThrough ops := by
  induction h with
  | empty =>
      intro earlier later hsplit
      rw [(List.append_eq_nil_iff.mp hsplit.symm).1]
      exact .empty
  | @batch ops site w entries b h ih =>
      have htidy := ih halike.of_append
      have hstore := h.store_eq
      cases b with
      | pass p => exact htidy.passOperations w p entries hstore halike
      | headers =>
          rw [Batch.operations, ← List.append_assoc] at halike ⊢
          have hnoted : (site.note [.headersStarted entries.length]).store =
              performAll ops GraphStore.empty := hstore
          have hfunctions := htidy.passOperations w .functions entries hnoted halike.of_append
          cases hresult : (index w .functions entries
              (site.note [.headersStarted entries.length])).2 with
          | error e => simpa only [List.append_nil] using hfunctions
          | ok report =>
              -- the complexity pass goes on from what the function pass leaves
              have hleft := store_index_eq_performAll w .functions entries
                (site.note [.headersStarted entries.length])
              rw [hnoted, ← performAll_append] at hleft
              simp only [hresult] at halike
              exact hfunctions.passOperations w .complexity entries hleft halike

/-- What is reached is sound, and was at every point of the operations, where the store answers as
the ledger does. -/
theorem sound_of_reached {callees : Node → σ → List Node} {store : σ} (h : Reached ops store)
    (hsame : ∀ earlier later, ops = earlier ++ later →
      resolveNode (performAll earlier (GraphStore.empty : σ)) =
          resolveNode (performAll earlier Ledger.empty) ∧
        (Sound Ledger.callees (performAll earlier Ledger.empty) →
          Sound callees (performAll earlier (GraphStore.empty : σ)))) :
    Sound callees store ∧ ∀ earlier later, ops = earlier ++ later →
      Sound callees (performAll earlier (GraphStore.empty : σ)) := by
  have htidy := tidyThrough_of_reached h fun earlier later hsplit =>
    (hsame earlier later hsplit).1
  have hsound : ∀ earlier later, ops = earlier ++ later →
      Sound callees (performAll earlier (GraphStore.empty : σ)) := fun earlier later hsplit =>
    (hsame earlier later hsplit).2 (htidy earlier later hsplit).sound
  exact ⟨h.store_eq ▸ hsound ops [] (List.append_nil ops).symm, hsound⟩

/-- **Every store that passes fill is sound**, and was at every point of the operations on it: the
ledger and the cabinet always, and the archive if the operations fit into it. -/
theorem reached_sound :
    (∀ ops (l : Ledger), Reached ops l →
      Sound Ledger.callees l ∧
        ∀ earlier later, ops = earlier ++ later →
          Sound Ledger.callees (performAll earlier Ledger.empty)) ∧
      (∀ ops (c : Cabinet), Reached ops c →
        Sound Cabinet.callees c ∧
          ∀ earlier later, ops = earlier ++ later →
            Sound Cabinet.callees (performAll earlier Cabinet.empty)) ∧
        ∀ ops (a : Archive), Reached ops a → Archive.Fits ops →
          Sound Archive.callees a ∧
            ∀ earlier later, ops = earlier ++ later →
              Sound Archive.callees (performAll earlier Archive.empty) := by
  refine ⟨fun ops l h => ?_, fun ops c h => ?_, fun ops a h hfits => ?_⟩
  · exact sound_of_reached h fun _ _ _ => ⟨rfl, id⟩
  · refine sound_of_reached h fun earlier _ _ => ?_
    have hholds := Cabinet.Holds.empty.performAll earlier
    exact ⟨resolveNode_congr hholds.functions_eq, hholds.sound⟩
  · refine sound_of_reached h ?_
    rintro earlier later rfl
    have hearlier := hfits.of_append
    exact ⟨hearlier.mirrors.resolveNode_eq,
      hearlier.mirrors.sound (Nat.le_of_lt hearlier.nextId_lt)⟩

end Run

/-- A file with a good listing, and one with a malformed listing. -/
def samplePair : List SourceEntry :=
  ["a.c", "bad.c"].map (SourceEntry.under "/src")

/-- The site after the calls have been recorded with all names unresolved, then the headers indexed,
and then the calls recorded again. -/
def sampleRun : Site Archive :=
  let once := Batch.run sampleWorkshop samplePair ⟨.empty, sampleFiles, []⟩ (.pass .edges)
  let named := Batch.run sampleWorkshop samplePair once .headers
  Batch.run sampleWorkshop samplePair named (.pass .edges)

/-- The operations that come to it. -/
def sampleOperations : List StoreOperation :=
  [.recordEdge ⟨.unresolved "main", .unresolved "run"⟩,
    .recordEdge ⟨.unresolved "run", .unresolved "stop"⟩,
    .registerFunction ⟨"/src/a.c", "a.c", "main", 3, "int main (void)", none⟩,
    .registerFunction ⟨"/src/bad.c", "bad.c", "run", 7, "void run (void)", none⟩,
    .updateComplexity "main" ⟨3, 9⟩, .updateComplexity "main" ⟨3, 9⟩,
    .recordEdge ⟨⟨"a.c", "main"⟩, ⟨"bad.c", "run"⟩⟩,
    .recordEdge ⟨⟨"bad.c", "run"⟩, .unresolved "stop"⟩]

theorem reached_sound_sample :
    Reached sampleOperations sampleRun.store ∧ Archive.Fits sampleOperations ∧
      sampleRun.store.callees ⟨"a.c", "main"⟩ = [⟨"bad.c", "run"⟩] ∧
      sampleRun.store.callees (.unresolved "main") = [.unresolved "run"] ∧
      Sound Archive.callees sampleRun.store := by
  have hreached : ∃ ops, Reached ops sampleRun.store ∧ ops = sampleOperations :=
    ⟨_, .batch sampleWorkshop samplePair (.pass .edges)
      (.batch sampleWorkshop samplePair .headers
        (.batch sampleWorkshop samplePair (.pass .edges) .empty)), by decide +kernel⟩
  obtain ⟨_, hreached, rfl⟩ := hreached
  have hfits : Archive.Fits sampleOperations := by decide +kernel
  refine ⟨hreached, hfits, ?_, ?_, (reached_sound.2.2 _ _ hreached hfits).1⟩
  · rw [hreached.store_eq]
    decide +kernel
  · rw [hreached.store_eq]
    decide +kernel

end Ingest

end CallForest
