import CallForest.Proofs.Graph.Mirror
import CallForest.Proofs.Tree.Printing
import CallForest.Tree.Walk

/-!
# Drawing a printed forest

A forest of different names is printed, its listing is rebuilt into a store, and a tree of it is
drawn from the store. What is drawn is the tree, cut below the level that the bound allows
(`drawsBack_listing`).

The store may hold other calls, as long as none of them is from a node of the forest: then the
children of a node are the roots below it (`children_recordEdges`), and a walk over such children is
the tree in the order in which it was printed (`walkFrom_roots`).
-/

namespace CallForest

open Listing Reconstruction

/-- First occurrences of nodes that differ from each other and from those seen are all of them. -/
theorem firstOccurrences_of_nodup {seen ns : List Node} (h : ns.Nodup)
    (hseen : ∀ n ∈ ns, n ∉ seen) : firstOccurrences seen ns = ns := by
  induction ns generalizing seen with
  | nil => rfl
  | cons n ns ih =>
      obtain ⟨hn, hns⟩ := List.nodup_cons.mp h
      rw [firstOccurrences, if_neg (hseen n List.mem_cons_self), ih hns]
      intro m hm hmem
      rcases List.mem_cons.mp hmem with rfl | hmem
      · exact hn hm
      · exact hseen m (List.mem_cons_of_mem _ hm) hmem

namespace Forest

/-- A forest as it is drawn with its roots at a depth: each name before those below it, as the node
that it stands for. -/
def drawing (node : String → Node) (depth : Nat) : Forest → List TreeLine
  | nil => []
  | cons name below behind =>
    .ofNode (node name) depth :: (drawing node (depth + 1) below ++ drawing node depth behind)

/-- A tree as it is drawn from its root. -/
def drawTree (node : String → Node) (t : String × Forest) : List TreeLine :=
  drawing node 0 (cons t.1 t.2 nil)

/-- Rebuilding the listing of a forest in a store reads it to its end, and every tree of the forest
is drawn from the store as it is, down to one level below the bound. -/
def DrawsBack {σ : Type} [GraphStore σ] (skip : List String) (f : Forest) (store : σ) : Prop :=
  (rebuild skip f.listing store).2.failure = none ∧
    ∀ t ∈ f.trees, ∀ bound,
      walk (rebuild skip f.listing store).1 ⟨nodeOf (resolveNode store) t.1, bound⟩ =
        (drawTree (nodeOf (resolveNode store)) t).filter fun line => line.depth ≤ bound + 1

/-! ## Walking -/

section Walking

variable (node : String → Node)

theorem le_depth_of_mem_drawing {depth : Nat} {f : Forest} {line : TreeLine}
    (h : line ∈ drawing node depth f) : depth ≤ line.depth := by
  induction f generalizing depth with
  | nil => cases h
  | cons name below behind ihBelow ihBehind =>
      rcases List.mem_cons.mp h with rfl | h
      · exact Nat.le_refl _
      · rcases List.mem_append.mp h with h | h
        · exact Nat.le_of_succ_le (ihBelow h)
        · exact ihBehind h

/-- What is drawn below the last level that is shown. -/
theorem filter_drawing_eq_nil {depth bound : Nat} (f : Forest) (h : bound < depth) :
    (drawing node depth f).filter (fun line => line.depth ≤ bound) = [] := by
  rw [List.filter_eq_nil_iff]
  intro line hline hle
  have hdepth := le_depth_of_mem_drawing node hline
  rw [decide_eq_true_iff] at hle
  omega

/-- **A walk over a forest.** If the children of each node are the roots below it, the roots of the
forest are visited each with the tree below it, and then what was waiting behind them. -/
theorem walkFrom_roots (children : Node → List Node) {bound depth : Nat} {f : Forest}
    (waiting : List (Node × Nat)) (h : ∀ t ∈ f.trees, children (node t.1) = t.2.roots.map node)
    (hdepth : depth ≤ bound + 1) :
    Walk.walkFrom children bound (f.roots.map (fun r => (node r, depth)) ++ waiting) =
      (drawing node depth f).filter (fun line => line.depth ≤ bound + 1) ++
        Walk.walkFrom children bound waiting := by
  induction f generalizing depth waiting with
  | nil => rfl
  | cons name below behind ihBelow ihBehind =>
      obtain ⟨hroot, hrest⟩ := List.forall_mem_cons.mp h
      have hbelow := fun t ht => hrest t (List.mem_append_left _ ht)
      have hbehind := fun t ht => hrest t (List.mem_append_right _ ht)
      have hshown : decide ((TreeLine.ofNode (node name) depth).depth ≤ bound + 1) = true :=
        decide_eq_true hdepth
      rw [roots, List.map_cons, List.cons_append, Walk.walkFrom, drawing,
        List.filter_cons, if_pos hshown, List.filter_append, List.cons_append, List.append_assoc,
        ← ihBehind waiting hbehind hdepth]
      congr 1
      -- what the root puts in front of the waiting nodes is its own tree
      by_cases hle : depth ≤ bound
      · have hunfold : Walk.unfold children bound (node name) depth =
            below.roots.map fun r => (node r, depth + 1) := by
          rw [Walk.unfold, if_pos hle, hroot, List.map_map]
          rfl
        rw [hunfold, ihBelow _ hbelow (Nat.succ_le_succ hle)]
      · rw [Walk.unfold, if_neg hle, filter_drawing_eq_nil node below (by omega), List.nil_append,
          List.nil_append]

theorem walk_eq_drawTree {σ : Type} [GraphStore σ] {store : σ} {f : Forest}
    (h : ∀ t ∈ f.trees, GraphStore.children (node t.1) store = t.2.roots.map node)
    {t : String × Forest} (ht : t ∈ f.trees) (bound : Nat) :
    walk store ⟨node t.1, bound⟩ =
      (drawTree node t).filter fun line => line.depth ≤ bound + 1 := by
  have htree : ∀ s ∈ (cons t.1 t.2 nil).trees,
      GraphStore.children (node s.1) store = s.2.roots.map node := by
    intro s hs
    rw [trees, trees, List.append_nil] at hs
    rcases List.mem_cons.mp hs with rfl | hs
    · exact h _ ht
    · exact h s (trees_trans ht hs)
  have hwalk := walkFrom_roots node (fun n => GraphStore.children n store) [] htree
    (Nat.zero_le (bound + 1))
  rw [List.append_nil, Walk.walkFrom, List.append_nil] at hwalk
  exact hwalk

end Walking

/-! ## Recording -/

/-- The listing of a forest is read to its end, and its calls are recorded. -/
theorem rebuild_listing {σ : Type} [GraphStore σ] (store : σ) (skip : List String) {f : Forest}
    (hword : ∀ name ∈ f.names, IsWord name)
    (hshown : ∀ name ∈ f.names, ¬ Hidden (resolveNode store) skip name) :
    (rebuild skip f.listing store).2.failure = none ∧
      (rebuild skip f.listing store).1 =
        recordEdges (f.edges (nodeOf (resolveNode store))) store := by
  have hnested := wellNested_lines f
  have hrun := reconstruct_of_admitsAll (resolveNode store) skip (readAll_listing hword)
    hnested.admitsAll
  rw [callsAfter_eq_nestedCalls _ _ hnested, nestedCalls_lines _ _ hshown] at hrun
  rw [rebuild, hrun]
  exact ⟨rfl, rfl⟩

section Ledger

variable {l : Ledger} {f : Forest} {node : String → Node}

/-- The callees of a forest's node are the roots below it. -/
theorem callees_recordEdges (hname : ∀ name, (node name).name = name) (hnodup : f.names.Nodup)
    (hfree : ∀ e ∈ l.edges, ∀ name ∈ f.names, e.caller ≠ node name) {t : String × Forest}
    (ht : t ∈ f.trees) :
    (recordEdges (f.edges node) l).callees (node t.1) = t.2.roots.map node := by
  have hinj : ∀ m n, node m = node n ↔ m = n := by
    intro m n
    refine ⟨fun heq => ?_, congrArg node⟩
    rw [← hname m, heq, hname n]
  have hold : l.edges.filter (fun e => e.caller = node t.1) = [] := by
    rw [List.filter_eq_nil_iff]
    intro e he
    rw [decide_eq_true_iff]
    exact hfree e he t.1 (mem_names_of_mem_trees ht)
  have hnew : (f.edges node).filter (fun e => e.caller = node t.1) =
      ((f.calls none).filter fun c => c.1 = t.1).map fun c => ⟨node c.1, node c.2⟩ := by
    rw [edges, List.filter_map]
    congr 1
    refine List.filter_congr fun c _ => ?_
    simp only [Function.comp_apply, hinj]
  have hnone : ∀ c ∈ (none : Option String), c ∉ f.names := fun _ hc => by cases hc
  have hcallees := calleesIn_of_mem_trees ht hnodup hnone
  rw [Ledger.recordEdges_eq, Ledger.callees, List.filter_append, hold, hnew, List.nil_append,
    List.map_map, ← hcallees, calleesIn, List.map_map]
  rfl

theorem children_recordEdges (hname : ∀ name, (node name).name = name) (hnodup : f.names.Nodup)
    (hfree : ∀ e ∈ l.edges, ∀ name ∈ f.names, e.caller ≠ node name) {t : String × Forest}
    (ht : t ∈ f.trees) :
    (recordEdges (f.edges node) l).children (node t.1) = t.2.roots.map node := by
  have hroots : t.2.roots.Nodup :=
    hnodup.sublist ((roots_sublist_names t.2).trans (names_sublist_of_mem_trees ht))
  have hnodes : (t.2.roots.map node).Nodup := by
    refine hroots.map ?_
    intro m n heq
    rw [← hname m, heq, hname n]
  rw [Ledger.children, callees_recordEdges hname hnodup hfree ht]
  exact firstOccurrences_of_nodup hnodes (by simp)

end Ledger

/-- **A printed forest is drawn back**, from any ledger that holds no call from one of its nodes,
and from any archive that holds what such a ledger holds. -/
theorem drawsBack_listing (l : Ledger) (skip : List String) (f : Forest)
    (hword : ∀ name ∈ f.names, IsWord name) (hnodup : f.names.Nodup)
    (hskip : ∀ name ∈ f.names, resolveNode l name = none → name ∉ skip)
    (hfree : ∀ e ∈ l.edges, ∀ name ∈ f.names, e.caller ≠ nodeOf (resolveNode l) name) :
    DrawsBack skip f l ∧
      ∀ a : Archive, Mirrors a l →
        (∀ name ∈ f.names, (nodeOf (resolveNode l) name).Sized) →
          a.nextId + f.names.length < UInt64.size → DrawsBack skip f a := by
  have hshown : ∀ name ∈ f.names, ¬ Hidden (resolveNode l) skip name :=
    fun name hname hhidden => hskip name hname hhidden.1 hhidden.2
  have hchildren := fun t ht => children_recordEdges (t := t) (name_nodeOf l) hnodup hfree ht
  constructor
  · obtain ⟨hfailure, hstore⟩ := rebuild_listing l skip hword hshown
    refine ⟨hfailure, fun t ht bound => ?_⟩
    rw [hstore]
    exact walk_eq_drawTree _ hchildren ht bound
  · intro a hmirrors hsized hroom
    have hresolve := hmirrors.resolveNode_eq
    obtain ⟨hfailure, hstore⟩ := rebuild_listing a skip hword (by rwa [hresolve])
    refine ⟨hfailure, fun t ht bound => ?_⟩
    rw [hstore, hresolve]
    have hedges : ∀ e ∈ f.edges (nodeOf (resolveNode l)), e.caller.Sized ∧ e.callee.Sized := by
      intro e he
      obtain ⟨c, hc, rfl⟩ := List.mem_map.mp he
      exact ⟨hsized _ ((caller_of_mem_calls hc).resolve_left (by simp)),
        hsized _ (callee_of_mem_calls hc)⟩
    have hlength : (f.edges (nodeOf (resolveNode l))).length ≤ f.names.length := by
      rw [edges, List.length_map]
      exact length_calls_le none f
    obtain ⟨hmirrors', hnext⟩ := hmirrors.recordEdges hedges (by omega)
    refine walk_eq_drawTree _ (fun s hs => ?_) ht bound
    rw [← hchildren s hs]
    exact hmirrors'.children_eq (by omega) (hsized _ (mem_names_of_mem_trees hs))

/-- A forest of two trees, the first of them three levels high. -/
def sample : Forest :=
  cons "main" (cons "run" (cons "step" nil nil) (cons "stop" nil nil)) (cons "end" nil nil)

/-- The record of the root of the sample. -/
def sampleRecord : FunctionRecord :=
  ⟨"/src/app.c", "app.c", "main", 20, "int main (void)", none⟩

/-- A call of the root of the sample from elsewhere. -/
def sampleEdge : Edge :=
  ⟨.unresolved "start", ⟨"app.c", "main"⟩⟩

/-- A ledger with that record and that call. -/
def sampleLedger : Ledger :=
  ⟨[], [sampleRecord], [sampleEdge]⟩

/-- An archive with that record and that call. -/
def sampleArchive : Archive :=
  Archive.recordEdge sampleEdge
    { Archive.empty with
      functions := KeyMap.insert (Utf8.encode "main") (Encode.function sampleRecord) [] }

/-- The first tree of the sample, down to the root's own callees. -/
def sampleDrawing : List TreeLine :=
  [⟨0, "main", "app.c"⟩, ⟨1, "run", "unknown"⟩, ⟨1, "stop", "unknown"⟩]

theorem drawsBack_sample :
    walk (rebuild ["main", "printf"] sample.listing sampleLedger).1 ⟨⟨"app.c", "main"⟩, 0⟩ =
        sampleDrawing ∧
      walk (rebuild ["main", "printf"] sample.listing sampleArchive).1 ⟨⟨"app.c", "main"⟩, 0⟩ =
        sampleDrawing := by
  have hword : ∀ name ∈ sample.names, IsWord name := by decide
  have hnodup : sample.names.Nodup := by decide
  have hskip : ∀ name ∈ sample.names, resolveNode sampleLedger name = none →
      name ∉ ["main", "printf"] := by decide
  have hfree : ∀ e ∈ sampleLedger.edges, ∀ name ∈ sample.names,
      e.caller ≠ nodeOf (resolveNode sampleLedger) name := by decide
  have hmirrors : Mirrors sampleArchive sampleLedger :=
    (Mirrors.empty.insertFunction (r := sampleRecord) (by decide +kernel) rfl).recordEdge
      (by decide) (e := sampleEdge) (by decide +kernel)
  have hsized : ∀ name ∈ sample.names, (nodeOf (resolveNode sampleLedger) name).Sized := by
    decide +kernel
  have hroom : sampleArchive.nextId + sample.names.length < UInt64.size := by decide
  obtain ⟨⟨-, hledger⟩, harchive⟩ :=
    drawsBack_listing sampleLedger ["main", "printf"] sample hword hnodup hskip hfree
  obtain ⟨-, harchive⟩ := harchive sampleArchive hmirrors hsized hroom
  have hmain : ("main", cons "run" (cons "step" nil nil) (cons "stop" nil nil)) ∈ sample.trees :=
    List.mem_cons_self
  have hnode : nodeOf (resolveNode sampleArchive) "main" = ⟨"app.c", "main"⟩ := by decide +kernel
  have hdrawn := harchive _ hmain 0
  rw [hnode] at hdrawn
  refine ⟨(hledger _ hmain 0).trans (by decide), hdrawn.trans (by decide +kernel)⟩

end Forest

end CallForest
