import CallForest.Proofs.Graph.Cabinet
import CallForest.Proofs.Graph.Mirror

/-!
# What a store knows of a name

The record of a name is the first that was registered under it. Only its metrics change, and they
are those that were set last behind the registration. A registration under a name or a full path
that is taken is refused, and so is an update of a name without a record; what is refused changes
nothing. So a name stands for the same node from its registration on.

`KeepsRecords` says this of a history of operations, and all stores keep it, the archive as far as
the history fits into it (`keepsRecords`). A step lemma says what one operation does to the record
of one name (`function?_perform_of_some`, `function?_perform_of_none`), and a run lemma what a
history does (`function?_performAll_of_some`, `function?_performAll_of_none`).
-/

namespace CallForest

/-- The metrics that an operation sets for a name. -/
def StoreOperation.metrics? (name : String) : StoreOperation → Option Complexity
  | .updateComplexity k c => if k = name then some c else none
  | _ => none

/-- The metrics that operations set last for a name. -/
def lastMetrics? (name : String) (ops : List StoreOperation) : Option Complexity :=
  (ops.filterMap (StoreOperation.metrics? name)).getLast?

/-- A record with the metrics that operations set last for its name, if they set any. -/
def FunctionRecord.after (r : FunctionRecord) (ops : List StoreOperation) : FunctionRecord :=
  { r with complexity := (lastMetrics? r.name ops).or r.complexity }

/-- What operations on an empty store leave of names and full paths. -/
structure KeepsRecords (σ : Type) [GraphStore σ] (ops : List StoreOperation) : Prop where
  /-- A name is without a record exactly if nothing was registered under it. -/
  lookup_eq_none_iff : ∀ name,
    GraphStore.lookup? name (performAll ops (GraphStore.empty : σ)) = none ↔
      ∀ r, .registerFunction r ∈ ops → r.name ≠ name
  /-- The first record under a name stays, with the metrics that were set last behind it. -/
  lookup_first : ∀ earlier r later, ops = earlier ++ StoreOperation.registerFunction r :: later →
    (∀ s, .registerFunction s ∈ earlier → s.name ≠ r.name) →
      GraphStore.lookup? r.name (performAll ops (GraphStore.empty : σ)) = some (r.after later)
  /-- A name that has a record gets no other. -/
  function_taken : ∀ r s, .registerFunction s ∈ ops → s.name = r.name →
    (StoreOperation.registerFunction r).perform (performAll ops (GraphStore.empty : σ)) =
      (.refused (.conflict r.name), performAll ops GraphStore.empty)
  /-- A full path that has a record gets no other. -/
  file_taken : ∀ f g, .registerFile g ∈ ops → g.fullPath = f.fullPath →
    (StoreOperation.registerFile f).perform (performAll ops (GraphStore.empty : σ)) =
      (.refused (.conflict f.fullPath), performAll ops GraphStore.empty)
  /-- A name without a record is not measured. -/
  update_missing : ∀ name c, (∀ r, .registerFunction r ∈ ops → r.name ≠ name) →
    (StoreOperation.updateComplexity name c).perform (performAll ops (GraphStore.empty : σ)) =
      (.refused (.notFound name), performAll ops GraphStore.empty)
  /-- A name stands for the same node ever after. -/
  node_kept : ∀ earlier later, ops = earlier ++ later → ∀ name node,
    resolveNode (performAll earlier (GraphStore.empty : σ)) name = some node →
      resolveNode (performAll ops (GraphStore.empty : σ)) name = some node

/-! ## Metrics -/

theorem lastMetrics?_cons (name : String) (op : StoreOperation) (ops : List StoreOperation) :
    lastMetrics? name (op :: ops) = (lastMetrics? name ops).or (op.metrics? name) := by
  unfold lastMetrics?
  rw [List.filterMap_cons]
  cases op.metrics? name with
  | none => rw [Option.or_none]
  | some c =>
      simp only [List.getLast?_cons]
      cases (ops.filterMap (StoreOperation.metrics? name)).getLast? <;> rfl

namespace FunctionRecord

theorem after_cons (r : FunctionRecord) (op : StoreOperation) (ops : List StoreOperation) :
    r.after (op :: ops) = (r.after [op]).after ops := by
  have hone : lastMetrics? r.name [op] = op.metrics? r.name := by
    rw [lastMetrics?_cons]
    rfl
  simp only [after, lastMetrics?_cons, Option.or_assoc, hone]

/-- Metrics do not change what node a record stands for. -/
@[simp] theorem node_after (r : FunctionRecord) (ops : List StoreOperation) :
    (r.after ops).node = r.node := rfl

/-- An operation that sets no metrics for the name leaves the record. -/
theorem after_of_metrics?_eq_none {r : FunctionRecord} {op : StoreOperation}
    (h : op.metrics? r.name = none) : r.after [op] = r := by
  rw [after, lastMetrics?_cons, h]
  rfl

end FunctionRecord

/-! ## The ledger -/

namespace Ledger

variable {l : Ledger} {name path : String} {r : FunctionRecord} {f : FileRecord}

/-- One operation on a name that has a record: at most its metrics are set. -/
theorem function?_perform_of_some (h : l.function? name = some r) (op : StoreOperation) :
    (op.perform l).2.function? name = some (r.after [op]) := by
  have hname := name_of_function? h
  cases op with
  | registerFile g =>
      cases hg : l.file? g.fullPath with
      | some t => rwa [perform_registerFile_of_some hg]
      | none => rwa [perform_registerFile_of_none hg]
  | registerFunction s =>
      cases hs : l.function? s.name with
      | some t => rwa [perform_registerFunction_of_some hs]
      | none =>
          have hne : s.name ≠ name := by
            rintro rfl
            rw [hs] at h
            cases h
          rwa [perform_registerFunction_of_none hs, function?_append hs, if_neg hne]
  | updateComplexity k c =>
      by_cases hk : k = name
      · subst hk
        rw [perform_updateComplexity_of_some h, function?_measure, h, Option.map_some, measure,
          if_pos hname, FunctionRecord.after, lastMetrics?_cons, StoreOperation.metrics?,
          if_pos hname.symm]
        rfl
      · have hnone : (StoreOperation.updateComplexity k c).metrics? r.name = none := by
          rw [StoreOperation.metrics?, hname, if_neg hk]
        rw [FunctionRecord.after_of_metrics?_eq_none hnone]
        cases hs : l.function? k with
        | none => rwa [perform_updateComplexity_of_none hs]
        | some s =>
            rw [perform_updateComplexity_of_some hs, function?_measure, h, Option.map_some, measure,
              if_neg (by rw [hname]; exact Ne.symm hk)]
  | recordEdge _ | lookup _ | children _ | edgeCount => exact h

/-- One operation on a name without a record: only a registration under it gives it one. -/
theorem function?_perform_of_none (h : l.function? name = none) {op : StoreOperation}
    (hop : ∀ s, op = .registerFunction s → s.name ≠ name) :
    (op.perform l).2.function? name = none := by
  cases op with
  | registerFile g =>
      cases hg : l.file? g.fullPath with
      | some t => rwa [perform_registerFile_of_some hg]
      | none => rwa [perform_registerFile_of_none hg]
  | registerFunction s =>
      cases hs : l.function? s.name with
      | some t => rwa [perform_registerFunction_of_some hs]
      | none => rwa [perform_registerFunction_of_none hs, function?_append hs, if_neg (hop s rfl)]
  | updateComplexity k c =>
      cases hs : l.function? k with
      | none => rwa [perform_updateComplexity_of_none hs]
      | some s => rw [perform_updateComplexity_of_some hs, function?_measure, h, Option.map_none]
  | recordEdge _ | lookup _ | children _ | edgeCount => exact h

/-- After a registration the name has the record that it had, or else the new one. -/
theorem function?_perform_register (l : Ledger) (r : FunctionRecord) :
    ((StoreOperation.registerFunction r).perform l).2.function? r.name =
      some ((l.function? r.name).getD r) := by
  cases hs : l.function? r.name with
  | some s => rwa [perform_registerFunction_of_some hs]
  | none =>
      rw [perform_registerFunction_of_none hs, function?_append hs, if_pos rfl, Option.getD_none]

theorem function?_performAll_of_some (h : l.function? name = some r)
    (ops : List StoreOperation) :
    (performAll ops l).function? name = some (r.after ops) := by
  induction ops generalizing l r with
  | nil => exact h
  | cons op ops ih =>
      rw [FunctionRecord.after_cons]
      exact ih (function?_perform_of_some h op)

theorem function?_performAll_of_none (h : l.function? name = none) {ops : List StoreOperation}
    (hops : ∀ s, .registerFunction s ∈ ops → s.name ≠ name) :
    (performAll ops l).function? name = none := by
  induction ops generalizing l with
  | nil => exact h
  | cons op ops ih =>
      have hop : ∀ s, op = .registerFunction s → s.name ≠ name := by
        rintro s rfl
        exact hops s List.mem_cons_self
      exact ih (function?_perform_of_none h hop)
        fun s hs => hops s (List.mem_cons_of_mem _ hs)

/-- A record that is there after operations was there before, or was registered by one of them, up
to its metrics. -/
theorem exists_record_or_registration {ops : List StoreOperation}
    (h : (performAll ops l).function? name = some r) :
    (∃ s, l.function? name = some s ∧ s.node = r.node) ∨
      ∃ s, .registerFunction s ∈ ops ∧ s.node = r.node := by
  induction ops generalizing l with
  | nil => exact .inl ⟨r, h, rfl⟩
  | cons op ops ih =>
      cases hl : l.function? name with
      | some s =>
          have hkept := function?_performAll_of_some hl (op :: ops)
          rw [h] at hkept
          cases hkept
          exact .inl ⟨s, rfl, (FunctionRecord.node_after s _).symm⟩
      | none =>
          right
          obtain ⟨t, ht, hnode⟩ | ⟨s, hs, hnode⟩ := ih h
          · by_cases hop : ∃ s, op = .registerFunction s ∧ s.name = name
            · obtain ⟨s, rfl, rfl⟩ := hop
              have hentered := function?_perform_register l s
              rw [hl, Option.getD_none, ht] at hentered
              cases hentered
              exact ⟨t, List.mem_cons_self, hnode⟩
            · rw [function?_perform_of_none hl fun s hs hname => hop ⟨s, hs, hname⟩] at ht
              cases ht
          · exact ⟨s, List.mem_cons_of_mem op hs, hnode⟩

theorem exists_registration {ops : List StoreOperation}
    (h : (performAll ops empty).function? name = some r) :
    ∃ s, .registerFunction s ∈ ops ∧ s.node = r.node :=
  (exists_record_or_registration h).resolve_left fun ⟨_, hnone, _⟩ => nomatch hnone

/-- Whatever was registered, its name has a record. -/
theorem isSome_function?_performAll (l : Ledger) {ops : List StoreOperation}
    (h : .registerFunction r ∈ ops) : ((performAll ops l).function? r.name).isSome := by
  obtain ⟨earlier, later, rfl⟩ := List.append_of_mem h
  rw [performAll_append, performAll,
    function?_performAll_of_some (function?_perform_register _ r)]
  rfl

/-- One operation leaves the record of a full path. -/
theorem file?_perform_of_some (h : l.file? path = some f) (op : StoreOperation) :
    (op.perform l).2.file? path = some f := by
  cases op with
  | registerFile g =>
      cases hg : l.file? g.fullPath with
      | some t => rwa [perform_registerFile_of_some hg]
      | none =>
          have hne : g.fullPath ≠ path := by
            rintro rfl
            rw [hg] at h
            cases h
          rwa [perform_registerFile_of_none hg, file?_append hg, if_neg hne]
  | registerFunction s =>
      cases hs : l.function? s.name with
      | some t => rwa [perform_registerFunction_of_some hs]
      | none => rwa [perform_registerFunction_of_none hs]
  | updateComplexity k c =>
      cases hs : l.function? k with
      | some t => rwa [perform_updateComplexity_of_some hs]
      | none => rwa [perform_updateComplexity_of_none hs]
  | recordEdge _ | lookup _ | children _ | edgeCount => exact h

theorem isSome_file?_perform_register (l : Ledger) (f : FileRecord) :
    (((StoreOperation.registerFile f).perform l).2.file? f.fullPath).isSome := by
  cases hg : l.file? f.fullPath with
  | some g => rw [perform_registerFile_of_some hg, hg, Option.isSome_some]
  | none => rw [perform_registerFile_of_none hg, file?_append hg, if_pos rfl, Option.isSome_some]

theorem file?_performAll_of_some (h : l.file? path = some f) (ops : List StoreOperation) :
    (performAll ops l).file? path = some f := by
  induction ops generalizing l with
  | nil => exact h
  | cons op ops ih => exact ih (file?_perform_of_some h op)

theorem isSome_file?_performAll (l : Ledger) {ops : List StoreOperation}
    (h : .registerFile f ∈ ops) : ((performAll ops l).file? f.fullPath).isSome := by
  obtain ⟨earlier, later, rfl⟩ := List.append_of_mem h
  rw [performAll_append, performAll]
  obtain ⟨g, hg⟩ := Option.isSome_iff_exists.mp (isSome_file?_perform_register _ f)
  rw [file?_performAll_of_some hg, Option.isSome_some]

/-- The node of a name with a record does not change. -/
theorem resolveNode_performAll {node : Node} (h : resolveNode l name = some node)
    (ops : List StoreOperation) : resolveNode (performAll ops l) name = some node := by
  obtain ⟨r, hr, rfl⟩ := Option.map_eq_some_iff.mp h
  show ((performAll ops l).function? name).map FunctionRecord.node = _
  rw [function?_performAll_of_some hr, Option.map_some, FunctionRecord.node_after]

/-- Every history of a ledger keeps records. -/
theorem recordsKept (ops : List StoreOperation) : KeepsRecords Ledger ops where
  lookup_eq_none_iff name := by
    constructor
    · rintro hnone r hr rfl
      have hsome := isSome_function?_performAll empty hr
      rw [show (performAll ops empty).function? r.name = none from hnone] at hsome
      cases hsome
    · exact function?_performAll_of_none rfl
  lookup_first earlier r later hops hfirst := by
    subst hops
    have hfree : (performAll earlier empty).function? r.name = none :=
      function?_performAll_of_none rfl hfirst
    have hentered := function?_perform_register (performAll earlier empty) r
    rw [hfree, Option.getD_none] at hentered
    rw [performAll_append]
    exact function?_performAll_of_some hentered later
  function_taken r s hs hname := by
    obtain ⟨t, ht⟩ := Option.isSome_iff_exists.mp (isSome_function?_performAll empty hs)
    exact perform_registerFunction_of_some (hname ▸ ht)
  file_taken f g hg hpath := by
    obtain ⟨t, ht⟩ := Option.isSome_iff_exists.mp (isSome_file?_performAll empty hg)
    exact perform_registerFile_of_some (hpath ▸ ht)
  update_missing name c hmissing :=
    perform_updateComplexity_of_none (function?_performAll_of_none rfl hmissing) c
  node_kept earlier later hops name node hnode := by
    subst hops
    rw [performAll_append]
    exact resolveNode_performAll hnode later

end Ledger

/-! ## Stores that answer as the ledger does -/

/-- Records are kept where names have the records of the ledger, stand for the same nodes all the
way, and are refused what the ledger refuses. -/
theorem KeepsRecords.of_ledger {σ : Type} [GraphStore σ] {ops : List StoreOperation}
    (hlookup : ∀ name, GraphStore.lookup? name (performAll ops (GraphStore.empty : σ)) =
      GraphStore.lookup? name (performAll ops Ledger.empty))
    (hresolve : ∀ earlier later, ops = earlier ++ later →
      resolveNode (performAll earlier (GraphStore.empty : σ)) =
        resolveNode (performAll earlier Ledger.empty))
    (hrefused : ∀ (op : StoreOperation) e,
      (op.perform (performAll ops Ledger.empty)).1 = .refused e →
        (op.perform (performAll ops (GraphStore.empty : σ))).1 = .refused e) :
    KeepsRecords σ ops := by
  have hledger := Ledger.recordsKept ops
  constructor
  · intro name
    exact (Eq.congr_left (hlookup name)).trans (hledger.lookup_eq_none_iff name)
  · intro earlier r later hops hfirst
    exact (hlookup r.name).trans (hledger.lookup_first earlier r later hops hfirst)
  · intro r s hs hname
    exact perform_refused (hrefused _ _ (congrArg Prod.fst (hledger.function_taken r s hs hname)))
  · intro f g hg hpath
    exact perform_refused (hrefused _ _ (congrArg Prod.fst (hledger.file_taken f g hg hpath)))
  · intro name c hmissing
    exact perform_refused
      (hrefused _ _ (congrArg Prod.fst (hledger.update_missing name c hmissing)))
  · intro earlier later hops name node hnode
    rw [hresolve ops [] (List.append_nil ops).symm]
    rw [hresolve earlier later hops] at hnode
    exact hledger.node_kept earlier later hops name node hnode

namespace Mirrors

variable {a : Archive} {l : Ledger}

/-- An archive refuses a name that the ledger has a record of, however long the new record is. -/
theorem perform_registerFunction_of_some (h : Mirrors a l)
    {r s : FunctionRecord} (hs : l.function? r.name = some s) :
    (StoreOperation.registerFunction r).perform a = (.refused (.conflict r.name), a) := by
  have hkey := h.functions r.name
  rw [hs] at hkey
  show StoreAnswer.settle a (a.registerFunction r) = _
  unfold Archive.registerFunction
  rw [Archive.insertNew_of_some _ hkey]
  rfl

/-- An archive refuses what the ledger refuses. -/
theorem refused (h : Mirrors a l) {op : StoreOperation} {e : StoreError}
    (hop : (op.perform l).1 = .refused e) : (op.perform a).1 = .refused e := by
  cases op with
  | registerFile f => exact (h.registerFile f).1.trans hop
  | registerFunction r =>
      cases hr : l.function? r.name with
      | some s =>
          rw [Ledger.perform_registerFunction_of_some hr] at hop
          rw [h.perform_registerFunction_of_some hr]
          exact hop
      | none =>
          rw [Ledger.perform_registerFunction_of_none hr] at hop
          cases hop
  | updateComplexity name c => exact (h.updateComplexity name c).1.trans hop
  | recordEdge e => cases hop
  | lookup name => cases hop
  | children n => cases hop
  | edgeCount => cases hop

end Mirrors

/-- **All stores keep records**: the ledger and the cabinet through every history, and the archive
through every history that fits into it. -/
theorem keepsRecords (ops : List StoreOperation) :
    KeepsRecords Ledger ops ∧ KeepsRecords Cabinet ops ∧
      (Archive.Fits ops → KeepsRecords Archive ops) := by
  refine ⟨Ledger.recordsKept ops, ?_, fun hfits => ?_⟩
  · have hholds := fun ops => Cabinet.Holds.empty.performAll ops
    exact .of_ledger (hholds ops).functions_eq
      (fun earlier _ _ => resolveNode_congr (hholds earlier).functions_eq)
      fun op _ hop => ((hholds ops).perform op).1.trans hop
  · refine .of_ledger hfits.mirrors.function?_eq ?_ fun op e hop => hfits.mirrors.refused hop
    rintro earlier later rfl
    exact hfits.of_append.mirrors.resolveNode_eq

/-- The record of a function, as it is registered first. -/
def firstMain : FunctionRecord :=
  ⟨"/src/app.c", "app.c", "main", 3, "int main (void)", none⟩

/-- The record of a function of the same name. -/
def secondMain : FunctionRecord :=
  ⟨"/src/lib.c", "lib.c", "main", 9, "void main (int)", some ⟨1, 1⟩⟩

/-- A history in which a name is measured before, between and after two registrations. -/
def registryHistory : List StoreOperation :=
  [.updateComplexity "main" ⟨7, 7⟩, .registerFunction firstMain, .updateComplexity "main" ⟨4, 17⟩,
    .registerFunction secondMain, .updateComplexity "main" ⟨5, 20⟩]

theorem lookup_registryHistory :
    Archive.Fits registryHistory ∧
      GraphStore.lookup? "main" (performAll registryHistory Archive.empty) =
        some { firstMain with complexity := some ⟨5, 20⟩ } ∧
      GraphStore.lookup? "exit" (performAll registryHistory Archive.empty) = none ∧
      (StoreOperation.registerFunction secondMain).perform
          (performAll registryHistory Archive.empty) =
        (.refused (.conflict "main"), performAll registryHistory Archive.empty) := by
  have hfits : Archive.Fits registryHistory := by decide +kernel
  have hkeeps := (keepsRecords registryHistory).2.2 hfits
  have hmain := hkeeps.lookup_first [.updateComplexity "main" ⟨7, 7⟩] firstMain _ rfl (by simp)
  have hexit := (hkeeps.lookup_eq_none_iff "exit").mpr
    (by simp [registryHistory, firstMain, secondMain])
  have htaken := hkeeps.function_taken secondMain firstMain (by simp [registryHistory]) rfl
  exact ⟨hfits, hmain, hexit, htaken⟩

end CallForest
