import CallForest.Proofs.Graph.Series
import CallForest.Proofs.Ingest.Passes

/-!
# The intakes of one pass

All intakes of a pass are of one kind (`pass_of_mem_passIntakes`). To enter one changes nothing that
another of its kind depends on: calls depend on what names stand for, and are the only ones that do,
but recorded edges leave that (`KeepsNames`). So the operations of a pass are known from the store
at its start (`operationsOf_eq_flatMap`), and so is how many files are handled
(`finished_eq_countP`).

An archive that mirrors a ledger still does so when both take in the same (`Mirrors.takeIn`).
-/

namespace CallForest

/-- Recorded edges do not change what names stand for. -/
def KeepsNames (σ : Type) [GraphStore σ] : Prop :=
  ∀ (e : Edge) (store : σ), resolveNode (GraphStore.recordEdge e store) = resolveNode store

theorem Ledger.keepsNames : KeepsNames Ledger := fun _ _ => rfl

theorem Archive.keepsNames : KeepsNames Archive := fun _ _ => rfl

/-- What operations a pass performs. -/
def StoreOperation.IsOf : Pass → StoreOperation → Prop
  | .files, op => ∃ f, op = .registerFile f
  | .functions, op => ∃ r, op = .registerFunction r
  | .edges, op => ∃ e, op = .recordEdge e
  | .complexity, op => ∃ name c, op = .updateComplexity name c

section Intakes

variable {σ : Type} [GraphStore σ]

theorem KeepsNames.recordEdges (h : KeepsNames σ) (es : List Edge) (store : σ) :
    resolveNode (CallForest.recordEdges es store) = resolveNode store := by
  induction es generalizing store with
  | nil => rfl
  | cons e es ih => exact (ih (GraphStore.recordEdge e store)).trans (h e store)

namespace Intake

/-- The pass that brings an intake. -/
def pass : Intake → Pass
  | file _ => .files
  | functions _ => .functions
  | calls _ _ => .edges
  | measurements _ => .complexity

variable {i : Intake}

theorem resolveNode_enter (h : KeepsNames σ) (hi : i.pass = .edges) (store : σ) :
    resolveNode (i.enter store) = resolveNode store := by
  cases i with
  | calls skip listing =>
      rw [enter_calls]
      exact h.recordEdges _ store
  | file _ | functions _ | measurements _ => cases hi

/-- Only the operations of calls depend on what names stand for. -/
theorem operations_congr {resolve resolve' : String → Option Node}
    (h : i.pass = .edges → resolve = resolve') : i.operations resolve = i.operations resolve' := by
  cases i with
  | calls skip listing => rw [h rfl]
  | file _ | functions _ | measurements _ => rfl

theorem failure_congr {resolve resolve' : String → Option Node}
    (h : i.pass = .edges → resolve = resolve') : i.failure resolve = i.failure resolve' := by
  cases i with
  | calls skip listing => rw [h rfl]
  | file _ | functions _ | measurements _ => rfl

variable {p : Pass} {is : List Intake}

/-- The operations of one pass depend on the store at its start alone. -/
theorem operationsOf_eq_flatMap (h : KeepsNames σ) (hpass : ∀ i ∈ is, i.pass = p) (store : σ) :
    operationsOf is store = is.flatMap fun i => i.operations (resolveNode store) := by
  induction is generalizing store with
  | nil => rfl
  | cons i is ih =>
      obtain ⟨hi, his⟩ := List.forall_mem_cons.mp hpass
      -- the intakes behind `i` do not see that `i` was entered
      rw [operationsOf, ih his, List.flatMap_cons]
      refine congrArg (_ ++ ·) (List.flatMap_congr fun j hj => ?_)
      exact operations_congr fun hedges =>
        resolveNode_enter h (hi.trans ((his j hj).symm.trans hedges)) store

theorem operationsOf_congr (h : KeepsNames σ) (hpass : ∀ i ∈ is, i.pass = p) {store other : σ}
    (hresolve : p = .edges → resolveNode store = resolveNode other) :
    operationsOf is store = operationsOf is other := by
  rw [operationsOf_eq_flatMap h hpass, operationsOf_eq_flatMap h hpass]
  exact List.flatMap_congr fun i hi =>
    operations_congr fun hedges => hresolve ((hpass i hi).symm.trans hedges)

/-- An intake is entered by operations of the pass that brings it. -/
theorem isOf_of_mem_operations {resolve : String → Option Node} {op : StoreOperation}
    (h : op ∈ i.operations resolve) : op.IsOf i.pass := by
  cases i with
  | file record => exact ⟨record, List.mem_singleton.mp h⟩
  | functions records =>
      obtain ⟨r, -, rfl⟩ := List.mem_map.mp h
      exact ⟨r, rfl⟩
  | calls skip listing =>
      obtain ⟨e, -, rfl⟩ := List.mem_map.mp h
      exact ⟨e, rfl⟩
  | measurements ms =>
      obtain ⟨m, -, rfl⟩ := List.mem_map.mp h
      exact ⟨m.name, m.metrics, rfl⟩

theorem isOf_of_mem_operationsOf (hpass : ∀ i ∈ is, i.pass = p) {store : σ} :
    ∀ op ∈ operationsOf is store, op.IsOf p := by
  induction is generalizing store with
  | nil => exact fun op hop => absurd hop List.not_mem_nil
  | cons i is ih =>
      obtain ⟨hi, his⟩ := List.forall_mem_cons.mp hpass
      rw [operationsOf, List.forall_mem_append]
      exact ⟨fun op hop => hi ▸ isOf_of_mem_operations hop, ih his⟩

/-- The operations of a pass other than that over calls do not depend on the store. -/
theorem takeIn_eq_performAll_of_ne (h : KeepsNames σ) (hpass : ∀ i ∈ is, i.pass = p)
    (hp : p ≠ .edges) (store other : σ) :
    takeIn is store = performAll (operationsOf is other) store := by
  rw [takeIn_eq_performAll, operationsOf_congr h hpass fun hedges => absurd hedges hp]

/-- Those of the pass over calls depend on what names stand for. -/
theorem takeIn_eq_recordEdges (h : KeepsNames σ) (hpass : ∀ i ∈ is, i.pass = .edges)
    {store other : σ} (hresolve : resolveNode store = resolveNode other) :
    takeIn is store = recordEdges (recordedCalls (operationsOf is other)) store := by
  rw [takeIn_eq_performAll, operationsOf_congr h hpass fun _ => hresolve, ← performAll_recordEdge,
    map_recordedCalls (isOf_of_mem_operationsOf hpass)]

/-- Which files of one pass are handled depends on the store at its start alone. -/
theorem finished_eq_countP (h : KeepsNames σ) (hpass : ∀ i ∈ is, i.pass = p) (store : σ) :
    finished is store = is.countP fun i => (i.failure (resolveNode store)).isNone := by
  induction is generalizing store with
  | nil => rfl
  | cons i is ih =>
      obtain ⟨hi, his⟩ := List.forall_mem_cons.mp hpass
      rw [finished, ih his, List.countP_cons, Nat.add_comm]
      refine congrArg (· + _) (List.countP_congr fun j hj => ?_)
      rw [failure_congr fun hedges =>
        resolveNode_enter h (hi.trans ((his j hj).symm.trans hedges)) store]

theorem finished_congr (h : KeepsNames σ) (hpass : ∀ i ∈ is, i.pass = p) {store other : σ}
    (hresolve : p = .edges → resolveNode store = resolveNode other) :
    finished is store = finished is other := by
  rw [finished_eq_countP h hpass, finished_eq_countP h hpass]
  refine List.countP_congr fun i hi => ?_
  rw [failure_congr fun hedges => hresolve ((hpass i hi).symm.trans hedges)]

end Intake

end Intakes

namespace Ingest

theorem pass_of_ask {w : Workshop} {pass : Pass} {entry : SourceEntry} {fs : FileSystem}
    {i : Intake} (h : (ask w pass entry fs).2 = .ok i) : i.pass = pass := by
  cases pass with
  | files =>
      unfold ask askFile at h
      simp only at h
      split at h
      · cases h
      · cases h
        rfl
  | functions | edges | complexity =>
      obtain ⟨text, rfl⟩ := exists_read_of_readReply h
      rfl

/-- A pass brings intakes of its own kind. -/
theorem pass_of_mem_passIntakes {w : Workshop} {pass : Pass} {entries : List SourceEntry}
    {fs : FileSystem} {i : Intake} (h : i ∈ passIntakes w pass entries fs) : i.pass = pass := by
  obtain ⟨_, _, _, -, hask⟩ := exists_turn_of_mem_passIntakes h
  exact pass_of_ask hask

/-- The operations of a pass depend on the store alone that it begins with. -/
theorem passOperations_eq_flatMap {σ : Type} [GraphStore σ] (h : KeepsNames σ) (w : Workshop)
    (pass : Pass) (entries : List SourceEntry) (site : Site σ) :
    passOperations w pass entries site =
      (passIntakes w pass entries site.files).flatMap fun i =>
        i.operations (resolveNode site.store) :=
  Intake.operationsOf_eq_flatMap h (fun _ => pass_of_mem_passIntakes) site.store

/-! ## Calls -/

section Calls

variable {σ : Type} [GraphStore σ] (w : Workshop) (entries : List SourceEntry) (site : Site σ)

/-- The calls that a pass over calls records. -/
def passCalls : List Edge :=
  recordedCalls (passOperations w .edges entries site)

theorem map_passCalls :
    (passCalls w entries site).map .recordEdge = passOperations w .edges entries site :=
  map_recordedCalls (Intake.isOf_of_mem_operationsOf fun _ => pass_of_mem_passIntakes)

theorem store_indexEdges :
    (indexEdges w entries site).1.store = recordEdges (passCalls w entries site) site.store := by
  rw [← performAll_recordEdge, map_passCalls]
  exact store_index_eq_performAll w .edges entries site

end Calls

end Ingest

/-! ## The archive -/

/-- An archive takes in what the ledger does that it mirrors, by the same operations. -/
theorem Mirrors.takeIn {a : Archive} {l : Ledger} (h : Mirrors a l) {is : List Intake}
    (hsized : ∀ op ∈ Intake.operationsOf is a, op.Sized)
    (hroom : (Intake.takeIn is a).nextId < UInt64.size) :
    Intake.operationsOf is a = Intake.operationsOf is l ∧
      Mirrors (Intake.takeIn is a) (Intake.takeIn is l) := by
  induction is generalizing a l with
  | nil => exact ⟨rfl, h⟩
  | cons i is ih =>
      rw [Intake.operationsOf] at hsized
      obtain ⟨hi, his⟩ := List.forall_mem_append.mp hsized
      have hentered : (i.enter a).nextId < UInt64.size := by
        rw [Intake.takeIn, Intake.takeIn_eq_performAll] at hroom
        exact Nat.lt_of_le_of_lt (Archive.nextId_performAll _ _).1 hroom
      have hnext : Mirrors (i.enter a) (i.enter l) := by
        have hmirrors := h.performAll hi hentered
        rw [h.resolveNode_eq] at hmirrors
        unfold Intake.enter
        rwa [h.resolveNode_eq]
      obtain ⟨hoperations, hmirrors⟩ := ih hnext his hroom
      exact ⟨by rw [Intake.operationsOf, Intake.operationsOf, h.resolveNode_eq, hoperations],
        hmirrors⟩

/-- The same for an archive that has room for what it takes in. -/
theorem Archive.Fits.takeIn {ops : List StoreOperation} {is : List Intake}
    (h : Archive.Fits (ops ++ Intake.operationsOf is (performAll ops Archive.empty))) :
    Intake.operationsOf is (performAll ops Archive.empty) =
        Intake.operationsOf is (performAll ops Ledger.empty) ∧
      Mirrors (Intake.takeIn is (performAll ops Archive.empty))
          (Intake.takeIn is (performAll ops Ledger.empty)) ∧
        (Intake.takeIn is (performAll ops Archive.empty)).nextId < UInt64.size := by
  have hroom : (Intake.takeIn is (performAll ops Archive.empty)).nextId < UInt64.size := by
    rw [Intake.takeIn_eq_performAll, ← performAll_append]
    exact h.nextId_lt
  obtain ⟨hoperations, hmirrors⟩ := h.of_append.mirrors.takeIn
    (fun op hop => h.sized op (List.mem_append_right _ hop)) hroom
  exact ⟨hoperations, hmirrors, hroom⟩

/-- The sample files, and an archive in which a function is registered. -/
def Ingest.knownSite : Site Archive :=
  ⟨performAll [.registerFunction firstMain] .empty, sampleFiles, []⟩

end CallForest
