import CallForest.Graph.Ledger

/-!
# Operations on a store

The seven operations of a store as data, so that a history of a store is a list of them. A refused
operation leaves the store as it is (`perform_refused`). For the ledger, each operation that may be
refused is described by two equations, one for each answer, and by what it changes in the registries
(`file?_append`, `function?_append`, `function?_measure`).
-/

namespace CallForest

/-- An operation on a store. -/
inductive StoreOperation where
  | registerFile (f : FileRecord)
  | registerFunction (r : FunctionRecord)
  | recordEdge (e : Edge)
  | lookup (name : String)
  | children (n : Node)
  | updateComplexity (name : String) (c : Complexity)
  | edgeCount
  deriving DecidableEq, Repr

/-- What a store answers. -/
inductive StoreAnswer where
  | done
  | refused (e : StoreError)
  | record (r : Option FunctionRecord)
  | nodes (ns : List Node)
  | count (n : Nat)
  deriving DecidableEq, Repr

/-- Names stand for the same nodes where they have the same records. -/
theorem resolveNode_congr {σ τ : Type} [GraphStore σ] [GraphStore τ] {s : σ} {t : τ}
    (h : ∀ name, GraphStore.lookup? name s = GraphStore.lookup? name t) :
    resolveNode s = resolveNode t :=
  funext fun name => congrArg (Option.map FunctionRecord.node) (h name)

section Perform

variable {σ : Type}

/-- The answer to an operation that may be refused, and the store behind it. -/
def StoreAnswer.settle (store : σ) : Except StoreError σ → StoreAnswer × σ
  | .ok s => (.done, s)
  | .error e => (.refused e, store)

variable [GraphStore σ]

/-- Performs an operation. -/
def StoreOperation.perform (store : σ) : StoreOperation → StoreAnswer × σ
  | .registerFile f => StoreAnswer.settle store (GraphStore.registerFile f store)
  | .registerFunction r => StoreAnswer.settle store (GraphStore.registerFunction r store)
  | .recordEdge e => (.done, GraphStore.recordEdge e store)
  | .lookup name => (.record (GraphStore.lookup? name store), store)
  | .children n => (.nodes (GraphStore.children n store), store)
  | .updateComplexity name c => StoreAnswer.settle store (GraphStore.updateComplexity name c store)
  | .edgeCount => (.count (GraphStore.edgeCount store), store)

/-- The answers to operations that are performed one after another. -/
def answers : List StoreOperation → σ → List StoreAnswer
  | [], _ => []
  | op :: ops, store => (op.perform store).1 :: answers ops (op.perform store).2

/-- The store after operations that are performed one after another. -/
def performAll : List StoreOperation → σ → σ
  | [], store => store
  | op :: ops, store => performAll ops (op.perform store).2

theorem performAll_append (ops later : List StoreOperation) (store : σ) :
    performAll (ops ++ later) store = performAll later (performAll ops store) := by
  induction ops generalizing store with
  | nil => rfl
  | cons op ops ih => exact ih _

/-- A refused operation leaves the store as it is. -/
theorem perform_refused {op : StoreOperation} {store : σ} {e : StoreError}
    (h : (op.perform store).1 = .refused e) : op.perform store = (.refused e, store) := by
  have hsettle : ∀ {x : Except StoreError σ}, (StoreAnswer.settle store x).1 = .refused e →
      StoreAnswer.settle store x = (.refused e, store) := by
    intro x hx
    cases x with
    | ok s => cases hx
    | error e' =>
        cases hx
        rfl
  cases op with
  | registerFile f => exact hsettle h
  | registerFunction r => exact hsettle h
  | updateComplexity name c => exact hsettle h
  | recordEdge e => cases h
  | lookup name => cases h
  | children n => cases h
  | edgeCount => cases h

/-- Operations that are refused change nothing. -/
theorem performAll_of_refused {ops : List StoreOperation} {store : σ}
    (h : ∀ op ∈ ops, ∃ e, (op.perform store).1 = .refused e) : performAll ops store = store := by
  induction ops with
  | nil => rfl
  | cons op ops ih =>
      obtain ⟨⟨e, hop⟩, hops⟩ := List.forall_mem_cons.mp h
      rw [performAll, perform_refused hop]
      exact ih hops

theorem performAll_recordEdge (es : List Edge) (store : σ) :
    performAll (es.map .recordEdge) store = recordEdges es store := by
  induction es generalizing store with
  | nil => rfl
  | cons e es ih => exact ih (GraphStore.recordEdge e store)

end Perform

namespace Ledger

/-- Sets the metrics of a record if it has the name. -/
def measure (name : String) (c : Complexity) (r : FunctionRecord) : FunctionRecord :=
  if r.name = name then { r with complexity := some c } else r

@[simp] theorem name_measure (name : String) (c : Complexity) (r : FunctionRecord) :
    (measure name c r).name = r.name := by
  unfold measure
  split <;> rfl

theorem file?_append {l : Ledger} {f : FileRecord} (h : l.file? f.fullPath = none)
    (path : String) :
    ({ l with files := l.files ++ [f] } : Ledger).file? path =
      if f.fullPath = path then some f else l.file? path := by
  unfold file? at *
  rw [List.find?_append]
  by_cases hpath : f.fullPath = path
  · subst hpath
    rw [h]
    simp
  · simp [hpath]

theorem function?_append {l : Ledger} {r : FunctionRecord} (h : l.function? r.name = none)
    (name : String) :
    ({ l with functions := l.functions ++ [r] } : Ledger).function? name =
      if r.name = name then some r else l.function? name := by
  unfold function? at *
  rw [List.find?_append]
  by_cases hname : r.name = name
  · subst hname
    rw [h]
    simp
  · simp [hname]

theorem name_of_function? {l : Ledger} {name : String} {r : FunctionRecord}
    (h : l.function? name = some r) : r.name = name := by
  simpa using List.find?_some h

theorem mem_of_function? {l : Ledger} {name : String} {r : FunctionRecord}
    (h : l.function? name = some r) : r ∈ l.functions :=
  List.mem_of_find?_eq_some h

/-- Measuring changes the record of that name alone. -/
theorem function?_measure (l : Ledger) (name : String) (c : Complexity) (k : String) :
    ({ l with functions := l.functions.map (measure name c) } : Ledger).function? k =
      (l.function? k).map (measure name c) := by
  unfold function?
  rw [List.find?_map]
  congr 2
  funext r
  simp

/-- An update of a registered name measures its record. -/
theorem updateComplexity_eq {l : Ledger} {name : String} {r : FunctionRecord} (c : Complexity)
    (h : l.function? name = some r) :
    l.updateComplexity name c = .ok { l with functions := l.functions.map (measure name c) } := by
  unfold updateComplexity
  rw [h]
  rfl

/-! ## Operations that may be refused -/

section Perform

variable {l : Ledger} {f g : FileRecord} {r s : FunctionRecord} {name : String}

theorem perform_registerFile_of_none (h : l.file? f.fullPath = none) :
    (StoreOperation.registerFile f).perform l = (.done, { l with files := l.files ++ [f] }) := by
  show StoreAnswer.settle l (l.registerFile f) = _
  rw [registerFile, h]
  rfl

theorem perform_registerFile_of_some (h : l.file? f.fullPath = some g) :
    (StoreOperation.registerFile f).perform l = (.refused (.conflict f.fullPath), l) := by
  show StoreAnswer.settle l (l.registerFile f) = _
  rw [registerFile, h]
  rfl

theorem perform_registerFunction_of_none (h : l.function? r.name = none) :
    (StoreOperation.registerFunction r).perform l =
      (.done, { l with functions := l.functions ++ [r] }) := by
  show StoreAnswer.settle l (l.registerFunction r) = _
  rw [registerFunction, h]
  rfl

theorem perform_registerFunction_of_some (h : l.function? r.name = some s) :
    (StoreOperation.registerFunction r).perform l = (.refused (.conflict r.name), l) := by
  show StoreAnswer.settle l (l.registerFunction r) = _
  rw [registerFunction, h]
  rfl

theorem perform_updateComplexity_of_none (h : l.function? name = none) (c : Complexity) :
    (StoreOperation.updateComplexity name c).perform l = (.refused (.notFound name), l) := by
  show StoreAnswer.settle l (l.updateComplexity name c) = _
  rw [updateComplexity, h]
  rfl

theorem perform_updateComplexity_of_some (h : l.function? name = some r) (c : Complexity) :
    (StoreOperation.updateComplexity name c).perform l =
      (.done, { l with functions := l.functions.map (measure name c) }) := by
  show StoreAnswer.settle l (l.updateComplexity name c) = _
  rw [updateComplexity_eq c h]
  rfl

end Perform

/-- A call that is recorded adds a callee to its caller. -/
theorem callees_recordEdge (l : Ledger) (e : Edge) (n : Node) :
    (l.recordEdge e).callees n = l.callees n ++ if e.caller = n then [e.callee] else [] := by
  have hedges : (l.recordEdge e).edges = l.edges ++ [e] := rfl
  rw [callees, hedges, List.filter_append, List.map_append, callees]
  by_cases h : e.caller = n <;> simp [h]

/-- Recording edges puts them behind those there are, and changes nothing else. -/
theorem recordEdges_eq (l : Ledger) (es : List Edge) :
    recordEdges es l = { l with edges := l.edges ++ es } := by
  induction es generalizing l with
  | nil => simp [recordEdges]
  | cons e es ih =>
      have hstep : recordEdges (e :: es) l = recordEdges es (l.recordEdge e) := rfl
      rw [hstep, ih]
      simp [recordEdge]

end Ledger

end CallForest
