import CallForest.Graph.Cabinet
import CallForest.Proofs.Graph.Operation

/-!
# The cabinet answers as the ledger does

`Holds c l` says that the cabinet `c` has what the ledger `l` has: under every key the record that
the ledger finds for it, for every caller the callees that the ledger has edges to, and as many
calls. Every operation gets the same answer from both and leaves them so (`Holds.perform`), and so
does every history (`Holds.answers_eq`). Unlike the archive, the cabinet holds whatever comes.
-/

namespace CallForest

namespace Cabinet

/-- A cabinet has what a ledger has. -/
structure Holds (c : Cabinet) (l : Ledger) : Prop where
  files_eq : ∀ path, c.files[path]? = l.file? path
  functions_eq : ∀ name, c.functions[name]? = l.function? name
  callees_eq : ∀ n, c.callees n = l.callees n
  edgeTotal_eq : c.edgeTotal = l.edges.length

theorem Holds.empty : Holds empty Ledger.empty where
  files_eq _ := Std.HashMap.getElem?_empty
  functions_eq _ := Std.HashMap.getElem?_empty
  callees_eq _ := Std.HashMap.getD_empty
  edgeTotal_eq := rfl

/-- A node that calls nothing has no entry, or an empty one. -/
theorem children_eq (n : Node) (c : Cabinet) :
    c.children n = firstOccurrences [] (c.callees n) := by
  rw [children, callees, Std.HashMap.getD_eq_getD_getElem?]
  cases c.edges[n]? <;> rfl

namespace Holds

variable {c : Cabinet} {l : Ledger}

theorem children_eq (h : Holds c l) (n : Node) : c.children n = l.children n := by
  rw [Cabinet.children_eq, h.callees_eq, Ledger.children]

theorem registerFile (h : Holds c l) {f : FileRecord} (hnew : l.file? f.fullPath = none) :
    Holds { c with files := c.files.insert f.fullPath f } { l with files := l.files ++ [f] } where
  files_eq path := by
    rw [Ledger.file?_append hnew, Std.HashMap.getElem?_insert, h.files_eq]
    simp only [beq_iff_eq]
  functions_eq := h.functions_eq
  callees_eq := h.callees_eq
  edgeTotal_eq := h.edgeTotal_eq

theorem registerFunction (h : Holds c l) {r : FunctionRecord} (hnew : l.function? r.name = none) :
    Holds { c with functions := c.functions.insert r.name r }
      { l with functions := l.functions ++ [r] } where
  files_eq := h.files_eq
  functions_eq name := by
    rw [Ledger.function?_append hnew, Std.HashMap.getElem?_insert, h.functions_eq]
    simp only [beq_iff_eq]
  callees_eq := h.callees_eq
  edgeTotal_eq := h.edgeTotal_eq

theorem updateComplexity (h : Holds c l) {name : String} {r : FunctionRecord}
    (hr : l.function? name = some r) (m : Complexity) :
    Holds { c with functions := c.functions.insert name { r with complexity := some m } }
      { l with functions := l.functions.map (Ledger.measure name m) } where
  files_eq := h.files_eq
  functions_eq k := by
    rw [Ledger.function?_measure, Std.HashMap.getElem?_insert, h.functions_eq]
    by_cases hk : name = k
    · subst hk
      rw [if_pos (beq_self_eq_true name), hr, Option.map_some, Ledger.measure,
        if_pos (Ledger.name_of_function? hr)]
    · rw [if_neg (by simpa using hk)]
      -- no record but that of the name is measured
      have hkept : ∀ s ∈ l.function? k, Ledger.measure name m s = s := fun s hs =>
        if_neg fun hname => hk (hname.symm.trans (Ledger.name_of_function? hs))
      rw [Option.map_congr hkept, Option.map_id']
  callees_eq := h.callees_eq
  edgeTotal_eq := h.edgeTotal_eq

theorem recordEdge (h : Holds c l) (e : Edge) : Holds (c.recordEdge e) (l.recordEdge e) where
  files_eq := h.files_eq
  functions_eq := h.functions_eq
  callees_eq n := by
    rw [Ledger.callees_recordEdge, ← h.callees_eq, callees, callees, Cabinet.recordEdge,
      Std.HashMap.getD_insert]
    by_cases hn : e.caller = n
    · rw [if_pos (by simpa using hn), if_pos hn, hn]
    · rw [if_neg (by simpa using hn), if_neg hn, List.append_nil]
  edgeTotal_eq := by
    show c.edgeTotal + 1 = (l.edges ++ [e]).length
    rw [h.edgeTotal_eq, List.length_append, List.length_singleton]

/-- **An operation gets the same answer from both**, and leaves the cabinet with what the ledger
has. -/
theorem perform (h : Holds c l) (op : StoreOperation) :
    (op.perform c).1 = (op.perform l).1 ∧ Holds (op.perform c).2 (op.perform l).2 := by
  cases op with
  | registerFile f =>
      have hsame := h.files_eq f.fullPath
      show (StoreAnswer.settle c (c.registerFile f)).1 = _ ∧
        Holds (StoreAnswer.settle c (c.registerFile f)).2 _
      rw [Cabinet.registerFile, hsame]
      cases hf : l.file? f.fullPath with
      | some g =>
          rw [Ledger.perform_registerFile_of_some hf]
          exact ⟨rfl, h⟩
      | none =>
          rw [Ledger.perform_registerFile_of_none hf]
          exact ⟨rfl, h.registerFile hf⟩
  | registerFunction r =>
      have hsame := h.functions_eq r.name
      show (StoreAnswer.settle c (c.registerFunction r)).1 = _ ∧
        Holds (StoreAnswer.settle c (c.registerFunction r)).2 _
      rw [Cabinet.registerFunction, hsame]
      cases hr : l.function? r.name with
      | some s =>
          rw [Ledger.perform_registerFunction_of_some hr]
          exact ⟨rfl, h⟩
      | none =>
          rw [Ledger.perform_registerFunction_of_none hr]
          exact ⟨rfl, h.registerFunction hr⟩
  | updateComplexity name m =>
      have hsame := h.functions_eq name
      show (StoreAnswer.settle c (c.updateComplexity name m)).1 = _ ∧
        Holds (StoreAnswer.settle c (c.updateComplexity name m)).2 _
      rw [Cabinet.updateComplexity, hsame]
      cases hr : l.function? name with
      | some r =>
          rw [Ledger.perform_updateComplexity_of_some hr]
          exact ⟨rfl, h.updateComplexity hr m⟩
      | none =>
          rw [Ledger.perform_updateComplexity_of_none hr]
          exact ⟨rfl, h⟩
  | recordEdge e => exact ⟨rfl, h.recordEdge e⟩
  | lookup name => exact ⟨congrArg StoreAnswer.record (h.functions_eq name), h⟩
  | children n => exact ⟨congrArg StoreAnswer.nodes (h.children_eq n), h⟩
  | edgeCount => exact ⟨congrArg StoreAnswer.count h.edgeTotal_eq, h⟩

theorem answers_eq (h : Holds c l) (ops : List StoreOperation) : answers ops c = answers ops l := by
  induction ops generalizing c l with
  | nil => rfl
  | cons op ops ih =>
      obtain ⟨hanswer, hnext⟩ := h.perform op
      rw [answers, answers, hanswer, ih hnext]

theorem performAll (h : Holds c l) (ops : List StoreOperation) :
    Holds (CallForest.performAll ops c) (CallForest.performAll ops l) := by
  induction ops generalizing c l with
  | nil => exact h
  | cons op ops ih => exact ih (h.perform op).2

end Holds

end Cabinet

end CallForest
