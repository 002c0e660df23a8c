import CallForest.Proofs.Graph.Calls
import CallForest.Proofs.Graph.Registry

/-!
# Operations of one kind, one after another

What a ledger comes to when functions are registered one after another, or calls are recorded, or
metrics are set: each series changes one of its lists, and the whole series is described by one
equation. For the archive it is said what a series leaves alone (`AddsCalls`).

Registrations, calls and metrics that are performed a second time in this order change the count of
calls and nothing else (`Ledger.performAll_again`, `Unharmed`).
-/

namespace CallForest

/-- The callees that calls have for a node, in order. -/
def calleesFrom (n : Node) (es : List Edge) : List Node :=
  (es.filter fun e => e.caller = n).map Edge.callee

/-- A store comes of another by recording calls: `callees` gives the callees of a node, repeated
ones included, and `rest` what a store has beside calls. -/
structure AddsCalls {σ ρ : Type} [GraphStore σ] (callees : Node → σ → List Node) (rest : σ → ρ)
    (es : List Edge) (before after : σ) : Prop where
  callees_eq : ∀ n, callees n after = callees n before ++ calleesFrom n es
  edgeCount_eq : GraphStore.edgeCount after = GraphStore.edgeCount before + es.length
  rest_eq : rest after = rest before

/-- A store answers as it did before, but counts more calls: `file` gives the record of a file. -/
structure Unharmed {σ φ : Type} [GraphStore σ] (file : String → σ → Option φ) (once again : σ)
    (added : Nat) : Prop where
  file_eq : ∀ path, file path again = file path once
  lookup_eq : ∀ name, GraphStore.lookup? name again = GraphStore.lookup? name once
  children_eq : ∀ n, GraphStore.children n again = GraphStore.children n once
  edgeCount_eq : GraphStore.edgeCount again = GraphStore.edgeCount once + added

/-! ## Metrics -/

/-- To set the same metrics again changes nothing. -/
theorem FunctionRecord.after_after (r : FunctionRecord) (ops : List StoreOperation) :
    (r.after ops).after ops = r.after ops := by
  simp only [after, ← Option.or_assoc, Option.or_self]

namespace Ledger

theorem measure_eq_after (name : String) (c : Complexity) (r : FunctionRecord) :
    measure name c r = r.after [.updateComplexity name c] := by
  have hlast : lastMetrics? r.name [.updateComplexity name c] =
      if name = r.name then some c else none := by
    rw [lastMetrics?_cons]
    rfl
  rw [FunctionRecord.after, hlast, measure]
  by_cases h : name = r.name
  · rw [if_pos h, if_pos h.symm, Option.some_or]
  · rw [if_neg h, if_neg (Ne.symm h), Option.none_or]

variable (l : Ledger)

/-- An update measures the records of its name, of which there may be none. -/
theorem perform_updateComplexity (name : String) (c : Complexity) :
    ((StoreOperation.updateComplexity name c).perform l).2 =
      { l with functions := l.functions.map (measure name c) } := by
  cases hr : l.function? name with
  | some r => rw [perform_updateComplexity_of_some hr]
  | none =>
      have hother : ∀ r ∈ l.functions, measure name c r = id r := fun r hmem =>
        if_neg (by simpa using List.find?_eq_none.mp hr r hmem)
      rw [perform_updateComplexity_of_none hr, List.map_congr_left hother, List.map_id]

/-- Each record gets the metrics that are set last for its name. -/
theorem performAll_updates {ops : List StoreOperation}
    (h : ∀ op ∈ ops, ∃ name c, op = .updateComplexity name c) :
    performAll ops l = { l with functions := l.functions.map fun r => r.after ops } := by
  induction ops generalizing l with
  | nil => exact congrArg (Ledger.mk l.files · l.edges) (List.map_id _).symm
  | cons op ops ih =>
      obtain ⟨⟨name, c, rfl⟩, hops⟩ := List.forall_mem_cons.mp h
      rw [performAll, perform_updateComplexity, ih _ hops, List.map_map]
      congr 1
      refine List.map_congr_left fun r _ => ?_
      rw [Function.comp_apply, measure_eq_after, ← FunctionRecord.after_cons]

/-! ## Registrations -/

/-- A registration gives its name a record if it has none. -/
theorem function?_perform_registerFunction (r : FunctionRecord) (name : String) :
    ((StoreOperation.registerFunction r).perform l).2.function? name =
      (l.function? name).or (if r.name = name then some r else none) := by
  cases hs : l.function? r.name with
  | some s =>
      rw [perform_registerFunction_of_some hs]
      by_cases hname : r.name = name
      · rw [← hname, hs, Option.some_or]
      · rw [if_neg hname, Option.or_none]
  | none =>
      rw [perform_registerFunction_of_none hs, function?_append hs]
      by_cases hname : r.name = name
      · rw [← hname, hs, if_pos rfl, Option.none_or]
      · rw [if_neg hname, if_neg hname, Option.or_none]

/-- Of several records of a name without one the first is registered. -/
theorem function?_performAll_registerFunction (rs : List FunctionRecord) (name : String) :
    (performAll (rs.map .registerFunction) l).function? name =
      (l.function? name).or (rs.find? fun r => r.name = name) := by
  induction rs generalizing l with
  | nil => exact (Option.or_none).symm
  | cons r rs ih =>
      rw [List.map_cons, performAll, ih, function?_perform_registerFunction, Option.or_assoc,
        List.find?_cons]
      by_cases hname : r.name = name <;> simp [hname]

theorem performAll_registerFunction (rs : List FunctionRecord) :
    ∃ new, performAll (rs.map .registerFunction) l =
      { l with functions := l.functions ++ new } := by
  induction rs generalizing l with
  | nil => exact ⟨[], by rw [List.append_nil]; rfl⟩
  | cons r rs ih =>
      rw [List.map_cons, performAll]
      cases hs : l.function? r.name with
      | some s =>
          rw [perform_registerFunction_of_some hs]
          exact ih l
      | none =>
          rw [perform_registerFunction_of_none hs]
          obtain ⟨new, hnew⟩ := ih { l with functions := l.functions ++ [r] }
          exact ⟨r :: new, by rw [hnew, List.append_assoc]; rfl⟩

/-! ## Calls -/

theorem addsCalls_recordEdges (es : List Edge) :
    AddsCalls callees (fun l : Ledger => (l.files, l.functions)) es l (recordEdges es l) := by
  rw [recordEdges_eq]
  constructor
  · intro n
    rw [callees, List.filter_append, List.map_append]
    rfl
  · exact List.length_append
  · rfl

/-- Calls that are recorded already add no callees. -/
theorem children_recordEdges_of_subset {l : Ledger} {es : List Edge} (h : es ⊆ l.edges)
    (n : Node) : (recordEdges es l).children n = l.children n := by
  rw [children, (l.addsCalls_recordEdges es).callees_eq, children,
    firstOccurrences_append_of_subset]
  intro m hm
  obtain ⟨e, he, rfl⟩ := List.mem_map.mp hm
  obtain ⟨he, hcaller⟩ := List.mem_filter.mp he
  rw [← of_decide_eq_true hcaller]
  exact mem_callees.mpr (h he)

/-! ## The same again -/

/-- Calls that are recorded already do no harm. -/
theorem unharmed_recordEdges {l : Ledger} {es : List Edge} (h : es ⊆ l.edges) :
    Unharmed Ledger.file? l (recordEdges es l) es.length := by
  have hcount := (l.addsCalls_recordEdges es).edgeCount_eq
  have hchildren := children_recordEdges_of_subset h
  rw [recordEdges_eq] at hcount hchildren ⊢
  exact ⟨fun _ => rfl, fun _ => rfl, hchildren, hcount⟩

/-- What was registered is refused when it is registered again. -/
theorem performAll_registrations_again {ops again : List StoreOperation} (hsubset : again ⊆ ops)
    (h : ∀ op ∈ again, (∃ f, op = .registerFile f) ∨ ∃ r, op = .registerFunction r) :
    performAll again (performAll ops l) = performAll ops l := by
  refine performAll_of_refused fun op hop => ?_
  -- whoever was registered under the key, it is taken now
  rcases h op hop with ⟨f, rfl⟩ | ⟨r, rfl⟩
  · obtain ⟨g, hg⟩ := Option.isSome_iff_exists.mp (l.isSome_file?_performAll (hsubset hop))
    exact ⟨_, congrArg Prod.fst (perform_registerFile_of_some hg)⟩
  · obtain ⟨s, hs⟩ := Option.isSome_iff_exists.mp (l.isSome_function?_performAll (hsubset hop))
    exact ⟨_, congrArg Prod.fst (perform_registerFunction_of_some hs)⟩

section Updates

variable {ops : List StoreOperation} (h : ∀ op ∈ ops, ∃ name c, op = .updateComplexity name c)

include h

/-- Metrics that were set last are so after calls too. -/
theorem performAll_updates_again (es : List Edge) :
    performAll ops (recordEdges es (performAll ops l)) = recordEdges es (performAll ops l) := by
  rw [recordEdges_eq, l.performAll_updates h, performAll_updates _ h]
  simp only [List.map_map, Function.comp_def, FunctionRecord.after_after]

/-- Metrics do not change what names stand for. -/
theorem resolveNode_performAll_updates : resolveNode (performAll ops l) = resolveNode l := by
  funext name
  have hfind : (performAll ops l).function? name =
      (l.function? name).map fun r => r.after ops := by
    rw [l.performAll_updates h, function?, List.find?_map]
    rfl
  show ((performAll ops l).function? name).map FunctionRecord.node = _
  rw [hfind, Option.map_map]
  rfl

end Updates

/-- Registrations, calls and metrics again: of the first nothing is registered, the calls are all
there already, and the metrics are what they are. -/
theorem performAll_again {registrations updates : List StoreOperation} (es : List Edge)
    (hregistrations : ∀ op ∈ registrations,
      (∃ f, op = .registerFile f) ∨ ∃ r, op = .registerFunction r)
    (hupdates : ∀ op ∈ updates, ∃ name c, op = .updateComplexity name c) :
    let mid := performAll registrations l
    let once := performAll updates (recordEdges es mid)
    performAll registrations once = once ∧ resolveNode once = resolveNode mid ∧ es ⊆ once.edges ∧
      performAll updates (recordEdges es once) = recordEdges es once := by
  intro mid once
  have honce : once = performAll (registrations ++ (es.map .recordEdge ++ updates)) l := by
    rw [performAll_append, performAll_append, performAll_recordEdge]
  refine ⟨?_, ?_, ?_, performAll_updates_again _ hupdates es⟩
  · rw [honce]
    exact l.performAll_registrations_again (List.subset_append_left _ _) hregistrations
  · have hsame : resolveNode (recordEdges es mid) = resolveNode mid := by
      rw [recordEdges_eq]
      rfl
    exact (resolveNode_performAll_updates _ hupdates).trans hsame
  · intro e he
    rw [honce, edges_performAll]
    refine List.mem_append_right _ (mem_recordedCalls.mpr ?_)
    exact List.mem_append_right _ (List.mem_append_left _ (List.mem_map_of_mem he))

end Ledger

/-- Operations that all record calls are the recording of their calls. -/
theorem map_recordedCalls {ops : List StoreOperation}
    (h : ∀ op ∈ ops, ∃ e, op = .recordEdge e) : (recordedCalls ops).map .recordEdge = ops := by
  induction ops with
  | nil => rfl
  | cons op ops ih =>
      obtain ⟨⟨e, rfl⟩, hops⟩ := List.forall_mem_cons.mp h
      exact congrArg (StoreOperation.recordEdge e :: ·) (ih hops)

/-! ## The archive -/

namespace Archive

variable (a : Archive)

/-- Registered functions touch neither files nor edges. -/
theorem performAll_registerFunction (rs : List FunctionRecord) :
    ∃ m, performAll (rs.map .registerFunction) a = { a with functions := m } := by
  induction rs generalizing a with
  | nil => exact ⟨a.functions, rfl⟩
  | cons r rs ih =>
      obtain ⟨m, hm⟩ : ∃ m, ((StoreOperation.registerFunction r).perform a).2 =
          { a with functions := m } := by
        show ∃ m, (StoreAnswer.settle a (a.registerFunction r)).2 = { a with functions := m }
        unfold Archive.registerFunction
        cases insertNew r.name (Encode.function r) a.functions with
        | ok m => exact ⟨m, rfl⟩
        | error e => exact ⟨a.functions, rfl⟩
      rw [List.map_cons, performAll, hm]
      exact ih { a with functions := m }

/-- An archive that has room for records finds the first of a name, as the ledger does. -/
theorem function?_performAll_registerFunction {ops : List StoreOperation}
    {rs : List FunctionRecord} (hfits : Fits (ops ++ rs.map .registerFunction)) (name : String) :
    (performAll (rs.map .registerFunction) (performAll ops empty)).function? name =
      ((performAll ops empty).function? name).or (rs.find? fun r => r.name = name) := by
  have hafter := hfits.mirrors.function?_eq name
  rw [performAll_append, performAll_append, Ledger.function?_performAll_registerFunction,
    ← hfits.of_append.mirrors.function?_eq name] at hafter
  exact hafter

/-- Recorded edges touch neither files nor functions. -/
theorem recordEdges_eq (es : List Edge) :
    ∃ m n, recordEdges es a = { a with edges := m, nextId := n } := by
  induction es generalizing a with
  | nil => exact ⟨a.edges, a.nextId, rfl⟩
  | cons e es ih => exact ih (a.recordEdge e)

/-- An archive that has room for calls adds them as the ledger does. -/
theorem addsCalls_recordEdges {ops : List StoreOperation} {es : List Edge}
    (hfits : Fits (ops ++ es.map .recordEdge)) :
    AddsCalls callees (fun a : Archive => (a.files, a.functions)) es (performAll ops empty)
      (recordEdges es (performAll ops empty)) := by
  have hbefore := hfits.of_append
  have hafter := hfits.mirrors
  have hroom := hfits.nextId_lt
  rw [performAll_append, performAll_append, performAll_recordEdge, performAll_recordEdge]
    at hafter
  rw [performAll_append, performAll_recordEdge] at hroom
  have hledger := Ledger.addsCalls_recordEdges (performAll ops .empty) es
  constructor
  · intro n
    rw [hafter.callees_eq (Nat.le_of_lt hroom),
      hbefore.mirrors.callees_eq (Nat.le_of_lt hbefore.nextId_lt), hledger.callees_eq]
  · exact hafter.edgeCount_eq.trans (hledger.edgeCount_eq.trans
      (congrArg (· + es.length) hbefore.mirrors.edgeCount_eq.symm))
  · obtain ⟨m, n, heq⟩ := (performAll ops empty).recordEdges_eq es
    rw [heq]

end Archive

end CallForest
