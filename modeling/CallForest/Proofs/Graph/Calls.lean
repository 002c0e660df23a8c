import CallForest.Proofs.Graph.Cabinet
import CallForest.Proofs.Graph.Mirror
import CallForest.Tree.Walk

/-!
# What a store knows of calls

A store answers with the callees that were recorded for a node, each once, where it was recorded
first, and counts every recorded call. So to record a call again changes the count alone, and calls
from different nodes may be recorded in either order: whatever is done to the store afterwards, no
answer tells which was first.

`KeepsCalls` says the one and `CallsCommute` the other of a history of operations, for the ledger
and the cabinet, and for the archive as far as the history fits into it (`keepsCalls`). That no
answer tells two ledgers apart is the relation `Alike`, which every operation keeps
(`Alike.perform`).
-/

namespace CallForest

/-- The call that an operation records. -/
def StoreOperation.call? : StoreOperation → Option Edge
  | .recordEdge e => some e
  | _ => none

/-- The calls that operations record, in order. -/
def recordedCalls (ops : List StoreOperation) : List Edge :=
  ops.filterMap StoreOperation.call?

/-- The callees that operations record for a node, in order, repeated ones included. -/
def recordedCallees (n : Node) (ops : List StoreOperation) : List Node :=
  ((recordedCalls ops).filter fun e => e.caller = n).map Edge.callee

theorem mem_recordedCalls {e : Edge} {ops : List StoreOperation} :
    e ∈ recordedCalls ops ↔ .recordEdge e ∈ ops := by
  rw [recordedCalls, List.mem_filterMap]
  constructor
  · rintro ⟨op, hop, hcall⟩
    cases op <;> cases hcall
    exact hop
  · exact fun he => ⟨_, he, rfl⟩

/-- What operations on an empty store leave of calls. -/
structure KeepsCalls (σ : Type) [GraphStore σ] (ops : List StoreOperation) : Prop where
  /-- Of the recorded callees the first of each is kept. -/
  children_eq : ∀ n, GraphStore.children n (performAll ops (GraphStore.empty : σ)) =
    (recordedCallees n ops).eraseDups
  children_nodup : ∀ n, (GraphStore.children n (performAll ops (GraphStore.empty : σ))).Nodup
  mem_children_iff : ∀ m n, m ∈ GraphStore.children n (performAll ops (GraphStore.empty : σ)) ↔
    .recordEdge ⟨n, m⟩ ∈ ops
  /-- What is recorded first comes first. -/
  children_ordered : ∀ n,
    (GraphStore.children n (performAll ops (GraphStore.empty : σ))).Pairwise fun x y =>
      (recordedCallees n ops).idxOf x < (recordedCallees n ops).idxOf y
  edgeCount_eq : GraphStore.edgeCount (performAll ops (GraphStore.empty : σ)) =
    (recordedCalls ops).length
  /-- A call that is recorded again is counted, and shows nowhere else. -/
  repeated : ∀ e, .recordEdge e ∈ ops →
    let store := performAll ops (GraphStore.empty : σ)
    (∀ n, GraphStore.children n (GraphStore.recordEdge e store) = GraphStore.children n store) ∧
      (∀ origin, walk (GraphStore.recordEdge e store) origin = walk store origin) ∧
        GraphStore.edgeCount (GraphStore.recordEdge e store) = GraphStore.edgeCount store + 1

/-- Two calls after a history on an empty store may be recorded in either order: what is done later
gets the same answers, and the walks after it are the same. -/
def CallsCommute (σ : Type) [GraphStore σ] (ops : List StoreOperation) (e f : Edge)
    (later : List StoreOperation) : Prop :=
  let one := performAll (ops ++ [StoreOperation.recordEdge e, .recordEdge f]) (GraphStore.empty : σ)
  let other :=
    performAll (ops ++ [StoreOperation.recordEdge f, .recordEdge e]) (GraphStore.empty : σ)
  answers later one = answers later other ∧
    ∀ origin, walk (performAll later one) origin = walk (performAll later other) origin

/-! ## First occurrences -/

theorem firstOccurrences_eq_eraseDups (seen ns : List Node) :
    firstOccurrences seen ns = (ns.filter (· ∉ seen)).eraseDups := by
  induction ns generalizing seen with
  | nil => rfl
  | cons n ns ih =>
      rw [firstOccurrences]
      by_cases hn : n ∈ seen
      · rw [if_pos hn, List.filter_cons_of_neg (by simpa using hn), ih]
      · rw [if_neg hn, List.filter_cons_of_pos (by simpa using hn), List.eraseDups_cons, ih,
          List.filter_filter]
        congr 2
        refine List.filter_congr fun m _ => ?_
        by_cases hm : m = n <;> simp [hm]

theorem mem_firstOccurrences {n : Node} {ns : List Node} :
    n ∈ firstOccurrences [] ns ↔ n ∈ ns := by
  rw [firstOccurrences_eq_eraseDups, List.mem_eraseDups, List.mem_filter]
  simp

theorem not_mem_of_mem_firstOccurrences {n : Node} {seen ns : List Node}
    (h : n ∈ firstOccurrences seen ns) : n ∉ seen := by
  rw [firstOccurrences_eq_eraseDups, List.mem_eraseDups, List.mem_filter] at h
  simpa using h.2

theorem nodup_firstOccurrences (seen ns : List Node) : (firstOccurrences seen ns).Nodup := by
  induction ns generalizing seen with
  | nil => exact List.nodup_nil
  | cons n ns ih =>
      rw [firstOccurrences]
      split
      · exact ih seen
      · refine List.nodup_cons.mpr ⟨fun hn => ?_, ih _⟩
        exact not_mem_of_mem_firstOccurrences hn List.mem_cons_self

/-- Occurrences are kept in the order of the first ones. -/
theorem pairwise_firstOccurrences (seen ns : List Node) :
    (firstOccurrences seen ns).Pairwise fun x y => ns.idxOf x < ns.idxOf y := by
  induction ns generalizing seen with
  | nil => exact List.Pairwise.nil
  | cons n ns ih =>
      -- behind a node that is kept or seen already, every position is one further on
      have hshift : ∀ {seen'}, n ∈ seen' →
          (firstOccurrences seen' ns).Pairwise fun x y =>
            (n :: ns).idxOf x < (n :: ns).idxOf y := by
        intro seen' hseen
        refine (ih seen').imp_of_mem fun {x y} hx hy hlt => ?_
        have hne : ∀ {z}, z ∈ firstOccurrences seen' ns → n ≠ z := by
          rintro z hz rfl
          exact not_mem_of_mem_firstOccurrences hz hseen
        rw [List.idxOf_cons_ne _ (hne hx), List.idxOf_cons_ne _ (hne hy)]
        exact Nat.succ_lt_succ hlt
      rw [firstOccurrences]
      split
      · exact hshift ‹_›
      · refine List.pairwise_cons.mpr ⟨fun y hy => ?_, hshift List.mem_cons_self⟩
        have hne : n ≠ y := by
          rintro rfl
          exact not_mem_of_mem_firstOccurrences hy List.mem_cons_self
        rw [List.idxOf_cons_self, List.idxOf_cons_ne _ hne]
        exact Nat.succ_pos _

/-- What occurs already adds nothing. -/
theorem firstOccurrences_append_of_subset {ms ns : List Node} (h : ms ⊆ ns) :
    firstOccurrences [] (ns ++ ms) = firstOccurrences [] ns := by
  have hnone : ms.removeAll ns = [] := by
    rw [List.removeAll, List.filter_eq_nil_iff]
    intro m hm
    simpa using h hm
  simp only [firstOccurrences_eq_eraseDups, List.not_mem_nil, not_false_eq_true, decide_true,
    List.filter_true, List.eraseDups_append, hnone, List.eraseDups_nil, List.append_nil]

/-! ## The ledger -/

/-- A walk asks for nothing but callees. -/
theorem walk_congr {σ τ : Type} [GraphStore σ] [GraphStore τ] {s : σ} {t : τ}
    (h : ∀ n, GraphStore.children n s = GraphStore.children n t) (origin : Origin) :
    walk s origin = walk t origin := by
  unfold walk
  rw [show (fun n => GraphStore.children n s) = fun n => GraphStore.children n t from funext h]

namespace Ledger

theorem edges_perform (l : Ledger) (op : StoreOperation) :
    (op.perform l).2.edges = l.edges ++ op.call?.toList := by
  have hsame : l.edges = l.edges ++ (none : Option Edge).toList := (List.append_nil _).symm
  cases op with
  | registerFile f =>
      cases hf : l.file? f.fullPath with
      | some g => rwa [perform_registerFile_of_some hf]
      | none => rwa [perform_registerFile_of_none hf]
  | registerFunction r =>
      cases hr : l.function? r.name with
      | some s => rwa [perform_registerFunction_of_some hr]
      | none => rwa [perform_registerFunction_of_none hr]
  | updateComplexity name c =>
      cases hr : l.function? name with
      | some s => rwa [perform_updateComplexity_of_some hr]
      | none => rwa [perform_updateComplexity_of_none hr]
  | recordEdge e => rfl
  | lookup _ | children _ | edgeCount => exact hsame

theorem edges_performAll (l : Ledger) (ops : List StoreOperation) :
    (performAll ops l).edges = l.edges ++ recordedCalls ops := by
  induction ops generalizing l with
  | nil => exact (List.append_nil _).symm
  | cons op ops ih =>
      rw [performAll, ih, edges_perform, List.append_assoc, recordedCalls, recordedCalls,
        List.filterMap_cons]
      cases op.call? <;> rfl

theorem callees_performAll (n : Node) (ops : List StoreOperation) :
    (performAll ops empty).callees n = recordedCallees n ops := by
  rw [callees, edges_performAll]
  rfl

theorem mem_callees {l : Ledger} {m n : Node} : m ∈ l.callees n ↔ ⟨n, m⟩ ∈ l.edges := by
  unfold callees
  constructor
  · intro h
    obtain ⟨e, he, rfl⟩ := List.mem_map.mp h
    obtain ⟨he, hcaller⟩ := List.mem_filter.mp he
    rw [← of_decide_eq_true hcaller]
    exact he
  · intro h
    exact List.mem_map.mpr ⟨_, List.mem_filter.mpr ⟨h, decide_eq_true rfl⟩, rfl⟩

/-- A call that the ledger holds already adds no callee. -/
theorem children_recordEdge_of_mem {l : Ledger} {e : Edge} (h : e ∈ l.edges) (n : Node) :
    (l.recordEdge e).children n = l.children n := by
  rw [children, callees_recordEdge, children]
  by_cases hn : e.caller = n
  · subst hn
    rw [if_pos rfl, firstOccurrences_append_of_subset]
    exact List.cons_subset.mpr ⟨mem_callees.mpr h, List.nil_subset _⟩
  · rw [if_neg hn, List.append_nil]

/-- Every history of a ledger keeps calls. -/
theorem callsKept (ops : List StoreOperation) : KeepsCalls Ledger ops := by
  have hedges : (performAll ops empty).edges = recordedCalls ops := by
    rw [edges_performAll]
    rfl
  have hchildren : ∀ n, GraphStore.children n (performAll ops empty) =
      firstOccurrences [] (recordedCallees n ops) :=
    fun n => congrArg (firstOccurrences []) (callees_performAll n ops)
  have hmem : ∀ e, e ∈ (performAll ops empty).edges ↔ .recordEdge e ∈ ops := fun e =>
    hedges ▸ mem_recordedCalls
  constructor
  · intro n
    refine (hchildren n).trans ((firstOccurrences_eq_eraseDups _ _).trans ?_)
    simp
  · intro n
    exact (hchildren n).symm ▸ nodup_firstOccurrences [] _
  · intro m n
    rw [← hmem, ← mem_callees, callees_performAll]
    exact (iff_of_eq (congrArg (m ∈ ·) (hchildren n))).trans mem_firstOccurrences
  · intro n
    exact (hchildren n).symm ▸ pairwise_firstOccurrences [] _
  · exact congrArg List.length hedges
  · intro e he
    have hsame := children_recordEdge_of_mem ((hmem e).mpr he)
    exact ⟨hsame, walk_congr hsame, List.length_append⟩

/-- Two ledgers that no answer tells apart. -/
structure Alike (l k : Ledger) : Prop where
  files : l.files = k.files
  functions : l.functions = k.functions
  callees : ∀ n, l.callees n = k.callees n
  length : l.edges.length = k.edges.length

namespace Alike

variable {l k : Ledger}

theorem file?_eq (h : Alike l k) (path : String) : l.file? path = k.file? path := by
  rw [file?, h.files, file?]

theorem function?_eq (h : Alike l k) (name : String) : l.function? name = k.function? name := by
  rw [function?, h.functions, function?]

theorem children_eq (h : Alike l k) (n : Node) : l.children n = k.children n := by
  rw [children, h.callees, children]

theorem recordEdge (h : Alike l k) (e : Edge) : Alike (l.recordEdge e) (k.recordEdge e) where
  files := h.files
  functions := h.functions
  callees n := by rw [callees_recordEdge, callees_recordEdge, h.callees]
  length := by
    show (l.edges ++ [e]).length = (k.edges ++ [e]).length
    rw [List.length_append, List.length_append, h.length]

/-- An operation gets the same answer from both and leaves them alike. -/
theorem perform (h : Alike l k) (op : StoreOperation) :
    (op.perform l).1 = (op.perform k).1 ∧ Alike (op.perform l).2 (op.perform k).2 := by
  cases op with
  | registerFile f =>
      have hsame := h.file?_eq f.fullPath
      cases hf : k.file? f.fullPath with
      | some g =>
          rw [perform_registerFile_of_some hf, perform_registerFile_of_some (hsame.trans hf)]
          exact ⟨rfl, h⟩
      | none =>
          rw [perform_registerFile_of_none hf, perform_registerFile_of_none (hsame.trans hf)]
          exact ⟨rfl, congrArg (· ++ [f]) h.files, h.functions, h.callees, h.length⟩
  | registerFunction r =>
      have hsame := h.function?_eq r.name
      cases hr : k.function? r.name with
      | some s =>
          rw [perform_registerFunction_of_some hr,
            perform_registerFunction_of_some (hsame.trans hr)]
          exact ⟨rfl, h⟩
      | none =>
          rw [perform_registerFunction_of_none hr,
            perform_registerFunction_of_none (hsame.trans hr)]
          exact ⟨rfl, h.files, congrArg (· ++ [r]) h.functions, h.callees, h.length⟩
  | updateComplexity name c =>
      have hsame := h.function?_eq name
      cases hr : k.function? name with
      | some s =>
          rw [perform_updateComplexity_of_some hr,
            perform_updateComplexity_of_some (hsame.trans hr)]
          exact ⟨rfl, h.files, congrArg (List.map (measure name c)) h.functions, h.callees,
            h.length⟩
      | none =>
          rw [perform_updateComplexity_of_none hr,
            perform_updateComplexity_of_none (hsame.trans hr)]
          exact ⟨rfl, h⟩
  | recordEdge e => exact ⟨rfl, h.recordEdge e⟩
  | lookup name => exact ⟨congrArg StoreAnswer.record (h.function?_eq name), h⟩
  | children n => exact ⟨congrArg StoreAnswer.nodes (h.children_eq n), h⟩
  | edgeCount => exact ⟨congrArg StoreAnswer.count h.length, h⟩

theorem answers_eq (h : Alike l k) (ops : List StoreOperation) :
    answers ops l = answers ops k := by
  induction ops generalizing l k with
  | nil => rfl
  | cons op ops ih =>
      obtain ⟨hanswer, halike⟩ := h.perform op
      rw [answers, answers, hanswer, ih halike]

theorem performAll (h : Alike l k) (ops : List StoreOperation) :
    Alike (CallForest.performAll ops l) (CallForest.performAll ops k) := by
  induction ops generalizing l k with
  | nil => exact h
  | cons op ops ih => exact ih (h.perform op).2

end Alike

/-- Calls from different nodes give like ledgers in either order. -/
theorem alike_recordEdge_comm (l : Ledger) {e f : Edge} (h : e.caller ≠ f.caller) :
    Alike ((l.recordEdge e).recordEdge f) ((l.recordEdge f).recordEdge e) where
  files := rfl
  functions := rfl
  callees n := by
    simp only [callees_recordEdge]
    by_cases he : e.caller = n
    · have hf : f.caller ≠ n := fun hf => h (he.trans hf.symm)
      rw [if_neg hf, List.append_nil, List.append_nil]
    · rw [if_neg he, List.append_nil, List.append_nil]
  length := by simp [recordEdge]

theorem callsCommute (ops : List StoreOperation) {e f : Edge} (h : e.caller ≠ f.caller)
    (later : List StoreOperation) : CallsCommute Ledger ops e f later := by
  have halike :
      Alike (CallForest.performAll (ops ++ [StoreOperation.recordEdge e, .recordEdge f]) empty)
        (CallForest.performAll (ops ++ [StoreOperation.recordEdge f, .recordEdge e]) empty) := by
    rw [performAll_append, performAll_append]
    exact alike_recordEdge_comm _ h
  exact ⟨halike.answers_eq later, walk_congr (halike.performAll later).children_eq⟩

end Ledger

/-! ## Stores that answer as the ledger does -/

section Others

variable {σ : Type} [GraphStore σ] {ops : List StoreOperation}

/-- Calls are kept where callees and counts are those of the ledger, also when one of the recorded
calls is recorded again. -/
theorem KeepsCalls.of_ledger
    (hchildren : ∀ n, GraphStore.children n (performAll ops (GraphStore.empty : σ)) =
      GraphStore.children n (performAll ops Ledger.empty))
    (hcount : GraphStore.edgeCount (performAll ops (GraphStore.empty : σ)) =
      GraphStore.edgeCount (performAll ops Ledger.empty))
    (hagain : ∀ e, .recordEdge e ∈ ops →
      (∀ n, GraphStore.children n
          (GraphStore.recordEdge e (performAll ops (GraphStore.empty : σ))) =
        GraphStore.children n (GraphStore.recordEdge e (performAll ops Ledger.empty))) ∧
      GraphStore.edgeCount (GraphStore.recordEdge e (performAll ops (GraphStore.empty : σ))) =
        GraphStore.edgeCount (GraphStore.recordEdge e (performAll ops Ledger.empty))) :
    KeepsCalls σ ops := by
  have hledger := Ledger.callsKept ops
  constructor
  · exact fun n => (hchildren n).trans (hledger.children_eq n)
  · exact fun n => (congrArg List.Nodup (hchildren n)).mpr (hledger.children_nodup n)
  · intro m n
    exact (iff_of_eq (congrArg (m ∈ ·) (hchildren n))).trans (hledger.mem_children_iff m n)
  · exact fun n => (congrArg (List.Pairwise _) (hchildren n)).mpr (hledger.children_ordered n)
  · exact hcount.trans hledger.edgeCount_eq
  · intro e he
    obtain ⟨hsame, -, hmore⟩ := hledger.repeated e he
    obtain ⟨hafter, hcounted⟩ := hagain e he
    have hkept : ∀ n, GraphStore.children n
        (GraphStore.recordEdge e (performAll ops (GraphStore.empty : σ))) =
          GraphStore.children n (performAll ops (GraphStore.empty : σ)) := fun n =>
      (hafter n).trans ((hsame n).trans (hchildren n).symm)
    exact ⟨hkept, walk_congr hkept,
      hcounted.trans (hmore.trans (congrArg (· + 1) hcount.symm))⟩

/-- Calls commute where the answers and the walks behind both orders are those of the ledger. -/
theorem CallsCommute.of_ledger {e f : Edge} (h : e.caller ≠ f.caller)
    {later : List StoreOperation}
    (hsame : ∀ calls, calls = [StoreOperation.recordEdge e, .recordEdge f] ∨
        calls = [StoreOperation.recordEdge f, .recordEdge e] →
      answers later (performAll (ops ++ calls) (GraphStore.empty : σ)) =
          answers later (performAll (ops ++ calls) Ledger.empty) ∧
        ∀ origin,
          walk (performAll later (performAll (ops ++ calls) (GraphStore.empty : σ))) origin =
            walk (performAll later (performAll (ops ++ calls) Ledger.empty)) origin) :
    CallsCommute σ ops e f later := by
  obtain ⟨hanswers, hwalk⟩ := Ledger.callsCommute ops h later
  obtain ⟨hone, hwalkOne⟩ := hsame _ (.inl rfl)
  obtain ⟨hother, hwalkOther⟩ := hsame _ (.inr rfl)
  exact ⟨hone.trans (hanswers.trans hother.symm), fun origin =>
    (hwalkOne origin).trans ((hwalk origin).trans (hwalkOther origin).symm)⟩

end Others

/-! ## The cabinet -/

namespace Cabinet

/-- Every history of a cabinet keeps calls. -/
theorem callsKept (ops : List StoreOperation) : KeepsCalls Cabinet ops := by
  have hholds := Holds.empty.performAll ops
  exact .of_ledger hholds.children_eq hholds.edgeTotal_eq fun e _ =>
    ⟨(hholds.recordEdge e).children_eq, (hholds.recordEdge e).edgeTotal_eq⟩

theorem callsCommute (ops : List StoreOperation) {e f : Edge} (h : e.caller ≠ f.caller)
    (later : List StoreOperation) : CallsCommute Cabinet ops e f later :=
  .of_ledger h fun calls _ =>
    have hholds := Holds.empty.performAll (ops ++ calls)
    ⟨hholds.answers_eq later, walk_congr (hholds.performAll later).children_eq⟩

end Cabinet

/-! ## The archive -/

/-- An archive answers with the callees of the ledger that it mirrors, whatever the node is. -/
theorem Mirrors.children_eq_ledger {a : Archive} {l : Ledger} (h : Mirrors a l)
    (hroom : a.nextId ≤ UInt64.size) (n : Node) :
    GraphStore.children n a = GraphStore.children n l :=
  congrArg (firstOccurrences []) (h.callees_eq hroom n)

namespace Archive

variable {ops : List StoreOperation}

theorem callsKept (hfits : Fits ops) : KeepsCalls Archive ops := by
  have hmirrors := hfits.mirrors
  have hroom := hfits.nextId_lt
  refine .of_ledger (hmirrors.children_eq_ledger (Nat.le_of_lt hroom)) hmirrors.edgeCount_eq
    fun e he => ?_
  have hafter := hmirrors.recordEdge hroom (hfits.sized _ he)
  exact ⟨hafter.children_eq_ledger hroom, hafter.edgeCount_eq⟩

/-- What fits in one order fits in another. -/
theorem Fits.perm {later : List StoreOperation} (h : Fits ops) (hperm : ops.Perm later) :
    Fits later where
  sized op hop := h.sized op (hperm.mem_iff.mpr hop)
  length_lt := hperm.length_eq ▸ h.length_lt

/-- The answers after a history that fits are the ledger's, and the walks too. -/
theorem Fits.answers_eq {later : List StoreOperation} (h : Fits (ops ++ later)) :
    answers later (performAll ops empty) = answers later (performAll ops Ledger.empty) ∧
      ∀ origin, walk (performAll later (performAll ops empty)) origin =
        walk (performAll later (performAll ops Ledger.empty)) origin := by
  have hroom : (performAll later (performAll ops empty)).nextId < UInt64.size := by
    rw [← performAll_append]
    exact h.nextId_lt
  have hsized : ∀ op ∈ later, op.Sized := fun op hop => h.sized op (List.mem_append_right _ hop)
  have hmirrors := h.of_append.mirrors
  exact ⟨hmirrors.answers_eq hsized hroom,
    walk_congr ((hmirrors.performAll hsized hroom).children_eq_ledger (Nat.le_of_lt hroom))⟩

theorem callsCommute {e f : Edge} (h : e.caller ≠ f.caller) {later : List StoreOperation}
    (hfits : Fits (ops ++ StoreOperation.recordEdge e :: .recordEdge f :: later)) :
    CallsCommute Archive ops e f later := by
  have hsplit : ∀ x y : Edge, ops ++ StoreOperation.recordEdge x :: .recordEdge y :: later =
      (ops ++ [StoreOperation.recordEdge x, .recordEdge y]) ++ later := by simp
  have hother := hfits.perm ((List.Perm.swap (.recordEdge f) (.recordEdge e) later).append_left ops)
  rw [hsplit] at hfits hother
  refine .of_ledger h fun calls hcalls => ?_
  rcases hcalls with rfl | rfl
  · exact hfits.answers_eq
  · exact hother.answers_eq

end Archive

/-- **All stores keep calls**, and calls from different nodes commute in them: in the ledger and in
the cabinet through every history, and in the archive through every history that fits into it. -/
theorem keepsCalls (ops : List StoreOperation) :
    (KeepsCalls Ledger ops ∧ KeepsCalls Cabinet ops ∧
        (Archive.Fits ops → KeepsCalls Archive ops)) ∧
      ∀ e f later, e.caller ≠ f.caller →
        CallsCommute Ledger ops e f later ∧ CallsCommute Cabinet ops e f later ∧
          (Archive.Fits (ops ++ StoreOperation.recordEdge e :: .recordEdge f :: later) →
            CallsCommute Archive ops e f later) :=
  ⟨⟨Ledger.callsKept ops, Cabinet.callsKept ops, Archive.callsKept⟩, fun _ _ later h =>
    ⟨Ledger.callsCommute ops h later, Cabinet.callsCommute ops h later, Archive.callsCommute h⟩⟩

/-- A history in which a call is recorded twice with another one between. -/
def callHistory : List StoreOperation :=
  [.recordEdge ⟨⟨"a.c", "main"⟩, ⟨"a.c", "run"⟩⟩, .recordEdge ⟨⟨"a.c", "main"⟩, .unresolved "exit"⟩,
    .edgeCount, .recordEdge ⟨⟨"a.c", "main"⟩, ⟨"a.c", "run"⟩⟩]

/-- A call from a node that calls nothing in the history. -/
def runExit : Edge := ⟨⟨"a.c", "run"⟩, .unresolved "exit"⟩

/-- The call that the history records twice. -/
def mainRun : Edge := ⟨⟨"a.c", "main"⟩, ⟨"a.c", "run"⟩⟩

theorem children_callHistory :
    let later := [StoreOperation.edgeCount, .recordEdge mainRun, .children ⟨"a.c", "main"⟩]
    runExit.caller ≠ mainRun.caller ∧
      Archive.Fits
        (callHistory ++ StoreOperation.recordEdge runExit :: .recordEdge mainRun :: later) ∧
      GraphStore.children ⟨"a.c", "main"⟩ (performAll callHistory Archive.empty) =
        [⟨"a.c", "run"⟩, .unresolved "exit"] ∧
      GraphStore.edgeCount (performAll callHistory Archive.empty) = 3 ∧
      CallsCommute Archive callHistory runExit mainRun later := by
  have hne : runExit.caller ≠ mainRun.caller := by decide
  have hfits : Archive.Fits (callHistory ++ StoreOperation.recordEdge runExit ::
      .recordEdge mainRun :: [.edgeCount, .recordEdge mainRun, .children ⟨"a.c", "main"⟩]) := by
    decide +kernel
  obtain ⟨⟨-, -, hkeeps⟩, hcommute⟩ := keepsCalls callHistory
  have hcalls := hkeeps hfits.of_append
  have hchildren := (hcalls.children_eq ⟨"a.c", "main"⟩).trans
    (show _ = [⟨"a.c", "run"⟩, Node.unresolved "exit"] by decide)
  have hcount := hcalls.edgeCount_eq.trans (show _ = 3 by decide)
  have hswap := (hcommute runExit mainRun _ hne).2.2 hfits
  exact ⟨hne, hfits, hchildren, hcount, hswap⟩

end CallForest
