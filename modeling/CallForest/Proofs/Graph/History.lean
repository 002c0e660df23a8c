import CallForest.Proofs.Graph.Cabinet
import CallForest.Proofs.Graph.Mirror

/-!
# Histories of an archive

A history is a list of episodes: operations, reopenings of the archive from its image, and the
passing of edge numbers that no edge gets. Its answers are those of the stores in memory, the ledger
and the cabinet, that perform the operations alone (`replay_eq_answers`).

The image counts in eight bytes: the entries of each map, the bytes of each key and of each value,
and the number of the next edge. An archive that stays *within* fewer than `UInt64.size` is read
back from its image as it was (`ofImage?_image`). One that stays within a count before an operation
stays within the count and the writes of the operation behind it (`Within.perform`), so a history
that costs fewer than `UInt64.size` never leaves what the image can hold.
-/

namespace CallForest

/-! ## Images -/

/-- A map of at most `count` entries whose keys and values have lengths of 64 bits. -/
structure KeyMap.Within (count : Nat) (m : KeyMap) : Prop where
  length_le : m.length ≤ count
  sized : ∀ e ∈ m, e.1.length < UInt64.size ∧ e.2.length < UInt64.size

namespace KeyMap

theorem Within.nil : Within 0 [] :=
  ⟨Nat.le_refl 0, fun _ he => by cases he⟩

theorem Within.mono {i j : Nat} {m : KeyMap} (h : Within i m) (hij : i ≤ j) : Within j m :=
  ⟨Nat.le_trans h.length_le hij, h.sized⟩

/-- Setting a key adds at most one entry. -/
theorem Within.insert {count : Nat} {key value : Bytes} {m : KeyMap} (h : Within count m)
    (hkey : key.length < UInt64.size) (hvalue : value.length < UInt64.size) :
    Within (count + 1) (m.insert key value) := by
  refine ⟨Nat.le_trans (length_insert_le key value m) (Nat.succ_le_succ h.length_le), ?_⟩
  intro e he
  rcases mem_insert he with rfl | he
  · exact ⟨hkey, hvalue⟩
  · exact h.sized e he

end KeyMap

namespace Archive

/-- An archive of at most `count` entries in each map, and no edge number above `count`. -/
structure Within (count : Nat) (a : Archive) : Prop where
  files : a.files.Within count
  functions : a.functions.Within count
  edges : a.edges.Within count
  nextId_le : a.nextId ≤ count

theorem Within.empty : Within 0 empty :=
  ⟨.nil, .nil, .nil, Nat.le_refl 0⟩

theorem Within.mono {i j : Nat} {a : Archive} (h : a.Within i) (hij : i ≤ j) : a.Within j :=
  ⟨h.files.mono hij, h.functions.mono hij, h.edges.mono hij, Nat.le_trans h.nextId_le hij⟩

theorem readEntries_append {m : KeyMap} (rest : Bytes)
    (h : ∀ e ∈ m, e.1.length < UInt64.size ∧ e.2.length < UInt64.size) :
    readEntries m.length ((m.flatMap fun e => Encode.block e.1 ++ Encode.block e.2) ++ rest) =
      some (m, rest) := by
  induction m with
  | nil => rfl
  | cons e m ih =>
      obtain ⟨⟨hkey, hvalue⟩, hm⟩ := List.forall_mem_cons.mp h
      rw [List.length_cons, List.flatMap_cons, List.append_assoc, List.append_assoc, readEntries,
        Decode.block_append _ hkey]
      simp only [Option.bind_eq_bind, Option.bind_some]
      rw [Decode.block_append _ hvalue]
      simp only [Option.bind_some]
      rw [ih hm]
      rfl

theorem readMap_append {count : Nat} {m : KeyMap} (rest : Bytes) (h : m.Within count)
    (hcount : count < UInt64.size) : readMap (mapImage m ++ rest) = some (m, rest) := by
  have hlen : m.length < Nat.pow 256 8 := Nat.lt_of_le_of_lt h.length_le hcount
  rw [readMap, mapImage, List.append_assoc, Decode.littleEndian_append _ hlen]
  exact readEntries_append rest h.sized

/-- **An archive is read back from its image.** -/
theorem ofImage?_image {count : Nat} {a : Archive} (h : a.Within count)
    (hcount : count < UInt64.size) : ofImage? a.image = some a := by
  have hid : a.nextId < Nat.pow 256 8 := Nat.lt_of_le_of_lt h.nextId_le hcount
  have hlast := Decode.littleEndian_append [] hid
  rw [List.append_nil] at hlast
  rw [ofImage?, image, List.append_assoc, List.append_assoc, readMap_append _ h.files hcount]
  simp only [Option.bind_eq_bind, Option.bind_some]
  rw [readMap_append _ h.functions hcount]
  simp only [Option.bind_some]
  rw [readMap_append _ h.edges hcount]
  simp only [Option.bind_some]
  rw [hlast]
  rfl

end Archive

/-! ## Episodes -/

/-- What happens to an archive. -/
inductive Episode where
  | operation (op : StoreOperation)
  /-- The archive is closed, and read from its image. -/
  | reopening
  /-- So many edge numbers are given to no edge. -/
  | passing (numbers : Nat)
  deriving DecidableEq, Repr

namespace Episode

/-- The operation of an episode, if it is one. -/
def operation? : Episode → Option StoreOperation
  | operation op => some op
  | reopening | passing _ => none

/-- How many entries or edge numbers an episode may take. -/
def cost : Episode → Nat
  | operation op => op.writes
  | reopening => 0
  | passing numbers => numbers

end Episode

/-- Episodes, one after another. -/
abbrev History := List Episode

namespace History

/-- The operations of a history. -/
def operations (es : History) : List StoreOperation :=
  es.filterMap Episode.operation?

/-- How many entries and edge numbers a history may take. -/
def cost : History → Nat
  | [] => 0
  | e :: es => e.cost + cost es

theorem operations_map_operation (ops : List StoreOperation) :
    operations (ops.map .operation) = ops := by
  rw [operations, List.filterMap_map]
  exact List.filterMap_some

/-- The operations of a history cost no more than the history. -/
theorem cost_operations_le (es : History) :
    cost ((operations es).map .operation) ≤ cost es := by
  induction es with
  | nil => exact Nat.le_refl 0
  | cons e es ih =>
      cases e with
      | operation op => exact Nat.add_le_add_left ih _
      | reopening => exact Nat.le_trans ih (Nat.le_add_left _ 0)
      | passing numbers => exact Nat.le_trans ih (Nat.le_add_left _ numbers)

end History

theorem StoreOperation.writes_le_one (op : StoreOperation) : op.writes ≤ 1 := by
  cases op <;> simp [writes]

open History

namespace Archive

/-- The answers to the operations of a history, `none` if a reopening fails. -/
def replay : History → Archive → Option (List StoreAnswer)
  | [], _ => some []
  | .operation op :: es, a => (replay es (op.perform a).2).map ((op.perform a).1 :: ·)
  | .reopening :: es, a => (ofImage? a.image).bind fun b => replay es b
  | .passing numbers :: es, a => replay es { a with nextId := a.nextId + numbers }

theorem replay_operations (ops : List StoreOperation) (a : Archive) :
    replay (ops.map .operation) a = some (answers ops a) := by
  induction ops generalizing a with
  | nil => rfl
  | cons op ops ih => rw [List.map_cons, replay, ih, answers, Option.map_some]

/-! ## Room -/

theorem insertNew_within {count : Nat} {key : String} {value : Bytes} {m m' : KeyMap}
    (h : m.Within count) (hkey : (Utf8.encode key).length < UInt64.size)
    (hvalue : value.length < UInt64.size) (hm' : insertNew key value m = .ok m') :
    m'.Within (count + 1) := by
  unfold insertNew at hm'
  split at hm'
  · cases hm'
  · cases hm'
    exact h.insert hkey hvalue

theorem Within.updateFunctions {count : Nat} {a : Archive} {m : KeyMap} (h : a.Within count)
    (hm : m.Within (count + 1)) : ({ a with functions := m } : Archive).Within (count + 1) :=
  have hmono := h.mono (Nat.le_succ count)
  ⟨hmono.files, hm, hmono.edges, hmono.nextId_le⟩

theorem Within.recordEdge {count : Nat} {a : Archive} (h : a.Within count) {e : Edge}
    (he : e.caller.Sized ∧ e.callee.Sized) : (a.recordEdge e).Within (count + 1) := by
  have hmono := h.mono (Nat.le_succ count)
  have hkey : (edgeKey e.caller a.nextId).length < UInt64.size := by
    rw [edgeKey, List.length_append, Encode.length_bigEndian]
    exact he.1
  exact ⟨hmono.files, hmono.functions, h.edges.insert hkey he.2.length_lt,
    Nat.succ_le_succ h.nextId_le⟩

/-- An operation adds no more than it writes. -/
theorem Within.perform {count : Nat} {a : Archive} {l : Ledger} (h : a.Within count)
    (hmirrors : Mirrors a l) {op : StoreOperation} (hop : op.Sized) :
    (op.perform a).2.Within (count + op.writes) := by
  have hmono := h.mono (Nat.le_succ count)
  cases op with
  | registerFile f =>
      show (StoreAnswer.settle a (a.registerFile f)).2.Within (count + 1)
      unfold Archive.registerFile
      cases hm : insertNew f.fullPath (Encode.file f) a.files with
      | error e => exact hmono
      | ok m =>
          exact ⟨insertNew_within h.files hop.fullPath_lt hop hm, hmono.functions, hmono.edges,
            hmono.nextId_le⟩
  | registerFunction r =>
      show (StoreAnswer.settle a (a.registerFunction r)).2.Within (count + 1)
      unfold Archive.registerFunction
      cases hm : insertNew r.name (Encode.function r) a.functions with
      | error e => exact hmono
      | ok m => exact h.updateFunctions (insertNew_within h.functions hop.name_lt hop.length_lt hm)
  | recordEdge e => exact h.recordEdge hop
  | lookup name => exact h
  | children n => exact h
  | updateComplexity name c =>
      show (StoreAnswer.settle a (a.updateComplexity name c)).2.Within (count + 1)
      unfold Archive.updateComplexity
      cases hr : a.function? name with
      | none => exact hmono
      | some r =>
          rw [hmirrors.function?_eq name] at hr
          have hsized := hmirrors.sized r (Ledger.mem_of_function? hr)
          have hname : (Utf8.encode name).length < UInt64.size := by
            rw [← Ledger.name_of_function? hr]
            exact hsized.name_lt
          have hvalue : FunctionRecord.Sized { r with complexity := some c } := hsized
          exact h.updateFunctions (h.functions.insert hname hvalue.length_lt)
  | edgeCount => exact h

theorem Within.performAll {count : Nat} {a : Archive} {l : Ledger} (h : a.Within count)
    (hmirrors : Mirrors a l) {ops : List StoreOperation} (hsized : ∀ op ∈ ops, op.Sized)
    (hroom : count + ops.length < UInt64.size) :
    (CallForest.performAll ops a).Within (count + ops.length) := by
  induction ops generalizing a l count with
  | nil => exact h
  | cons op ops ih =>
      obtain ⟨hop, hops⟩ := List.forall_mem_cons.mp hsized
      rw [List.length_cons] at hroom
      have hnext : a.nextId < UInt64.size := Nat.lt_of_le_of_lt h.nextId_le (by omega)
      have hwithin : (op.perform a).2.Within (count + 1) :=
        (h.perform hmirrors hop).mono (Nat.add_le_add_left op.writes_le_one count)
      have hrest := ih hwithin (hmirrors.perform hop hnext).2 hops (by omega)
      rw [List.length_cons, Nat.add_comm ops.length, ← Nat.add_assoc]
      exact hrest

/-- What fits into an archive is in it when it has been read from its image. -/
theorem Fits.ofImage?_image {ops : List StoreOperation} (h : Fits ops) :
    ofImage? (CallForest.performAll ops empty).image = some (CallForest.performAll ops empty) := by
  have hroom : 0 + ops.length < UInt64.size := by
    rw [Nat.zero_add]
    exact h.length_lt
  exact Archive.ofImage?_image (Within.empty.performAll Mirrors.empty h.sized hroom) hroom

/-! ## A whole history -/

/-- A history of an archive that mirrors a ledger. -/
theorem replay_of_mirrors {a : Archive} {l : Ledger} {count : Nat} (es : History)
    (h : Mirrors a l) (hwithin : a.Within count) (hsized : ∀ op ∈ operations es, op.Sized)
    (hroom : count + cost es < UInt64.size) :
    replay es a = some (answers (operations es) l) := by
  induction es generalizing a l count with
  | nil => rfl
  | cons e es ih =>
      rw [cost] at hroom
      cases e with
      | operation op =>
          obtain ⟨hop, hops⟩ := List.forall_mem_cons.mp hsized
          have hnext : a.nextId < UInt64.size := by
            have hle := hwithin.nextId_le
            omega
          obtain ⟨hanswer, hmirrors⟩ := h.perform hop hnext
          have hrest := ih hmirrors (hwithin.perform h hop) hops (by rwa [Nat.add_assoc])
          rw [replay, hrest, hanswer]
          rfl
      | reopening =>
          have hcount : count < UInt64.size := by omega
          rw [replay, ofImage?_image hwithin hcount, Option.bind_some]
          exact ih h hwithin hsized (by simpa only [Episode.cost, Nat.zero_add] using hroom)
      | passing numbers =>
          have hmono := hwithin.mono (Nat.le_add_right count numbers)
          have hpass : ({ a with nextId := a.nextId + numbers } : Archive).Within
              (count + numbers) :=
            ⟨hmono.files, hmono.functions, hmono.edges,
              Nat.add_le_add_right hwithin.nextId_le numbers⟩
          exact ih (h.pass numbers) hpass hsized (by rwa [Nat.add_assoc])

/-- **All stores answer alike**: the archive, wherever it is reopened on the way, the ledger and the
cabinet. -/
theorem replay_eq_answers (es : History) (hsized : ∀ op ∈ operations es, op.Sized)
    (hroom : cost es < UInt64.size) :
    replay es .empty = some (answers (operations es) Archive.empty) ∧
      answers (operations es) Archive.empty = answers (operations es) Ledger.empty ∧
        answers (operations es) Cabinet.empty = answers (operations es) Ledger.empty := by
  have hle : 0 + cost ((operations es).map .operation) < UInt64.size := by
    have h := cost_operations_le es
    omega
  have hstraight := replay_of_mirrors ((operations es).map .operation) Mirrors.empty
    Within.empty (by rwa [operations_map_operation]) hle
  rw [replay_operations, operations_map_operation] at hstraight
  have hanswers := Option.some.inj hstraight
  have hreplay := replay_of_mirrors es Mirrors.empty Within.empty hsized (by rwa [Nat.zero_add])
  exact ⟨by rw [hreplay, hanswers], hanswers, Cabinet.Holds.empty.answers_eq _⟩

/-- A history with a repeated edge, a refused registration, two reopenings and passed numbers. -/
def sampleHistory : History :=
  [.operation (.registerFile ⟨"/src/app.c", "app.c", 12, "app.c"⟩),
    .operation (.registerFunction ⟨"/src/app.c", "app.c", "main", 3, "int main()", none⟩),
    .operation (.recordEdge ⟨⟨"app.c", "main"⟩, ⟨"unknown", "printf"⟩⟩),
    .operation (.registerFunction ⟨"/src/lib.c", "lib.c", "main", 9, "void main()", none⟩),
    .reopening,
    .passing 7,
    .operation (.recordEdge ⟨⟨"app.c", "main"⟩, ⟨"unknown", "exit"⟩⟩),
    .operation (.recordEdge ⟨⟨"app.c", "main"⟩, ⟨"unknown", "printf"⟩⟩),
    .operation (.updateComplexity "main" ⟨2, 5⟩),
    .operation (.updateComplexity "exit" ⟨1, 1⟩),
    .reopening,
    .operation (.lookup "main"),
    .operation (.children ⟨"app.c", "main"⟩),
    .operation .edgeCount]

/-- The answers to the operations of `sampleHistory`. -/
def sampleAnswers : List StoreAnswer :=
  [.done, .done, .done, .refused (.conflict "main"), .done, .done, .done,
    .refused (.notFound "exit"),
    .record (some ⟨"/src/app.c", "app.c", "main", 3, "int main()", some ⟨2, 5⟩⟩),
    .nodes [⟨"unknown", "printf"⟩, ⟨"unknown", "exit"⟩],
    .count 3]

theorem replay_sampleHistory :
    replay sampleHistory .empty = some sampleAnswers ∧
      answers (operations sampleHistory) Archive.empty = sampleAnswers ∧
        answers (operations sampleHistory) Cabinet.empty = sampleAnswers := by
  have hsized : ∀ op ∈ operations sampleHistory, op.Sized := by decide +kernel
  have hroom : cost sampleHistory < UInt64.size := by decide
  have hledger : answers (operations sampleHistory) Ledger.empty = sampleAnswers := by
    decide +kernel
  obtain ⟨hreplay, hanswers, hcabinet⟩ := replay_eq_answers sampleHistory hsized hroom
  rw [hledger] at hanswers hcabinet
  exact ⟨by rw [hreplay, hanswers], hanswers, hcabinet⟩

end Archive

end CallForest
