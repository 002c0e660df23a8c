import CallForest.Graph.Archive
import CallForest.Proofs.Bytes.Codec
import Mathlib.Data.List.Basic
import Mathlib.Data.List.Induction

/-!
# The keys of edges

An edge is kept under its written caller followed by its number, highest byte first. A written
caller begins the key of none but its own edges, whatever the names in the other key imitate
(`Encode.node_prefix`), the keys of one caller stand as their numbers do (`before_edgeKey`), and no
two numbers share a key (`id_of_edgeKey_eq`).

So calls that are recorded under growing numbers, consecutive or not, all stay (`Holds.record`), and
the scan of a node's stem gives the calls of that node and of no other, in the order in which they
were recorded (`edgeKeys_divide`).
-/

namespace CallForest

namespace Archive

/-! ## One key -/

theorem id_of_edgeKey_eq {m n : Node} {i j : Nat} (hi : i < UInt64.size) (hj : j < UInt64.size)
    (h : edgeKey m i = edgeKey n j) : i = j := by
  have hids : Encode.bigEndian 8 i = Encode.bigEndian 8 j := (List.append_inj' h (by simp)).2
  have hi' : i < Nat.pow 256 8 := hi
  have hj' : j < Nat.pow 256 8 := hj
  exact Encode.bigEndian_injective hi' hj' hids

/-- The keys of one caller stand as their numbers do. -/
theorem before_edgeKey {i j : Nat} (hi : i < UInt64.size) (hj : j < UInt64.size) (n : Node) :
    (edgeKey n i).before (edgeKey n j) = true ↔ i < j := by
  rw [edgeKey, edgeKey, Bytes.before_append_left]
  refine ⟨fun h => ?_, Encode.before_bigEndian hi hj⟩
  by_contra hij
  rcases Nat.eq_or_lt_of_not_lt hij with rfl | hji
  · rw [Bytes.before_irrefl] at h
    cases h
  · rw [Bytes.before_asymm (Encode.before_bigEndian hj hi hji)] at h
    cases h

/-! ## Calls under numbers -/

/-- The entry of an edge with a number. -/
def entry (e : Nat × Edge) : Bytes × Bytes :=
  (edgeKey e.2.caller e.1, Encode.node e.2.callee)

/-- Calls behind growing numbers of 64 bits, with texts whose lengths have 64 bits. -/
structure Recordable (es : List (Nat × Edge)) : Prop where
  increasing : es.Pairwise fun e f => e.1 < f.1
  id_lt : ∀ e ∈ es, e.1 < UInt64.size
  sized : ∀ e ∈ es, e.2.caller.TextsSized ∧ e.2.callee.TextsSized

/-- The edges of an archive are those of the numbered calls, by increasing key. -/
structure Holds (a : Archive) (es : List (Nat × Edge)) : Prop where
  sorted : a.edges.Sorted
  perm : a.edges.Perm (es.map entry)

/-- A number that no call has gives a free key, whoever calls. -/
theorem Holds.fresh {a : Archive} {es : List (Nat × Edge)} {id : Nat} (h : Holds a es)
    (hid : id < UInt64.size) (hes : ∀ e ∈ es, e.1 < UInt64.size) (hnew : ∀ e ∈ es, e.1 ≠ id)
    (caller : Node) : ∀ e ∈ a.edges, e.1 ≠ edgeKey caller id := by
  intro e he heq
  obtain ⟨f, hf, rfl⟩ := List.mem_map.mp (h.perm.mem_iff.mp he)
  exact hnew f hf (id_of_edgeKey_eq (hes f hf) hid heq)

/-- A call that is recorded under a new number is one more. -/
theorem Holds.record {a : Archive} {es : List (Nat × Edge)} {id : Nat} (h : Holds a es)
    (hid : id < UInt64.size) (hes : ∀ e ∈ es, e.1 < UInt64.size) (hnew : ∀ e ∈ es, e.1 ≠ id)
    (e : Edge) : Holds ({ a with nextId := id }.recordEdge e) (es ++ [(id, e)]) where
  sorted := h.sorted.insert _ _
  perm := by
    -- the new entry may stand anywhere in the map, so only the permutation carries over
    have hinsert : ({ a with nextId := id }.recordEdge e).edges.Perm (entry (id, e) :: a.edges) :=
      KeyMap.insert_perm (h.fresh hid hes hnew e.caller)
    rw [List.map_append]
    exact hinsert.trans ((h.perm.cons _).trans (List.perm_append_singleton _ _).symm)

namespace Recordable

variable {es : List (Nat × Edge)} {a : Archive} {n : Node}

theorem of_append {later : List (Nat × Edge)} (h : Recordable (es ++ later)) : Recordable es where
  increasing := (List.pairwise_append.mp h.increasing).1
  id_lt e he := h.id_lt e (List.mem_append_left _ he)
  sized e he := h.sized e (List.mem_append_left _ he)

/-- The entries of one caller stand in the order of their numbers. -/
theorem sorted_caller (h : Recordable es) (n : Node) :
    KeyMap.Sorted ((es.filter fun e => e.2.caller = n).map entry) := by
  refine List.pairwise_map.mpr ((h.increasing.filter _).imp_of_mem ?_)
  intro e f he hf hlt
  obtain ⟨he, hcaller⟩ := List.mem_filter.mp he
  obtain ⟨hf, hcaller'⟩ := List.mem_filter.mp hf
  have heq : e.2.caller = f.2.caller := by
    rw [of_decide_eq_true hcaller, of_decide_eq_true hcaller']
  rw [entry, entry, heq]
  exact (before_edgeKey (h.id_lt e he) (h.id_lt f hf) f.2.caller).mpr hlt

/-- The scan of a node's stem gives the entries of its calls, in the order of their numbers. -/
theorem scan_eq (h : Recordable es) (ha : Holds a es) (hn : n.TextsSized) :
    a.edges.scan (Encode.node n) = (es.filter fun e => e.2.caller = n).map entry := by
  refine KeyMap.Sorted.eq_of_perm (ha.sorted.filter _) (h.sorted_caller n) ?_
  have hscan : (es.map entry).filter (fun e => (Encode.node n).isPrefixOf e.1) =
      (es.filter fun e => e.2.caller = n).map entry := by
    rw [List.filter_map]
    congr 1
    refine List.filter_congr fun e he => ?_
    rw [Bool.eq_iff_iff, decide_eq_true_iff, Function.comp_apply, List.isPrefixOf_iff_prefix]
    constructor
    · intro hprefix
      -- a stem in front of another caller's key would be a written node that begins another
      exact (Encode.node_prefix hn (h.sized e he).1 hprefix).symm
    · rintro rfl
      exact List.prefix_append _ _
  rw [← hscan]
  exact ha.perm.filter _

theorem decode_entry {e : Nat × Edge} (h : e.2.callee.TextsSized) :
    (Decode.node (entry e).2).map Prod.fst = some e.2.callee := by
  have hread := Decode.node_append [] h
  rw [List.append_nil] at hread
  rw [entry, hread, Option.map_some]

theorem callees_eq (h : Recordable es) (ha : Holds a es) (hn : n.TextsSized) :
    a.callees n = ((es.map Prod.snd).filter fun e => e.caller = n).map Edge.callee := by
  rw [callees, h.scan_eq ha hn, List.filter_map, List.map_map, List.filterMap_map]
  have hread : ∀ e ∈ es.filter fun e => e.2.caller = n,
      ((fun e => (Decode.node e.2).map Prod.fst) ∘ entry) e =
        some ((Edge.callee ∘ Prod.snd) e) := by
    intro e he
    rw [Function.comp_apply, decode_entry (h.sized e (List.mem_filter.mp he).1).2]
    rfl
  exact List.filterMap_eq_map_iff_forall_eq_some.mpr hread

end Recordable

/-! ## Recording -/

/-- Records calls one after another, each under the number that comes with it. -/
def recordNumbered (es : List (Nat × Edge)) (a : Archive) : Archive :=
  es.foldl (fun a e => { a with nextId := e.1 }.recordEdge e.2) a

/-- Calls that are recorded under growing numbers all stay. -/
theorem Recordable.holds {es : List (Nat × Edge)} (h : Recordable es) :
    Holds (recordNumbered es empty) es := by
  induction es using List.reverseRecOn with
  | nil => exact ⟨KeyMap.sorted_nil, List.Perm.refl _⟩
  | append_singleton es e ih =>
      have hnew : ∀ f ∈ es, f.1 ≠ e.1 := by
        intro f hf
        exact Nat.ne_of_lt ((List.pairwise_append.mp h.increasing).2.2 f hf e List.mem_cons_self)
      rw [recordNumbered, List.foldl_append]
      exact (ih h.of_append).record (h.id_lt e List.mem_concat_self) h.of_append.id_lt hnew e.2

/-- **The keys of edges divide callers and keep the order of recording**: a written caller begins no
key of another one; the keys of one caller stand as their numbers do; two numbers never give one
key; and after any calls under growing numbers the scan of a node's stem gives the entries of its
calls, and their callees, in the order in which they were recorded. -/
theorem edgeKeys_divide :
    (∀ m n : Node, m.TextsSized → n.TextsSized → ∀ id < UInt64.size,
      Encode.node m <+: edgeKey n id → m = n) ∧
    (∀ n : Node, ∀ i < UInt64.size, ∀ j < UInt64.size,
      ((edgeKey n i).before (edgeKey n j) = true ↔ i < j)) ∧
    (∀ m n : Node, ∀ i < UInt64.size, ∀ j < UInt64.size, i ≠ j → edgeKey m i ≠ edgeKey n j) ∧
    ∀ es : List (Nat × Edge), Recordable es →
      (recordNumbered es empty).edges.length = es.length ∧
      ∀ n : Node, n.TextsSized →
        (recordNumbered es empty).edges.scan (Encode.node n) =
          (es.filter fun e => e.2.caller = n).map entry ∧
        (recordNumbered es empty).callees n =
          ((es.map Prod.snd).filter fun e => e.caller = n).map Edge.callee := by
  refine ⟨fun m n hm hn _ _ h => Encode.node_prefix hm hn h,
    fun n i hi j hj => before_edgeKey hi hj n,
    fun m n i hi j hj hij heq => hij (id_of_edgeKey_eq hi hj heq), fun es hes => ?_⟩
  have hholds := hes.holds
  refine ⟨?_, fun n hn => ⟨hes.scan_eq hholds hn, hes.callees_eq hholds hn⟩⟩
  rw [hholds.perm.length_eq, List.length_map]

/-! Names that imitate: a path that holds another node's path, length of name, and name; and a name
that goes on with the bytes of the number 1. -/

/-- A node of two letters. -/
def letters : Node := ⟨"a", "b"⟩

/-- Behind the length of its path this node begins as `letters` does. -/
def joined : Node := ⟨"a\x01\x00\x00\x00\x00\x00\x00\x00b", ""⟩

/-- A name that ends as the first key of `letters` does. -/
def tailed : Node := ⟨"a", "b\x00\x00\x00\x00\x00\x00\x00\x01"⟩

/-- Calls of the three, under numbers whose lowest bytes do not grow. -/
def imitations : List (Nat × Edge) :=
  [(1, ⟨letters, joined⟩), (2, ⟨tailed, letters⟩), (255, ⟨joined, letters⟩),
    (256, ⟨letters, tailed⟩), (258, ⟨tailed, tailed⟩), (65536, ⟨letters, joined⟩)]

theorem recordable_imitations : Recordable imitations where
  increasing := by decide
  id_lt := by decide
  sized := by decide

theorem edgeKeys_divide_imitations :
    (letters.TextsSized ∧ tailed.TextsSized ∧ Recordable imitations) ∧
      ¬ Encode.node letters <+: edgeKey tailed 1 ∧
      (edgeKey letters 255).before (edgeKey letters 256) = true ∧
      edgeKey letters 1 ≠ edgeKey tailed 2 ∧
      (recordNumbered imitations empty).edges.length = 6 ∧
      (recordNumbered imitations empty).callees letters = [joined, tailed, joined] ∧
      (recordNumbered imitations empty).callees tailed = [letters, tailed] := by
  obtain ⟨hcaller, hbefore, hkey, hscan⟩ := edgeKeys_divide
  obtain ⟨hlength, hnodes⟩ := hscan imitations recordable_imitations
  have hletters : letters.TextsSized := by decide
  have htailed : tailed.TextsSized := by decide
  refine ⟨⟨hletters, htailed, recordable_imitations⟩, fun h => ?_, ?_, ?_, hlength, ?_, ?_⟩
  · exact absurd (hcaller letters tailed hletters htailed 1 (by decide) h) (by decide)
  · exact (hbefore letters 255 (by decide) 256 (by decide)).mpr (by decide)
  · exact hkey letters tailed 1 (by decide) 2 (by decide) (by decide)
  · exact (hnodes letters hletters).2
  · exact (hnodes tailed htailed).2

end Archive

end CallForest
