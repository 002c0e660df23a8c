import CallForest.Bytes.Codec
import CallForest.Proofs.Bytes.KeyMap
import CallForest.Proofs.Bytes.Utf8

/-!
# Records read back from their bytes

What is written is read back, with the bytes behind it left over (`node_append`,
`function_append`). So a written node is never the beginning of another written node
(`node_prefix`), whatever stands behind either.

Lengths are written in eight bytes. A text, a node or a record is therefore *sized* if its bytes are
fewer than `UInt64.size`.
-/

namespace CallForest

namespace Encode

/-! ## Numbers -/

@[simp] theorem length_littleEndian (width n : Nat) : (littleEndian width n).length = width := by
  induction width generalizing n with
  | zero => rfl
  | succ width ih => rw [littleEndian, List.length_cons, ih]

@[simp] theorem length_bigEndian (width n : Nat) : (bigEndian width n).length = width := by
  rw [bigEndian, List.length_reverse, length_littleEndian]

theorem ofLittleEndian_littleEndian {width n : Nat} (h : n < Nat.pow 256 width) :
    Decode.ofLittleEndian (littleEndian width n) = n := by
  induction width generalizing n with
  | zero =>
      have hn : n = 0 := Nat.lt_one_iff.mp h
      rw [hn]
      rfl
  | succ width ih =>
      have hdiv : n / 256 < Nat.pow 256 width := Nat.div_lt_of_lt_mul (by rwa [Nat.mul_comm])
      rw [littleEndian, Decode.ofLittleEndian, ih hdiv, UInt8.toNat_ofNat']
      omega

theorem bigEndian_succ (width n : Nat) :
    bigEndian (width + 1) n = bigEndian width (n / 256) ++ [UInt8.ofNat n] := by
  rw [bigEndian, littleEndian, List.reverse_cons, bigEndian]

theorem bigEndian_injective {width i j : Nat} (hi : i < Nat.pow 256 width)
    (hj : j < Nat.pow 256 width) (h : bigEndian width i = bigEndian width j) : i = j := by
  have hrev : littleEndian width i = littleEndian width j := List.reverse_inj.mp h
  rw [← ofLittleEndian_littleEndian hi, hrev, ofLittleEndian_littleEndian hj]

/-- Highest byte first, numbers of one width stand in the order of their bytes. -/
theorem before_bigEndian {width i j : Nat} (hi : i < Nat.pow 256 width)
    (hj : j < Nat.pow 256 width) (hij : i < j) :
    (bigEndian width i).before (bigEndian width j) = true := by
  induction width generalizing i j with
  | zero =>
      have hj' : j = 0 := Nat.lt_one_iff.mp hj
      omega
  | succ width ih =>
      have hi' : i / 256 < Nat.pow 256 width := Nat.div_lt_of_lt_mul (by rwa [Nat.mul_comm])
      have hj' : j / 256 < Nat.pow 256 width := Nat.div_lt_of_lt_mul (by rwa [Nat.mul_comm])
      rw [bigEndian_succ, bigEndian_succ, Bytes.before_append_singleton _ _ (by simp)]
      rcases Nat.lt_or_ge (i / 256) (j / 256) with hlt | hge
      · rw [ih hi' hj' hlt, Bool.true_or]
      · have heq : i / 256 = j / 256 := by omega
        have hlow : UInt8.ofNat i < UInt8.ofNat j := by
          rw [UInt8.lt_iff_toNat_lt, UInt8.toNat_ofNat', UInt8.toNat_ofNat']
          omega
        simp [heq, hlow]

end Encode

namespace Decode

theorem take_append {n : Nat} {bs : Bytes} (rest : Bytes) (h : bs.length = n) :
    take n (bs ++ rest) = some (bs, rest) := by
  have hle : n ≤ (bs ++ rest).length := by
    rw [List.length_append]
    omega
  rw [take, if_pos hle, List.take_left' h, List.drop_left' h]

theorem littleEndian_append {width n : Nat} (rest : Bytes) (h : n < Nat.pow 256 width) :
    littleEndian width (Encode.littleEndian width n ++ rest) = some (n, rest) := by
  rw [littleEndian, take_append rest (Encode.length_littleEndian width n), Option.map_some]
  simp only [Encode.ofLittleEndian_littleEndian h]

theorem block_append {bs : Bytes} (rest : Bytes) (h : bs.length < UInt64.size) :
    block (Encode.block bs ++ rest) = some (bs, rest) := by
  rw [block, Encode.block, List.append_assoc, littleEndian_append _ h]
  exact take_append rest rfl

theorem text_append {s : String} (rest : Bytes) (h : (Utf8.encode s).length < UInt64.size) :
    text (Encode.text s ++ rest) = some (s, rest) := by
  rw [text, Encode.text, block_append rest h]
  simp

theorem word32_append (w : UInt32) (rest : Bytes) :
    word32 (Encode.word32 w ++ rest) = some (w, rest) := by
  rw [word32, Encode.word32, littleEndian_append rest w.toNat_lt]
  simp

theorem length_text (s : String) : (Encode.text s).length = 8 + (Utf8.encode s).length := by
  rw [Encode.text, Encode.block, List.length_append, Encode.length_littleEndian]

end Decode

/-! ## Records -/

/-- A node each of whose two texts has a length of 64 bits. -/
def Node.TextsSized (n : Node) : Prop :=
  (Utf8.encode n.path).length < UInt64.size ∧ (Utf8.encode n.name).length < UInt64.size

instance (n : Node) : Decidable n.TextsSized :=
  inferInstanceAs (Decidable ((Utf8.encode n.path).length < UInt64.size ∧
    (Utf8.encode n.name).length < UInt64.size))

/-- The texts of a node are shorter than its bytes. -/
theorem Node.textsSized_of_length_lt {n : Node} (h : (Encode.node n).length < UInt64.size) :
    n.TextsSized := by
  simp only [Encode.node, List.length_append, Decode.length_text] at h
  exact ⟨by omega, by omega⟩

namespace Decode

theorem node_append {n : Node} (rest : Bytes) (h : n.TextsSized) :
    node (Encode.node n ++ rest) = some (n, rest) := by
  simp only [node, Encode.node, List.append_assoc]
  rw [text_append _ h.1]
  simp only [Option.bind_eq_bind, Option.bind_some]
  rw [text_append _ h.2]
  rfl

theorem complexity_append (c : Option Complexity) (rest : Bytes) :
    complexity (Encode.complexity c ++ rest) = some (c, rest) := by
  cases c with
  | none => rfl
  | some c =>
      simp only [Encode.complexity, List.cons_append, List.append_assoc]
      rw [complexity, if_neg (by decide), if_pos rfl, word32_append]
      simp only [Option.bind_eq_bind, Option.bind_some]
      rw [word32_append]
      rfl

theorem function_append {r : FunctionRecord} (rest : Bytes)
    (h : (Encode.function r).length < UInt64.size) :
    function (Encode.function r ++ rest) = some (r, rest) := by
  simp only [Encode.function, List.length_append, length_text] at h
  simp only [function, Encode.function, List.append_assoc]
  rw [text_append _ (by omega)]
  simp only [Option.bind_eq_bind, Option.bind_some]
  rw [text_append _ (by omega)]
  simp only [Option.bind_some]
  rw [text_append _ (by omega)]
  simp only [Option.bind_some]
  rw [word32_append]
  simp only [Option.bind_some]
  rw [text_append _ (by omega)]
  simp only [Option.bind_some]
  rw [complexity_append]
  rfl

end Decode

namespace Encode

/-- **No written node begins another.** -/
theorem node_prefix {m n : Node} {rest : Bytes} (hm : m.TextsSized) (hn : n.TextsSized)
    (h : node m <+: node n ++ rest) : m = n := by
  obtain ⟨rest', heq⟩ := h
  have hread := Decode.node_append rest' hm
  rw [heq, Decode.node_append rest hn] at hread
  exact (congrArg Prod.fst (Option.some.inj hread)).symm

end Encode

end CallForest
