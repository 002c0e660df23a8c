/-!
# UTF-8

Characters as bytes and back. The lossy decoder puts one replacement character in the place of each
maximal piece that starts a character and cannot be continued; `decode?` accepts only bytes in which
there is no such piece.
-/

namespace CallForest

/-- A sequence of bytes: the content of a file, a key or value of a store. -/
abbrev Bytes := List UInt8

namespace Utf8

/-- The bytes of a text. -/
def encode (s : String) : Bytes :=
  s.toList.flatMap String.utf8EncodeChar

/-- What a first byte announces: how many bytes follow, the range of the first of them, and the bits
it holds itself. -/
structure Lead where
  tails : Nat
  low : UInt8
  high : UInt8
  bits : Nat

/-- The first bytes of characters; no other byte starts one. -/
def lead? (b : UInt8) : Option Lead :=
  let n := b.toNat
  if n < 0x80 then some ⟨0, 0x80, 0xBF, n⟩
  else if 0xC2 ≤ n ∧ n ≤ 0xDF then some ⟨1, 0x80, 0xBF, n - 0xC0⟩
  else if n = 0xE0 then some ⟨2, 0xA0, 0xBF, 0⟩
  else if n = 0xED then some ⟨2, 0x80, 0x9F, 0xD⟩
  else if 0xE1 ≤ n ∧ n ≤ 0xEF then some ⟨2, 0x80, 0xBF, n - 0xE0⟩
  else if n = 0xF0 then some ⟨3, 0x90, 0xBF, 0⟩
  else if n = 0xF4 then some ⟨3, 0x80, 0x8F, 4⟩
  else if 0xF1 ≤ n ∧ n ≤ 0xF3 then some ⟨3, 0x80, 0xBF, n - 0xF0⟩
  else none

/-- Reads `count` following bytes, the first of them in the given range. Stops at the first byte
that does not fit and leaves it unread. -/
def readTails : Nat → UInt8 → UInt8 → Nat → Bytes → Option Nat × Bytes
  | 0, _, _, acc, bs => (some acc, bs)
  | _ + 1, _, _, _, [] => (none, [])
  | count + 1, low, high, acc, b :: bs =>
    if low ≤ b ∧ b ≤ high then readTails count 0x80 0xBF (acc * 64 + (b.toNat - 0x80)) bs
    else (none, b :: bs)

theorem length_readTails_le (count : Nat) (low high : UInt8) (acc : Nat) (bs : Bytes) :
    (readTails count low high acc bs).2.length ≤ bs.length := by
  induction count generalizing low high acc bs with
  | zero => simp [readTails]
  | succ count ih =>
    cases bs with
    | nil => simp [readTails]
    | cons b bs =>
      rw [readTails]
      split
      · exact Nat.le_succ_of_le (ih ..)
      · exact Nat.le_refl _

/-- The characters of a byte sequence, `none` for each piece that is no character. -/
def pieces : Bytes → List (Option Char)
  | [] => []
  | b :: bs =>
    match lead? b with
    | none => none :: pieces bs
    | some l =>
      let r := readTails l.tails l.low l.high l.bits bs
      r.1.map Char.ofNat :: pieces r.2
termination_by bs => bs.length
decreasing_by
  · exact Nat.lt_succ_self _
  · exact Nat.lt_succ_of_le (length_readTails_le ..)

/-- Reads bytes as text, with U+FFFD for each piece that is no character. -/
def decodeLossy (bs : Bytes) : String :=
  String.ofList ((pieces bs).map fun p => p.getD (Char.ofNat 0xFFFD))

/-- Reads bytes as text; none if a piece of them is no character. -/
def decode? (bs : Bytes) : Option String :=
  let ps := pieces bs
  if ps.all Option.isSome then some (String.ofList (ps.filterMap id)) else none

/-- The length of a text in bytes. -/
def size (s : String) : Nat :=
  (encode s).length

end Utf8

end CallForest
