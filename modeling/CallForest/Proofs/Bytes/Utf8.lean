import CallForest.Text.Utf8

/-!
# UTF-8 read back

The bytes of a character are read back as that character, whatever follows them
(`pieces_utf8EncodeChar`), so the bytes of a text are read back as the text (`decode?_encode`), and
no two texts have the same bytes. A byte below 0x80 stands for the character with that code and is
no part of another one (`mem_utf8EncodeChar_iff`).

A character of more than one byte is a lead, which holds the highest bits, and tails of six bits
each. The lead fixes the range of the first tail; that range leaves out the codes that a shorter
sequence has, and those of surrogates.
-/

namespace CallForest.Utf8

/-- A following byte, which holds the six lowest bits of a number. -/
def tail (n : Nat) : UInt8 := UInt8.ofNat (n % 64 + 0x80)

theorem toNat_ofNat_of_lt {n : Nat} (h : n < 256) : (UInt8.ofNat n).toNat = n := by
  rw [UInt8.toNat_ofNat', Nat.mod_eq_of_lt h]

theorem toNat_tail (n : Nat) : (tail n).toNat = n % 64 + 0x80 := by
  unfold tail
  exact toNat_ofNat_of_lt (by omega)

/-- A following byte in the range that is asked for is read. -/
theorem readTails_tail {count acc n : Nat} {low high : UInt8} (bs : Bytes)
    (hlow : low.toNat ≤ n % 64 + 0x80) (hhigh : n % 64 + 0x80 ≤ high.toNat) :
    readTails (count + 1) low high acc (tail n :: bs) =
      readTails count 0x80 0xBF (acc * 64 + n % 64) bs := by
  have hrange : low ≤ tail n ∧ tail n ≤ high := by
    rw [UInt8.le_iff_toNat_le, UInt8.le_iff_toNat_le, toNat_tail]
    exact ⟨hlow, hhigh⟩
  rw [readTails, if_pos hrange, toNat_tail, Nat.add_sub_cancel]

/-- A following byte whose range the lead does not narrow. -/
theorem readTails_tail_full (count acc n : Nat) (bs : Bytes) :
    readTails (count + 1) 0x80 0xBF acc (tail n :: bs) =
      readTails count 0x80 0xBF (acc * 64 + n % 64) bs := by
  have h : n % 64 < 64 := Nat.mod_lt _ (by decide)
  exact readTails_tail bs (show 128 ≤ _ by omega) (show _ ≤ 191 by omega)

/-! ## Leads -/

theorem lead?_one {n : Nat} (h : n ≤ 0x7F) :
    lead? (UInt8.ofNat n) = some ⟨0, 0x80, 0xBF, n⟩ := by
  unfold lead?
  simp only [toNat_ofNat_of_lt (show n < 256 by omega)]
  rw [if_pos (by omega)]

theorem lead?_two {n : Nat} (hlow : 0x7F < n) (hhigh : n ≤ 0x7FF) :
    lead? (UInt8.ofNat (n / 64 % 0x20 + 0xC0)) = some ⟨1, 0x80, 0xBF, n / 64⟩ := by
  unfold lead?
  simp only [toNat_ofNat_of_lt (show n / 64 % 0x20 + 0xC0 < 256 by omega)]
  rw [if_neg (by omega), if_pos (by omega), show n / 64 % 0x20 + 0xC0 - 0xC0 = n / 64 by omega]

/-- The lead of three bytes, with a range that the first tail is in. -/
theorem lead?_three {n : Nat} (hlow : 0x7FF < n) (hhigh : n ≤ 0xFFFF)
    (hvalid : n < 0xD800 ∨ 0xDFFF < n) :
    ∃ low high : UInt8, low.toNat ≤ n / 64 % 64 + 0x80 ∧ n / 64 % 64 + 0x80 ≤ high.toNat ∧
      lead? (UInt8.ofNat (n / 4096 % 0x10 + 0xE0)) = some ⟨2, low, high, n / 4096⟩ := by
  unfold lead?
  simp only [toNat_ofNat_of_lt (show n / 4096 % 0x10 + 0xE0 < 256 by omega)]
  rw [if_neg (by omega), if_neg (by omega)]
  by_cases h0 : n / 4096 = 0
  · refine ⟨0xA0, 0xBF, show 160 ≤ _ by omega, show _ ≤ 191 by omega, ?_⟩
    rw [if_pos (by omega), h0]
  · rw [if_neg (by omega)]
    by_cases hD : n / 4096 = 0xD
    · refine ⟨0x80, 0x9F, show 128 ≤ _ by omega, show _ ≤ 159 by omega, ?_⟩
      rw [if_pos (by omega), hD]
    · refine ⟨0x80, 0xBF, show 128 ≤ _ by omega, show _ ≤ 191 by omega, ?_⟩
      rw [if_neg (by omega), if_pos (by omega),
        show n / 4096 % 0x10 + 0xE0 - 0xE0 = n / 4096 by omega]

/-- The lead of four bytes, with a range that the first tail is in. -/
theorem lead?_four {n : Nat} (hlow : 0xFFFF < n) (hhigh : n < 0x110000) :
    ∃ low high : UInt8, low.toNat ≤ n / 4096 % 64 + 0x80 ∧ n / 4096 % 64 + 0x80 ≤ high.toNat ∧
      lead? (UInt8.ofNat (n / 262144 % 0x08 + 0xF0)) = some ⟨3, low, high, n / 262144⟩ := by
  unfold lead?
  simp only [toNat_ofNat_of_lt (show n / 262144 % 0x08 + 0xF0 < 256 by omega)]
  rw [if_neg (by omega), if_neg (by omega), if_neg (by omega), if_neg (by omega),
    if_neg (by omega)]
  by_cases h0 : n / 262144 = 0
  · refine ⟨0x90, 0xBF, show 144 ≤ _ by omega, show _ ≤ 191 by omega, ?_⟩
    rw [if_pos (by omega), h0]
  · rw [if_neg (by omega)]
    by_cases h4 : n / 262144 = 4
    · refine ⟨0x80, 0x8F, show 128 ≤ _ by omega, show _ ≤ 143 by omega, ?_⟩
      rw [if_pos (by omega), h4]
    · refine ⟨0x80, 0xBF, show 128 ≤ _ by omega, show _ ≤ 191 by omega, ?_⟩
      rw [if_neg (by omega), if_pos (by omega),
        show n / 262144 % 0x08 + 0xF0 - 0xF0 = n / 262144 by omega]

/-! ## Low bytes -/

theorem ne_ofNat_of_le {b : UInt8} (hb : b.toNat ≤ 0x7F) {n : Nat} (hlow : 0x80 ≤ n)
    (hhigh : n < 256) : b ≠ UInt8.ofNat n := by
  intro h
  have hn : b.toNat = n := by rw [h, toNat_ofNat_of_lt hhigh]
  omega

/-- A byte below 0x80 is among the bytes of the character with that code, and of no other. -/
theorem mem_utf8EncodeChar_iff {b : UInt8} (hb : b.toNat ≤ 0x7F) {c : Char} :
    b ∈ String.utf8EncodeChar c ↔ c.val.toNat = b.toNat := by
  have hvalid : c.val.toNat < 0xD800 ∨ 0xDFFF < c.val.toNat ∧ c.val.toNat < 0x110000 := c.valid
  generalize hn : c.val.toNat = n at hvalid
  unfold String.utf8EncodeChar
  simp only [hn]
  by_cases h1 : n ≤ 0x7F
  · rw [if_pos h1, List.mem_singleton, ← UInt8.toNat_inj, toNat_ofNat_of_lt (by omega)]
    exact eq_comm
  -- all bytes of a longer character are 0x80 or more
  have hne : n ≠ b.toNat := by omega
  have hhigh : ∀ m, 0x80 ≤ m → m < 256 → b ≠ UInt8.ofNat m := fun _ => ne_ofNat_of_le hb
  rw [if_neg h1]
  refine iff_of_false ?_ hne
  intro hmem
  split at hmem
  · simp only [List.mem_cons, List.not_mem_nil, or_false] at hmem
    rcases hmem with h | h <;> exact hhigh _ (by omega) (by omega) h
  split at hmem
  · simp only [List.mem_cons, List.not_mem_nil, or_false] at hmem
    rcases hmem with h | h | h <;> exact hhigh _ (by omega) (by omega) h
  · simp only [List.mem_cons, List.not_mem_nil, or_false] at hmem
    rcases hmem with h | h | h | h <;> exact hhigh _ (by omega) (by omega) h

/-! ## Characters and texts -/

/-- A piece that starts with a lead. -/
theorem pieces_of_lead {b : UInt8} {l : Lead} {n : Nat} {bs rest : Bytes} (hl : lead? b = some l)
    (h : readTails l.tails l.low l.high l.bits bs = (some n, rest)) :
    pieces (b :: bs) = some (Char.ofNat n) :: pieces rest := by
  rw [pieces, hl]
  simp only [h, Option.map_some]

/-- The bytes of a character are read back as the character. -/
theorem pieces_utf8EncodeChar (c : Char) (rest : Bytes) :
    pieces (String.utf8EncodeChar c ++ rest) = some c :: pieces rest := by
  have hvalid : c.val.toNat < 0xD800 ∨ 0xDFFF < c.val.toNat ∧ c.val.toNat < 0x110000 := c.valid
  have hc : Char.ofNat c.val.toNat = c := Char.ofNat_toNat c
  generalize hn : c.val.toNat = n at hvalid hc
  unfold String.utf8EncodeChar
  simp only [hn]
  rw [← hc]
  by_cases h1 : n ≤ 0x7F
  · rw [if_pos h1]
    exact pieces_of_lead (lead?_one h1) rfl
  rw [if_neg h1]
  by_cases h2 : n ≤ 0x7FF
  · rw [if_pos h2]
    refine pieces_of_lead (lead?_two (by omega) h2) ?_
    show readTails 1 0x80 0xBF (n / 64) (tail n :: rest) = _
    rw [readTails_tail_full, readTails, show n / 64 * 64 + n % 64 = n by omega]
  rw [if_neg h2]
  by_cases h3 : n ≤ 0xFFFF
  · rw [if_pos h3]
    obtain ⟨low, high, hlow, hhigh, hl⟩ := lead?_three (by omega) h3 (by omega)
    refine pieces_of_lead hl ?_
    show readTails 2 low high (n / 4096) (tail (n / 64) :: tail n :: rest) = _
    rw [readTails_tail _ hlow hhigh, readTails_tail_full, readTails,
      show (n / 4096 * 64 + n / 64 % 64) * 64 + n % 64 = n by omega]
  · rw [if_neg h3]
    obtain ⟨low, high, hlow, hhigh, hl⟩ := lead?_four (n := n) (by omega) (by omega)
    refine pieces_of_lead hl ?_
    show readTails 3 low high (n / 262144)
      (tail (n / 4096) :: tail (n / 64) :: tail n :: rest) = _
    rw [readTails_tail _ hlow hhigh, readTails_tail_full, readTails_tail_full, readTails,
      show ((n / 262144 * 64 + n / 4096 % 64) * 64 + n / 64 % 64) * 64 + n % 64 = n by omega]

theorem pieces_flatMap (cs : List Char) :
    pieces (cs.flatMap String.utf8EncodeChar) = cs.map some := by
  induction cs with
  | nil => rw [List.flatMap_nil, pieces, List.map_nil]
  | cons c cs ih => rw [List.flatMap_cons, pieces_utf8EncodeChar, ih, List.map_cons]

/-- **The bytes of a text are read back as the text.** -/
@[simp] theorem decode?_encode (s : String) : decode? (encode s) = some s := by
  unfold decode? encode
  simp only [pieces_flatMap]
  simp

theorem encode_injective {s t : String} (h : encode s = encode t) : s = t := by
  have hst : some s = some t := by rw [← decode?_encode s, h, decode?_encode]
  exact Option.some.inj hst

@[simp] theorem encode_inj {s t : String} : encode s = encode t ↔ s = t :=
  ⟨encode_injective, congrArg encode⟩

end CallForest.Utf8
