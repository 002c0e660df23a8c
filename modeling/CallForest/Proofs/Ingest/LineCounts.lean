import CallForest.Proofs.Bytes.Utf8
import CallForest.Proofs.Text.Lines
import CallForest.Source

/-!
# Lines and their numbers

Listings are cut into records, cross-reference listings and reports into lines, and of source files
the bytes are counted. All three go by the lines that a text is made of, so they number lines alike,
and a line is its record but for a carriage return (`cutsAlike`).

What each of them comes to is shown by induction on how the text is made of lines: a newline ends
the first one, or there is no other. The bytes of a text are made of lines as the text is
(`MadeOf.bytes`), since the byte of a newline is part of no other character.
-/

namespace CallForest

namespace Text

/-! ## Records and lines -/

section Newline

variable {text : List Char} {raws : List (List Char)}

/-- A record is a line, or a line with one carriage return behind it. -/
def SameButReturn (record line : List Char) : Prop :=
  record = line ∨ record = line ++ ['\r']

theorem sameButReturn_dropReturn (record : List Char) :
    SameButReturn record (dropReturn record) := by
  unfold dropReturn
  split
  · next hlast =>
    obtain ⟨front, rfl⟩ := List.getLast?_eq_some_iff.mp hlast
    right
    rw [List.dropLast_concat]
  · left
    rfl

/-- The lines of a text are those that it is made of, but for a carriage return. -/
theorem MadeOf.forall₂_lines (h : MadeOf '\n' text raws) :
    List.Forall₂ SameButReturn raws (lines text) := by
  induction h with
  | nil => exact .nil
  | last free ne =>
      rw [lines_of_not_mem free ne]
      exact .cons (.inl rfl) .nil
  | cons free _ ih =>
      rw [lines_append_newline free]
      exact .cons (sameButReturn_dropReturn _) ih

/-- Just the lines that a newline ends lose a carriage return. -/
theorem MadeOf.lines_eq (h : MadeOf '\n' text raws) :
    lines text =
      if text.getLast? = some '\n' then raws.map dropReturn
      else raws.dropLast.map dropReturn ++ raws.getLast?.toList := by
  induction h with
  | nil => rfl
  | @last line free ne =>
      have hlast : line.getLast? ≠ some '\n' := by
        intro hlast
        exact free (List.mem_of_getLast? hlast)
      rw [lines_of_not_mem free ne, if_neg hlast]
      rfl
  | @cons line text raws free rest ih =>
      rw [lines_append_newline free, ih, List.getLast?_append, List.getLast?_cons, Option.some_or]
      cases hlast : text.getLast? with
      | none =>
          -- nothing follows the newline
          obtain rfl := List.getLast?_eq_none_iff.mp hlast
          obtain rfl : raws = [] := rest.records_eq.symm
          rfl
      | some last =>
          have hne : text ≠ [] := by
            rintro rfl
            cases hlast
          obtain ⟨next, raws, rfl⟩ := List.exists_cons_of_ne_nil (rest.ne_nil hne)
          by_cases hend : last = '\n'
          · simp [hend]
          · simp [hend]

/-! ## Bytes -/

theorem ten_not_mem_flatMap {line : List Char} (h : '\n' ∉ line) :
    10 ∉ line.flatMap String.utf8EncodeChar := by
  intro hmem
  obtain ⟨c, hc, hbyte⟩ := List.mem_flatMap.mp hmem
  have hcode : c.val.toNat = 10 := (Utf8.mem_utf8EncodeChar_iff (by decide)).mp hbyte
  obtain rfl : c = '\n' := Char.ext (UInt32.toNat_inj.mp hcode)
  exact h hc

/-- The bytes of a text are made of the bytes of its lines. -/
theorem MadeOf.bytes (h : MadeOf '\n' text raws) :
    MadeOf 10 (text.flatMap String.utf8EncodeChar)
      (raws.map fun raw => raw.flatMap String.utf8EncodeChar) := by
  induction h with
  | nil => exact .nil
  | @last line free ne =>
      apply MadeOf.last (ten_not_mem_flatMap free)
      intro hempty
      -- what has no bytes has no characters
      have hpieces := Utf8.pieces_flatMap line
      rw [hempty, Utf8.pieces] at hpieces
      exact ne (List.map_eq_nil_iff.mp hpieces.symm)
  | cons free _ ih =>
      rw [List.flatMap_append, List.flatMap_cons]
      exact .cons (ten_not_mem_flatMap free) ih

end Newline

end Text

theorem lineCount_append_newline (front rest : Bytes) :
    lineCount (front ++ 10 :: rest) = front.count 10 + 1 + lineCount rest := by
  unfold lineCount
  rw [List.getLast?_append, List.getLast?_cons, Option.some_or, List.count_append,
    List.count_cons_self]
  cases hlast : rest.getLast? with
  | none => simp [List.getLast?_eq_none_iff.mp hlast]
  | some last =>
      dsimp only [Option.getD]
      omega

theorem lineCount_of_not_mem {line : Bytes} (h : 10 ∉ line) (hne : line ≠ []) :
    lineCount line = 1 := by
  unfold lineCount
  cases hlast : line.getLast? with
  | none => exact absurd (List.getLast?_eq_none_iff.mp hlast) hne
  | some last =>
      have hbyte : last ≠ 10 := by
        rintro rfl
        exact h (List.mem_of_getLast? hlast)
      simp [List.count_eq_zero.mpr h, hbyte]

/-- A content counts as many lines as it is made of, be it a text or not. -/
theorem lineCount_eq_length {content : Bytes} {lines : List Bytes}
    (h : Text.MadeOf 10 content lines) : lineCount content = lines.length := by
  induction h with
  | nil => rfl
  | last free ne => exact lineCount_of_not_mem free ne
  | cons free _ ih =>
      rw [lineCount_append_newline, List.count_eq_zero.mpr free, ih, List.length_cons, Nat.zero_add,
        Nat.add_comm]

/-! ## The ways to cut a text -/

/-- The lines of a text are the same, whatever it is taken for. -/
structure CutsAlike (text : String) : Prop where
  /-- As a listing it has the records that it is written from: free of newlines, with one behind
  each, or with one between neighbours if the last record is not empty. -/
  records_eq_iff : ∀ raws, Listing.records text = raws ↔ (∀ raw ∈ raws, '\n' ∉ raw) ∧
    (text.toList = raws.flatMap (fun raw => raw ++ ['\n']) ∨
      text.toList = ['\n'].intercalate raws ∧ raws.getLast? ≠ some [])
  /-- As a cross-reference listing or a report it has as many lines. -/
  length_lines : (Text.lines text.toList).length = (Listing.records text).length
  /-- As a source file it counts as many lines. -/
  lineCount_encode : lineCount (Utf8.encode text) = (Listing.records text).length
  /-- Each line is the record of the same number, but for one carriage return. -/
  forall₂_lines :
    List.Forall₂ Text.SameButReturn (Listing.records text) (Text.lines text.toList)
  /-- The return is left out where a newline ends the line, and only there. -/
  lines_eq : Text.lines text.toList =
    if text.toList.getLast? = some '\n' then (Listing.records text).map Text.dropReturn
    else (Listing.records text).dropLast.map Text.dropReturn ++
      (Listing.records text).getLast?.toList

/-- **All ways to cut a text number its lines alike.** -/
theorem cutsAlike (text : String) : CutsAlike text := by
  have hrecords : Text.MadeOf '\n' text.toList (Listing.records text) := Text.records_eq_iff.mp rfl
  have hlines := hrecords.forall₂_lines
  refine ⟨?_, hlines.length_eq.symm, ?_, hlines, hrecords.lines_eq⟩
  · intro raws
    exact Text.records_eq_iff.trans Text.madeOf_iff
  · rw [Utf8.encode, lineCount_eq_length hrecords.bytes, List.length_map]

/-- A return that a newline follows, a blank line, and a return at the end of a last line that no
newline ends. -/
example : Listing.records "a\r\n\nb\r" = [['a', '\r'], [], ['b', '\r']] ∧
    Text.lines "a\r\n\nb\r".toList = [['a'], [], ['b', '\r']] ∧
    lineCount (Utf8.encode "a\r\n\nb\r") = 3 := by
  decide

end CallForest
