import CallForest.Text.Lines
import Mathlib.Data.List.TakeWhile

/-!
# Words and line endings

White space ends a word, and words that are joined by spaces are found again (`words_joinWords`).
White space around a word is trimmed (`trim_surrounded`). A carriage return at the end of a line is
white space, so it makes no difference to the words (`words_dropReturn`).
-/

namespace CallForest.Text

/-- A text that is a word: not empty, and without white space. -/
def Solid (w : List Char) : Prop :=
  w ≠ [] ∧ ∀ c ∈ w, isBlank c = false

theorem not_blank_of_all {cs : List Char} (h : cs.all (fun c => !isBlank c) = true) :
    ∀ c ∈ cs, isBlank c = false := by
  simpa using h

instance (w : List Char) : Decidable (Solid w) :=
  decidable_of_iff (w ≠ [] ∧ w.all (fun c => !isBlank c) = true) (by simp [Solid])

/-! ## Words -/

theorem words_append (front rest : List Char) {c : Char} (hc : isBlank c = true) :
    words (front ++ c :: rest) = words front ++ words rest := by
  rw [words, List.splitOnP_append_cons _ _ hc, List.filter_append]
  rfl

theorem words_of_solid {w : List Char} (h : Solid w) : words w = [w] := by
  have hsplit : w.splitOnP isBlank = [w] :=
    List.splitOnP_eq_singleton h.2
  rw [words, hsplit, List.filter_cons_of_pos (by simpa using h.1)]
  rfl

/-- White space behind a word ends it. -/
theorem words_solid_append {w : List Char} (h : Solid w) {c : Char} (hc : isBlank c = true)
    (rest : List Char) : words (w ++ c :: rest) = w :: words rest := by
  rw [words_append w rest hc, words_of_solid h]
  rfl

/-- Joined words are found again. -/
theorem words_joinWords {ws : List (List Char)} (h : ∀ w ∈ ws, Solid w) :
    words (joinWords ws) = ws := by
  induction ws with
  | nil => rfl
  | cons w ws ih =>
      obtain ⟨hw, hws⟩ := List.forall_mem_cons.mp h
      cases ws with
      | nil => exact words_of_solid hw
      | cons v ws => rw [joinWords, words_solid_append hw rfl, ih hws]

theorem mem_joinWords {ws : List (List Char)} {c : Char} (h : c ∈ joinWords ws) :
    c = ' ' ∨ ∃ w ∈ ws, c ∈ w := by
  induction ws with
  | nil => cases h
  | cons w ws ih =>
      cases ws with
      | nil => exact .inr ⟨w, List.mem_cons_self, h⟩
      | cons v ws =>
          obtain hw | hrest := List.mem_append.mp h
          · exact .inr ⟨w, List.mem_cons_self, hw⟩
          · obtain hspace | hrest := List.mem_cons.mp hrest
            · exact .inl hspace
            · exact (ih hrest).imp_right fun ⟨u, hu, hc⟩ => ⟨u, List.mem_cons_of_mem w hu, hc⟩

/-! ## Trimming -/

theorem trimEnd_prefix (cs : List Char) : trimEnd cs <+: cs := by
  rw [trimEnd, ← List.reverse_suffix, List.reverse_reverse]
  exact List.dropWhile_suffix isBlank

theorem trimEnd_append_blank (cs : List Char) {back : List Char}
    (h : ∀ c ∈ back, isBlank c = true) : trimEnd (cs ++ back) = trimEnd cs := by
  rw [trimEnd, List.reverse_append,
    List.dropWhile_append_of_pos fun c hc => h c (List.mem_reverse.mp hc), trimEnd]

theorem trim_append_blank (cs : List Char) {back : List Char} (h : ∀ c ∈ back, isBlank c = true) :
    trim (cs ++ back) = trim cs := by
  rw [trim, trimStart, List.dropWhile_append, trim, trimStart]
  split
  · next hempty =>
    rw [List.isEmpty_iff.mp hempty, List.dropWhile_eq_nil_iff.mpr h]
  · exact trimEnd_append_blank _ h

/-- White space around a word is trimmed, and nothing else. -/
theorem trim_surrounded {front w back : List Char} (hfront : ∀ c ∈ front, isBlank c = true)
    (hw : Solid w) (hback : ∀ c ∈ back, isBlank c = true) : trim (front ++ (w ++ back)) = w := by
  have hstart : w.dropWhile isBlank = w := List.dropWhile_eq_self_iff.mpr fun hlength => by
    simpa using hw.2 _ (List.getElem_mem hlength)
  have hend : w.reverse.dropWhile isBlank = w.reverse :=
    List.dropWhile_eq_self_iff.mpr fun hlength => by
      simpa using hw.2 _ (List.mem_reverse.mp (List.getElem_mem hlength))
  rw [← List.append_assoc, trim_append_blank _ hback, trim, trimStart,
    List.dropWhile_append_of_pos hfront, hstart, trimEnd, hend, List.reverse_reverse]

/-! ## Line endings -/

/-- A carriage return is dropped from what ends a text, if it is there. -/
theorem dropReturn_append {front : List Char} (h : front.getLast? ≠ some '\r') (rest : List Char) :
    dropReturn (front ++ rest) = front ++ dropReturn rest := by
  cases rest with
  | nil => rw [List.append_nil, dropReturn, if_neg h, dropReturn, if_neg (by simp), List.append_nil]
  | cons c rest =>
      have hlast : (front ++ c :: rest).getLast? = (c :: rest).getLast? := by
        rw [List.getLast?_append, List.getLast?_cons, Option.some_or]
      rw [dropReturn, dropReturn, hlast, List.dropLast_append_of_ne_nil (List.cons_ne_nil c rest)]
      split <;> rfl

theorem dropReturn_prefix (cs : List Char) : dropReturn cs <+: cs := by
  rw [dropReturn]
  split
  · exact List.dropLast_prefix cs
  · exact List.prefix_refl cs

theorem words_dropReturn (cs : List Char) : words (dropReturn cs) = words cs := by
  rw [dropReturn]
  split
  · next hlast =>
    obtain ⟨front, rfl⟩ := List.getLast?_eq_some_iff.mp hlast
    rw [List.dropLast_concat, words_append front [] rfl]
    exact (List.append_nil _).symm
  · rfl

end CallForest.Text
