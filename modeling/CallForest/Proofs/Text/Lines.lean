import CallForest.Listing.Line
import CallForest.Proofs.Text.Words
import Mathlib.Data.List.Forall2
import Mathlib.Data.List.ReduceOption

/-!
# Records and lines of a text

A text is made of lines (`MadeOf`): it has a newline behind each of them, but the one behind the
last may be missing if that line is not empty (`madeOf_iff`). There is one way to see a text so,
since its records are these lines (`records_eq_iff`). Hence no record holds a newline
(`newline_not_mem_of_mem_records`), and records with a newline behind each are read back as they
were (`records_flatMap`). A text that ends in a newline is cut by itself, whatever follows it
(`records_append`).

Lines that are joined by newlines are found again, each but the last without a carriage return at
its end (`lines_intercalate`). So a reader for which a carriage return makes no difference comes to
what the joined lines come to one by one (`filterMap_lines`).
-/

namespace CallForest

namespace Text

/-! ## Pieces -/

/-- No piece of a split has an element at which the text is split. -/
theorem not_of_mem_splitOnPPrepend {p : Char → Bool} {cs acc w : List Char}
    (hacc : ∀ c ∈ acc, p c = false) (h : w ∈ cs.splitOnPPrepend p acc) : ∀ c ∈ w, p c = false := by
  induction cs generalizing acc with
  | nil =>
      rw [List.splitOnPPrepend_nil, List.mem_singleton] at h
      subst h
      exact fun c hc => hacc c (List.mem_reverse.mp hc)
  | cons c cs ih =>
      rw [List.splitOnPPrepend_cons_eq_if] at h
      split at h
      · rcases List.mem_cons.mp h with rfl | h
        · exact fun c hc => hacc c (List.mem_reverse.mp hc)
        · exact ih (fun _ hc => absurd hc List.not_mem_nil) h
      · next hc => exact ih (List.forall_mem_cons.mpr ⟨by simpa using hc, hacc⟩) h

/-- Only the last piece may be left away. -/
theorem closePieces_append (ps : List (List Char)) {qs : List (List Char)} (h : qs ≠ []) :
    closePieces (ps ++ qs) = ps ++ closePieces qs := by
  induction ps with
  | nil => rfl
  | cons p ps ih =>
      rw [List.cons_append, List.cons_append, ← ih]
      cases hps : ps ++ qs with
      | nil => exact absurd (List.append_eq_nil_iff.mp hps).2 h
      | cons q rest => rfl

theorem not_mem_of_mem_splitOn {c : Char} {text piece : List Char} (h : piece ∈ text.splitOn c) :
    c ∉ piece := by
  rw [List.splitOn_eq_splitOnP, List.splitOnP_eq_splitOnPPrepend] at h
  intro hmem
  have hfree := not_of_mem_splitOnPPrepend (fun _ hc => absurd hc List.not_mem_nil) h _ hmem
  simp at hfree

/-! ## How texts are made of lines -/

/-- The lines that a text is made of. A newline ends each of them but perhaps the last, which is not
empty then. -/
inductive MadeOf {α : Type} (newline : α) : List α → List (List α) → Prop
  | nil : MadeOf newline [] []
  | last {line : List α} (free : newline ∉ line) (ne : line ≠ []) : MadeOf newline line [line]
  | cons {line text : List α} {lines : List (List α)} (free : newline ∉ line)
      (rest : MadeOf newline text lines) : MadeOf newline (line ++ newline :: text) (line :: lines)

section MadeOf

variable {α : Type} {newline : α} {text : List α} {lines : List (List α)}

theorem exists_madeOf [DecidableEq α] (newline : α) (text : List α) :
    ∃ lines, MadeOf newline text lines := by
  induction text with
  | nil => exact ⟨[], .nil⟩
  | cons c text ih =>
      obtain ⟨lines, h⟩ := ih
      by_cases hc : c = newline
      · subst hc
        exact ⟨[] :: lines, .cons List.not_mem_nil h⟩
      · have hfree : ∀ {line : List α}, newline ∉ line → newline ∉ c :: line := by
          intro line hline
          simp [hline, Ne.symm hc]
        -- the character goes in front of the first line
        cases h with
        | nil => exact ⟨[[c]], .last (hfree List.not_mem_nil) (List.cons_ne_nil c [])⟩
        | last free => exact ⟨[c :: text], .last (hfree free) (List.cons_ne_nil c text)⟩
        | @cons line text lines free rest =>
            have hcons : MadeOf newline ((c :: line) ++ newline :: text) ((c :: line) :: lines) :=
              .cons (hfree free) rest
            exact ⟨_, hcons⟩

theorem madeOf_flatMap (h : ∀ line ∈ lines, newline ∉ line) :
    MadeOf newline (lines.flatMap fun line => line ++ [newline]) lines := by
  induction lines with
  | nil => exact .nil
  | cons line lines ih =>
      obtain ⟨hline, hlines⟩ := List.forall_mem_cons.mp h
      rw [List.flatMap_cons, List.append_assoc, List.singleton_append]
      exact .cons hline (ih hlines)

theorem madeOf_intercalate (h : ∀ line ∈ lines, newline ∉ line) (hlast : lines.getLast? ≠ some []) :
    MadeOf newline ([newline].intercalate lines) lines := by
  induction lines with
  | nil => exact .nil
  | cons line lines ih =>
      obtain ⟨hline, hlines⟩ := List.forall_mem_cons.mp h
      cases lines with
      | nil =>
          have hne : line ≠ [] := by
            rintro rfl
            exact hlast rfl
          rw [List.intercalate_singleton]
          exact .last hline hne
      | cons next lines =>
          rw [List.intercalate_cons_cons, List.append_assoc, List.singleton_append]
          exact .cons hline (ih hlines hlast)

theorem MadeOf.not_mem (h : MadeOf newline text lines) : ∀ line ∈ lines, newline ∉ line := by
  induction h with
  | nil => simp
  | last free => simpa using free
  | cons free _ ih =>
      intro line hline
      rcases List.mem_cons.mp hline with rfl | hline
      · exact free
      · exact ih line hline

theorem MadeOf.ne_nil (h : MadeOf newline text lines) (hne : text ≠ []) : lines ≠ [] := by
  rintro rfl
  cases h
  exact hne rfl

theorem MadeOf.eq_flatMap_or_eq_intercalate (h : MadeOf newline text lines) :
    text = lines.flatMap (fun line => line ++ [newline]) ∨
      text = [newline].intercalate lines ∧ lines.getLast? ≠ some [] := by
  induction h with
  | nil => exact .inl rfl
  | last _ ne =>
      right
      simpa [List.intercalate_singleton] using ne
  | @cons line text lines _ rest ih =>
      rw [List.flatMap_cons, List.append_assoc, List.singleton_append]
      cases lines with
      | nil =>
          -- nothing follows the newline
          cases rest
          exact .inl rfl
      | cons next lines =>
          rw [List.intercalate_cons_cons, List.append_assoc, List.singleton_append,
            List.getLast?_cons_cons]
          rcases ih with hflat | ⟨hjoin, hlast⟩
          · left
            rw [← hflat]
          · right
            rw [← hjoin]
            exact ⟨rfl, hlast⟩

/-- A text that is made of lines is written with a newline behind each, or with newlines between
them if the last is not empty. -/
theorem madeOf_iff : MadeOf newline text lines ↔ (∀ line ∈ lines, newline ∉ line) ∧
    (text = lines.flatMap (fun line => line ++ [newline]) ∨
      text = [newline].intercalate lines ∧ lines.getLast? ≠ some []) := by
  constructor
  · intro h
    exact ⟨h.not_mem, h.eq_flatMap_or_eq_intercalate⟩
  · rintro ⟨hfree, rfl | ⟨rfl, hlast⟩⟩
    · exact madeOf_flatMap hfree
    · exact madeOf_intercalate hfree hlast

end MadeOf

/-! ## Records -/

/-- What stands behind a newline is cut by itself. -/
theorem records_append_newline (front rest : List Char) :
    records (front ++ '\n' :: rest) = front.splitOn '\n' ++ records rest := by
  rw [records, List.splitOn_append_cons_self, closePieces_append _ (List.splitOn_ne_nil _ _)]
  rfl

/-- The records of a text that is empty or ends in a newline stay when something follows it. -/
theorem records_append {front : List Char} (h : front = [] ∨ front.getLast? = some '\n')
    (rest : List Char) : records (front ++ rest) = records front ++ records rest := by
  obtain rfl | hlast := h
  · rfl
  · obtain ⟨text, rfl⟩ := List.getLast?_eq_some_iff.mp hlast
    have hfront : records (text ++ ['\n']) = text.splitOn '\n' := by
      rw [records_append_newline]
      exact List.append_nil _
    rw [List.append_assoc, List.singleton_append, records_append_newline, hfront]

theorem MadeOf.records_eq {text : List Char} {raws : List (List Char)} (h : MadeOf '\n' text raws) :
    records text = raws := by
  induction h with
  | nil => rfl
  | last free ne =>
      rw [records, List.splitOn_eq_singleton free, closePieces, if_neg (mt List.isEmpty_iff.mp ne)]
  | cons free _ ih =>
      rw [records_append_newline, List.splitOn_eq_singleton free, ih, List.singleton_append]

/-- The records of a text are the lines that it is made of. -/
theorem records_eq_iff {text : List Char} {raws : List (List Char)} :
    records text = raws ↔ MadeOf '\n' text raws := by
  constructor
  · rintro rfl
    obtain ⟨raws, h⟩ := exists_madeOf '\n' text
    rw [h.records_eq]
    exact h
  · intro h
    exact h.records_eq

theorem newline_not_mem_of_mem_records {text raw : List Char} (h : raw ∈ records text) :
    '\n' ∉ raw :=
  (records_eq_iff.mp rfl).not_mem raw h

/-- Records with a newline behind each are read back. -/
theorem records_flatMap {raws : List (List Char)} (h : ∀ raw ∈ raws, '\n' ∉ raw) :
    records (raws.flatMap fun raw => raw ++ ['\n']) = raws :=
  (madeOf_flatMap h).records_eq

/-! ## Lines -/

theorem closeLines_cons (p : List Char) {ps : List (List Char)} (h : ps ≠ []) :
    closeLines (p :: ps) = dropReturn p :: closeLines ps := by
  cases ps with
  | nil => exact absurd rfl h
  | cons q ps => rfl

/-- A text without newlines is a line, unless it is empty. -/
theorem lines_of_not_mem {line : List Char} (h : '\n' ∉ line) (hne : line ≠ []) :
    lines line = [line] := by
  rw [lines, List.splitOn_eq_singleton h, closeLines, if_neg (mt List.isEmpty_iff.mp hne)]

/-- What stands behind the newline that ends a line is cut by itself. -/
theorem lines_append_newline {line : List Char} (h : '\n' ∉ line) (rest : List Char) :
    lines (line ++ '\n' :: rest) = dropReturn line :: lines rest := by
  rw [lines, List.splitOn_append_cons_self, List.splitOn_eq_singleton h, List.singleton_append,
    closeLines_cons line (List.splitOn_ne_nil _ _), lines]

/-- Joined lines are found again. -/
theorem lines_intercalate {texts : List (List Char)} (h : ∀ text ∈ texts, '\n' ∉ text) :
    lines (['\n'].intercalate texts) = closeLines texts := by
  cases texts with
  | nil => rfl
  | cons text texts => rw [lines, List.splitOn_intercalate _ h (List.cons_ne_nil _ _)]

theorem newline_not_mem_of_mem_lines {text line : List Char} (h : line ∈ lines text) :
    '\n' ∉ line := by
  obtain ⟨raws, hmade⟩ := exists_madeOf '\n' text
  induction hmade with
  | nil => cases h
  | last free ne =>
      rw [lines_of_not_mem free ne, List.mem_singleton] at h
      rw [h]
      exact free
  | @cons cut text raws free _ ih =>
      rw [lines_append_newline free] at h
      rcases List.mem_cons.mp h with rfl | h
      · intro hmem
        have hstart := dropReturn_prefix cut
        exact free (hstart.subset hmem)
      · exact ih h

/-! ## Readers

A reader takes a line with its number, and comes to an item or to nothing. -/

section Reader

variable {α β γ : Type} {read : Nat × List Char → Option α}

/-- What lines come to one by one. The last of them is ended by no newline, and is no line if it is
empty. -/
theorem filterMap_closeLines (hempty : ∀ k, read (k, []) = none) {texts : List (List Char)}
    {items : List (Option α)}
    (h : List.Forall₂ (fun text item => ∀ k, read (k, text) = item ∧
      read (k, dropReturn text) = item) texts items) (k : Nat) :
    (numberedFrom k (closeLines texts)).filterMap read = items.reduceOption := by
  have hcons : ∀ k line (lines : List (List Char)),
      (numberedFrom k (line :: lines)).filterMap read =
        (read (k, line)).toList ++ (numberedFrom (k + 1) lines).filterMap read := by
    intro k line lines
    rw [numberedFrom, List.filterMap_cons]
    cases read (k, line) <;> rfl
  induction h generalizing k with
  | nil => rfl
  | @cons text item _ _ hread h ih =>
      cases h with
      | nil =>
          rw [closeLines]
          split
          · next hlast =>
            obtain rfl := List.isEmpty_iff.mp hlast
            rw [← (hread k).1, hempty k]
            rfl
          · rw [hcons, (hread k).1]
            cases item <;> rfl
      | cons =>
          rw [closeLines, hcons, (hread k).2, ih]
          cases item <;> rfl

/-- **Joined lines come to what they come to one by one**, if a carriage return at the end makes no
difference to any of them. -/
theorem filterMap_lines (hempty : ∀ k, read (k, []) = none) {texts : List (List Char)}
    {items : List (Option α)}
    (h : List.Forall₂ (fun text item => '\n' ∉ text ∧
      ∀ k, read (k, text) = item ∧ read (k, dropReturn text) = item) texts items) :
    (numbered (lines (['\n'].intercalate texts))).filterMap read = items.reduceOption := by
  obtain ⟨hnewline, hread⟩ := (List.forall₂_and_left texts items).mp h
  rw [lines_intercalate hnewline]
  exact filterMap_closeLines hempty hread 1

/-- If just the elements with a property come to something, then what all come to is what these come
to, in their order. -/
theorem forall₂_filter_filterMap {R : α → β → Prop} {p : α → Bool} {f : α → Option β}
    (hsome : ∀ a, p a = true → ∃ b, f a = some b ∧ R a b) (hnone : ∀ a, p a = false → f a = none)
    (as : List α) : List.Forall₂ R (as.filter p) (as.filterMap f) := by
  rw [← List.filterMap_eq_filter]
  refine List.rel_filterMap (R := Eq) ?_ (List.forall₂_refl as)
  rintro a _ rfl
  cases hp : p a with
  | true =>
      obtain ⟨b, hb, hR⟩ := hsome a hp
      rw [hb, Option.guard_pos hp]
      exact .some hR
  | false =>
      rw [hnone a hp, Option.guard, if_neg (by simp [hp])]
      exact .none

/-- Elements that come to one of two things each are counted by these. -/
theorem length_eq_add_of_exclusive {f : α → Option β} {g : α → Option γ}
    (h : ∀ a, (f a).isSome = !(g a).isSome) (as : List α) :
    as.length = (as.filterMap f).length + (as.filterMap g).length := by
  induction as with
  | nil => rfl
  | cons a as ih =>
      have ha := h a
      rw [List.length_cons, ih]
      cases hf : f a <;> cases hg : g a <;> rw [hf, hg] at ha
      case none.none | some.some => cases ha
      case none.some => simp only [List.filterMap_cons, hf, hg, List.length_cons]; omega
      case some.none => simp only [List.filterMap_cons, hf, hg, List.length_cons]; omega

end Reader

end Text

namespace Listing

/-- The first records of a listing, as a listing of their own. -/
def firstRecords (count : Nat) (listing : String) : String :=
  String.ofList (((records listing).take count).flatMap fun raw => raw ++ ['\n'])

theorem records_firstRecords (count : Nat) (listing : String) :
    records (firstRecords count listing) = (records listing).take count := by
  rw [records, firstRecords, String.toList_ofList, Text.records_flatMap]
  intro raw hraw
  exact Text.newline_not_mem_of_mem_records (List.mem_of_mem_take hraw)

/-- A listing that ends in a newline keeps its records when another one follows it. -/
theorem records_append {front : String} (h : front = "" ∨ front.toList.getLast? = some '\n')
    (rest : String) : records (front ++ rest) = records front ++ records rest := by
  rw [records, String.toList_append, Text.records_append (h.imp_left (congrArg String.toList)),
    records, records]

end Listing

end CallForest
