import CallForest.Listing.Line
import Mathlib.Data.List.Chain
import Mathlib.Data.List.Nodup

/-!
# Nesting of the lines of a listing

A line is nested in an earlier one by its indentation alone. This module says which earlier line
that is, in two ways that agree as long as no line is more than one level deeper than the line
before it (`head?_openBelow`):

* `parent?` — the last earlier line one level further out;
* `opener?` — the innermost line that is still open, when every line opens one frame and closes a
  frame for each level that it goes back.

A line that leaves levels out still opens a single frame, so from there on frames and levels differ
by the levels left out (`leftOut`), and it is the *height* of a line, its level less the levels left
out up to it, that counts frames (`length_openBelow`).

Histories are lists of lines with the last line first.
-/

namespace CallForest.Listing

/-! ## Reading all records -/

/-- The records of a text that is given by its characters. -/
theorem records_ofList (cs : List Char) : records (String.ofList cs) = Text.records cs := by
  rw [records, String.toList_ofList]

theorem toList_ofList_append (cs ds : List Char) :
    (String.ofList cs ++ String.ofList ds).toList = cs ++ ds := by
  rw [← String.ofList_append, String.toList_ofList]

theorem records_ofList_append (cs ds : List Char) :
    records (String.ofList cs ++ String.ofList ds) = Text.records (cs ++ ds) := by
  rw [records, toList_ofList_append]

/-- Reads every record, the first of them having the number `lineNo`. -/
def readAll : Nat → List (List Char) → Except LineError (List Line)
  | _, [] => .ok []
  | lineNo, raw :: rest =>
    match Line.parse lineNo raw with
    | .error e => .error e
    | .ok line => (readAll (lineNo + 1) rest).map (line :: ·)

/-- A line whose spaces make a whole number of levels. -/
def Line.Aligned (l : Line) : Prop := l.indent = indentUnit * l.level

theorem parse_lineNo {n : Nat} {raw : List Char} {l : Line} (h : Line.parse n raw = .ok l) :
    l.lineNo = n := by
  unfold Line.parse at h
  simp only at h
  split at h
  · cases h
  · split at h
    · cases h
    · split at h
      · cases h
      · split at h
        · cases h
        · cases h
          rfl

theorem parse_aligned {n : Nat} {raw : List Char} {l : Line} (h : Line.parse n raw = .ok l) :
    l.Aligned := by
  unfold Line.parse at h
  simp only at h
  split at h
  · cases h
  · split at h
    · cases h
    · split at h
      · cases h
      · split at h
        · cases h
        · rename_i hmod
          cases h
          unfold Line.Aligned Line.level indentUnit at *
          simp only at *
          omega

theorem readAll_cons {n : Nat} {raw : List Char} {rest : List (List Char)} {lines : List Line}
    (h : readAll n (raw :: rest) = .ok lines) :
    ∃ l ls, Line.parse n raw = .ok l ∧ readAll (n + 1) rest = .ok ls ∧ lines = l :: ls := by
  rw [readAll] at h
  cases hl : Line.parse n raw with
  | error e => rw [hl] at h; cases h
  | ok l =>
      rw [hl] at h
      cases hs : readAll (n + 1) rest with
      | error e => rw [hs] at h; cases h
      | ok ls =>
          rw [hs] at h
          cases h
          exact ⟨l, ls, rfl, rfl, rfl⟩

theorem readAll_aligned {n : Nat} {raws : List (List Char)} {lines : List Line}
    (h : readAll n raws = .ok lines) : ∀ l ∈ lines, l.Aligned := by
  induction raws generalizing n lines with
  | nil =>
      cases h
      simp
  | cons raw rest ih =>
      obtain ⟨l, ls, hl, hs, rfl⟩ := readAll_cons h
      intro x hx
      rcases List.mem_cons.mp hx with rfl | hx
      · exact parse_aligned hl
      · exact ih hs x hx

/-- Lines are numbered upwards, so no two lines of a listing are the same. -/
theorem readAll_lineNos {n : Nat} {raws : List (List Char)} {lines : List Line}
    (h : readAll n raws = .ok lines) : lines.map Line.lineNo = List.range' n lines.length := by
  induction raws generalizing n lines with
  | nil =>
      cases h
      rfl
  | cons raw rest ih =>
      obtain ⟨l, ls, hl, hs, rfl⟩ := readAll_cons h
      rw [List.map_cons, List.length_cons, List.range'_succ, ih hs, parse_lineNo hl]

theorem readAll_length {n : Nat} {raws : List (List Char)} {lines : List Line}
    (h : readAll n raws = .ok lines) : lines.length = raws.length := by
  induction raws generalizing n lines with
  | nil =>
      cases h
      rfl
  | cons raw rest ih =>
      obtain ⟨l, ls, -, hs, rfl⟩ := readAll_cons h
      rw [List.length_cons, List.length_cons, ih hs]

theorem readAll_nodup {n : Nat} {raws : List (List Char)} {lines : List Line}
    (h : readAll n raws = .ok lines) : lines.Nodup := by
  apply List.Nodup.of_map Line.lineNo
  rw [readAll_lineNos h]
  exact List.nodup_range'

/-- Less indented means further out. -/
theorem Line.Aligned.indent_lt_iff {l p : Line} (hl : l.Aligned) (hp : p.Aligned) :
    p.indent < l.indent ↔ p.level < l.level := by
  unfold Line.Aligned indentUnit at *
  omega

theorem Line.Aligned.indent_pos_iff {l : Line} (hl : l.Aligned) : 0 < l.indent ↔ 0 < l.level := by
  unfold Line.Aligned indentUnit at *
  omega

/-! ## The parent of a line -/

/-- Each line with the lines before it, of which the nearest comes first; `before` are the lines
before the first one. -/
def withEarlier (before : List Line) : List Line → List (List Line × Line)
  | [] => []
  | l :: ls => (before, l) :: withEarlier (l :: before) ls

/-- The last earlier line one level further out. -/
def parent? (before : List Line) (l : Line) : Option Line :=
  before.find? fun p => p.level + 1 = l.level

/-- The first line is a root, and no line is more than one level below the line before it. -/
structure WellNested (lines : List Line) : Prop where
  root_first : ∀ l ∈ lines.head?, l.level = 0
  step : lines.IsChain fun p l => l.level ≤ p.level + 1

/-! ## Levels left out -/

/-- How many levels the lines of a history leave out below the line before them. -/
def leftOut : List Line → Nat
  | l :: p :: before => (l.level - (p.level + 1)) + leftOut (p :: before)
  | _ => 0

/-- The level of the last line of a history, less the levels left out. -/
def height : List Line → Nat
  | [] => 0
  | l :: before => l.level - leftOut (l :: before)

/-- The open lines of a history as far as they are lower than `h`, the innermost first: each line
that is lower than `h` and lower than all lines after it. -/
def openBelow (h : Nat) : List Line → List Line
  | [] => []
  | p :: before =>
    if height (p :: before) < h then p :: openBelow (height (p :: before)) before
    else openBelow h before

/-- The line that a new line finds innermost once it has closed what it ends. -/
def opener? (before : List Line) (l : Line) : Option Line :=
  (openBelow (height (l :: before)) before).head?

/-- Whether a line can follow a history: a first line is a root, and once levels were left out a
line goes back no further than to the first level above them. -/
def Admits : List Line → Line → Prop
  | [], l => l.level = 0
  | p :: before, l =>
    l.level < p.level → 0 < leftOut (p :: before) → leftOut (p :: before) < l.level

/-- A history of lines each of which can follow those before it. -/
def Accepted : List Line → Prop
  | [] => True
  | l :: before => Admits before l ∧ Accepted before

/-- Whether the lines can follow a history one after another. -/
def AdmitsAll (before : List Line) : List Line → Prop
  | [] => True
  | l :: ls => Admits before l ∧ AdmitsAll (l :: before) ls

theorem accepted_reverse_append {before lines : List Line} (acc : Accepted before)
    (h : AdmitsAll before lines) : Accepted (lines.reverse ++ before) := by
  induction lines generalizing before with
  | nil => exact acc
  | cons l ls ih =>
      have acc' : Accepted (l :: before) := ⟨h.1, acc⟩
      rw [List.reverse_cons, List.append_assoc]
      exact ih acc' h.2

theorem AdmitsAll.accepted {lines : List Line} (h : AdmitsAll [] lines) :
    Accepted lines.reverse := by
  have acc : Accepted [] := trivial
  have hrev := accepted_reverse_append acc h
  rwa [List.append_nil] at hrev

/-- A line of a listing with the lines before it is the history at some time. -/
theorem suffix_of_mem_withEarlier {before lines : List Line} {x : List Line × Line}
    (hx : x ∈ withEarlier before lines) : x.2 :: x.1 <:+ lines.reverse ++ before := by
  induction lines generalizing before with
  | nil => simp [withEarlier] at hx
  | cons l ls ih =>
      rw [List.reverse_cons, List.append_assoc, List.singleton_append]
      rcases List.mem_cons.mp hx with rfl | hx
      · exact List.suffix_append _ _
      · exact ih hx

theorem Accepted.of_suffix {s t : List Line} (acc : Accepted t) (h : s <:+ t) : Accepted s := by
  obtain ⟨later, rfl⟩ := h
  induction later with
  | nil => exact acc
  | cons l later ih => exact ih acc.2

theorem AdmitsAll.accepted_of_mem {lines : List Line} (h : AdmitsAll [] lines)
    {x : List Line × Line} (hx : x ∈ withEarlier [] lines) : Accepted (x.2 :: x.1) := by
  have hsuffix := suffix_of_mem_withEarlier hx
  rw [List.append_nil] at hsuffix
  exact h.accepted.of_suffix hsuffix

theorem leftOut_le_cons (l : Line) (before : List Line) :
    leftOut before ≤ leftOut (l :: before) := by
  cases before with
  | nil => exact Nat.le_refl _
  | cons p before => exact Nat.le_add_left _ _

theorem leftOut_le_of_suffix {s t : List Line} (h : s <:+ t) : leftOut s ≤ leftOut t := by
  obtain ⟨later, rfl⟩ := h
  induction later with
  | nil => exact Nat.le_refl _
  | cons l later ih => exact Nat.le_trans ih (leftOut_le_cons l (later ++ s))

/-- Levels left out are never more than a nested line has. -/
theorem leftOut_lt_level {l : Line} {before : List Line} (h : Accepted (l :: before)) :
    leftOut (l :: before) = 0 ∨ leftOut (l :: before) < l.level := by
  induction before generalizing l with
  | nil => exact .inl rfl
  | cons p before ih =>
      obtain ⟨hl, hp⟩ := h
      have hi := ih hp
      unfold Admits at hl
      rw [leftOut]
      omega

theorem height_add_leftOut {l : Line} {before : List Line} (h : Accepted (l :: before)) :
    height (l :: before) + leftOut (l :: before) = l.level := by
  have := leftOut_lt_level h
  rw [height]
  omega

theorem height_pos {l : Line} {before : List Line} (h : Accepted (l :: before))
    (hl : 0 < l.level) : 0 < height (l :: before) := by
  have := leftOut_lt_level h
  rw [height]
  omega

/-- A line is at most one frame above the line before it. -/
theorem height_cons_le {l : Line} {before : List Line} (h : Accepted (l :: before)) :
    height (l :: before) ≤ height before + 1 := by
  cases before with
  | nil =>
      have hl : l.level = 0 := h.1
      simp only [height]
      omega
  | cons p before =>
      have hp := leftOut_lt_level h.2
      simp only [height, leftOut]
      omega

/-- A line deeper than the line before it is one frame above it. -/
theorem height_cons_of_lt {l p : Line} {before : List Line} (h : Accepted (p :: before))
    (hlt : p.level < l.level) : height (l :: p :: before) = height (p :: before) + 1 := by
  have hp := leftOut_lt_level h
  simp only [height, leftOut]
  omega

/-- A line no deeper than the line before it is as many frames below it as levels. -/
theorem height_cons_of_le {l p : Line} {before : List Line} (hle : l.level ≤ p.level) :
    height (l :: p :: before) = height (p :: before) - (p.level - l.level) := by
  simp only [height, leftOut]
  omega

/-! ## Open lines -/

theorem openBelow_zero (before : List Line) : openBelow 0 before = [] := by
  induction before with
  | nil => rfl
  | cons p before ih => rw [openBelow, if_neg (Nat.not_lt_zero _), ih]

/-- A line is open below one more than its own height, with what is open below it. -/
theorem openBelow_succ_height (p : Line) (before : List Line) :
    openBelow (height (p :: before) + 1) (p :: before) =
      p :: openBelow (height (p :: before)) before := by
  rw [openBelow, if_pos (Nat.lt_succ_self _)]

theorem mem_of_mem_openBelow {h : Nat} {before : List Line} {p : Line}
    (hp : p ∈ openBelow h before) : p ∈ before := by
  induction before generalizing h with
  | nil => exact hp
  | cons q before ih =>
      rw [openBelow] at hp
      split at hp
      · rcases List.mem_cons.mp hp with rfl | hp
        · exact List.mem_cons_self
        · exact List.mem_cons_of_mem _ (ih hp)
      · exact List.mem_cons_of_mem _ (ih hp)

/-- As many frames are open below a height as the height says. -/
theorem length_openBelow {h : Nat} {before : List Line} (acc : Accepted before)
    (hne : before ≠ []) (hh : h ≤ height before + 1) : (openBelow h before).length = h := by
  induction before generalizing h with
  | nil => exact absurd rfl hne
  | cons p before ih =>
      have hp := height_cons_le acc
      cases before with
      | nil =>
          have hlevel : p.level = 0 := acc.1
          simp only [height, leftOut] at hh
          by_cases hz : h = 0
          · rw [hz, openBelow_zero, List.length_nil]
          · have hlow : height [p] < h := by
              simp only [height, leftOut]
              omega
            rw [openBelow, if_pos hlow, openBelow, List.length_singleton]
            omega
      | cons q before =>
          rw [openBelow]
          split
          · rw [List.length_cons, ih acc.2 (List.cons_ne_nil _ _) hp]
            omega
          · exact ih acc.2 (List.cons_ne_nil _ _) (by omega)

/-- Closing frames leaves what is open below a smaller height. -/
theorem drop_openBelow {h j : Nat} {before : List Line} (acc : Accepted before)
    (hh : h ≤ height before + 1) : (openBelow h before).drop j = openBelow (h - j) before := by
  induction before generalizing h j with
  | nil => simp [openBelow]
  | cons p before ih =>
      have hp := height_cons_le acc
      by_cases hlt : height (p :: before) < h
      · cases j with
        | zero => rfl
        | succ j =>
            rw [openBelow, if_pos hlt, List.drop_succ_cons, ih acc.2 hp, openBelow,
              if_neg (by omega)]
            congr 1
            omega
      · rw [openBelow, if_neg hlt, ih acc.2 (by omega), openBelow, if_neg (by omega)]

/-! ## Well-nested lines -/

theorem leftOut_reverse_append {l : Line} {before ls : List Line}
    (hchain : (l :: ls).IsChain fun p l => l.level ≤ p.level + 1)
    (hzero : leftOut (l :: before) = 0) : leftOut (ls.reverse ++ l :: before) = 0 := by
  induction ls generalizing l before with
  | nil => exact hzero
  | cons m ls ih =>
      rw [List.isChain_cons_cons] at hchain
      rw [List.reverse_cons, List.append_assoc, List.singleton_append]
      apply ih hchain.2
      rw [leftOut]
      omega

theorem wellNested_cons {l : Line} {ls : List Line} (h : WellNested (l :: ls)) : l.level = 0 :=
  h.root_first l rfl

/-- A well-nested listing leaves no level out. -/
theorem WellNested.leftOut_reverse {lines : List Line} (h : WellNested lines) :
    leftOut lines.reverse = 0 := by
  cases lines with
  | nil => rfl
  | cons l ls =>
      rw [List.reverse_cons]
      exact leftOut_reverse_append h.step rfl

theorem WellNested.leftOut_of_mem {lines : List Line} (h : WellNested lines)
    {x : List Line × Line} (hx : x ∈ withEarlier [] lines) : leftOut (x.2 :: x.1) = 0 := by
  have hle := leftOut_le_of_suffix (suffix_of_mem_withEarlier hx)
  rw [List.append_nil, h.leftOut_reverse] at hle
  exact Nat.le_zero.mp hle

/-- Lines that leave no level out can follow a history that leaves none out. -/
theorem admitsAll_of_isChain {l : Line} {before ls : List Line}
    (hchain : (l :: ls).IsChain fun p l => l.level ≤ p.level + 1)
    (hzero : leftOut (l :: before) = 0) : AdmitsAll (l :: before) ls := by
  induction ls generalizing l before with
  | nil => trivial
  | cons m ls ih =>
      rw [List.isChain_cons_cons] at hchain
      refine ⟨fun _ hpos => by omega, ih hchain.2 ?_⟩
      rw [leftOut]
      omega

theorem WellNested.admitsAll {lines : List Line} (h : WellNested lines) : AdmitsAll [] lines := by
  cases lines with
  | nil => trivial
  | cons l ls => exact ⟨wellNested_cons h, admitsAll_of_isChain h.step rfl⟩

/-- Where no level is left out, the innermost line below a height is the last one just below it. -/
theorem head?_openBelow {h : Nat} {before : List Line} (acc : Accepted before)
    (hzero : leftOut before = 0) (hh : h ≤ height before + 1) :
    (openBelow h before).head? = before.find? fun p => p.level + 1 = h := by
  induction before generalizing h with
  | nil => rfl
  | cons p before ih =>
      have hp := height_cons_le acc
      have hlevel : height (p :: before) = p.level := by rw [height, hzero, Nat.sub_zero]
      have hbefore : leftOut before = 0 := Nat.le_zero.mp (hzero ▸ leftOut_le_cons p before)
      rw [openBelow, List.find?_cons]
      by_cases hlt : height (p :: before) < h
      · have heq : p.level + 1 = h := by omega
        rw [if_pos hlt, List.head?_cons, decide_eq_true heq]
      · have hne : ¬ p.level + 1 = h := by omega
        rw [if_neg hlt, ih acc.2 hbefore (by omega), decide_eq_false hne]

/-- Where no level is left out, the line left open innermost is the parent. -/
theorem opener?_eq_parent? {l : Line} {before : List Line} (acc : Accepted (l :: before))
    (hzero : leftOut (l :: before) = 0) : opener? before l = parent? before l := by
  have hlevel : height (l :: before) = l.level := by rw [height, hzero, Nat.sub_zero]
  have hbefore : leftOut before = 0 := Nat.le_zero.mp (hzero ▸ leftOut_le_cons l before)
  rw [opener?, parent?, head?_openBelow acc.2 hbefore (height_cons_le acc), hlevel]

/-- An accepted line that is nested finds an open line. -/
theorem isSome_opener? {l : Line} {before : List Line} (acc : Accepted (l :: before))
    (hl : 0 < l.level) : (opener? before l).isSome := by
  have hpos := height_pos acc hl
  have hne : before ≠ [] := by
    rintro rfl
    exact absurd (show l.level = 0 from acc.1) (by omega)
  have hlength := length_openBelow acc.2 hne (height_cons_le acc)
  rw [opener?, List.isSome_head?]
  intro hnil
  rw [hnil, List.length_nil] at hlength
  omega

end CallForest.Listing
