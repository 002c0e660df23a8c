import CallForest.Proofs.Listing.Grammar
import CallForest.Proofs.Text.Lines
import CallForest.Proofs.Listing.WellNested
import CallForest.Proofs.Tree.Forest

/-!
# Forests printed as listings

A forest is printed name by name, each at its level behind four spaces for every level. If each name
is one word, the listing is read line by line as it was printed (`readAll_listing`), it is
well-nested, and the calls that its nesting expresses are those of the forest (`nestedCalls_lines`).
-/

namespace CallForest

open Listing Reconstruction

/-- A name that a listing shows as one word: not empty, and without white space. -/
def IsWord (name : String) : Prop :=
  name ≠ "" ∧ ∀ c ∈ name.toList, Text.isBlank c = false

instance (name : String) : Decidable (IsWord name) :=
  decidable_of_iff (name ≠ "" ∧ name.toList.all (fun c => !Text.isBlank c) = true)
    (by simp [IsWord])

namespace Forest

/-- The names of a forest with their levels, its roots standing at the given level. -/
def rows (level : Nat) : Forest → List (Nat × String)
  | nil => []
  | cons name below behind => (level, name) :: (rows (level + 1) below ++ rows level behind)

/-- A name at its level. -/
def printRow (row : Nat × String) : List Char :=
  List.replicate (4 * row.1) ' ' ++ (row.2.toList ++ ['(', ')'])

/-- The listing of a forest, a line for each name. -/
def listing (f : Forest) : String :=
  String.ofList ((rows 0 f).flatMap fun row => printRow row ++ ['\n'])

/-- The lines of rows, the first of them having the number `n`. -/
def linesFrom (n : Nat) : List (Nat × String) → List Line
  | [] => []
  | row :: rows => ⟨n, 4 * row.1, row.2⟩ :: linesFrom (n + 1) rows

/-- The lines of a forest's listing. -/
def lines (f : Forest) : List Line :=
  linesFrom 1 (rows 0 f)

/-- The edges of a forest's calls. -/
def edges (node : String → Node) (f : Forest) : List Edge :=
  (f.calls none).map fun c => ⟨node c.1, node c.2⟩

/-! ## Reading a printed row -/

theorem parse_printRow (n : Nat) {row : Nat × String} (h : IsWord row.2) :
    Line.parse n (printRow row) = .ok ⟨n, 4 * row.1, row.2⟩ := by
  have hspelled : printRow row = spelled row.1 (row.2.toList ++ ['(', ')']) [] := by
    rw [spelled, List.append_nil]
    rfl
  rw [hspelled]
  exact parse_spelled n row.1 h.1 (.inl rfl) (not_blank_marked h.2) (by simp)

theorem newline_not_mem_printRow {row : Nat × String} (h : IsWord row.2) :
    '\n' ∉ printRow row := by
  intro hmem
  rcases List.mem_append.mp hmem with hmem | hmem
  · cases List.eq_of_mem_replicate hmem
  · rcases List.mem_append.mp hmem with hmem | hmem
    · cases h.2 _ hmem
    · rw [List.mem_pair] at hmem
      rcases hmem with heq | heq <;> cases heq

/-! ## Reading a printed forest -/

theorem records_printed {rs : List (Nat × String)} (h : ∀ row ∈ rs, IsWord row.2) :
    Text.records (rs.flatMap fun row => printRow row ++ ['\n']) = rs.map printRow := by
  have hclosed : (rs.flatMap fun row => printRow row ++ ['\n']) =
      (rs.map printRow).flatMap fun raw => raw ++ ['\n'] := by
    rw [List.flatMap_map]
  rw [hclosed, Text.records_flatMap]
  intro raw hraw
  obtain ⟨row, hrow, rfl⟩ := List.mem_map.mp hraw
  exact newline_not_mem_printRow (h row hrow)

theorem readAll_printed {rs : List (Nat × String)} (h : ∀ row ∈ rs, IsWord row.2) (n : Nat) :
    readAll n (rs.map printRow) = .ok (linesFrom n rs) := by
  induction rs generalizing n with
  | nil => rfl
  | cons row rs ih =>
      obtain ⟨hrow, hrs⟩ := List.forall_mem_cons.mp h
      rw [List.map_cons, readAll, parse_printRow n hrow]
      simp only [ih hrs]
      rfl

theorem map_snd_rows (level : Nat) (f : Forest) : (rows level f).map Prod.snd = f.names := by
  induction f generalizing level with
  | nil => rfl
  | cons name below behind ihBelow ihBehind =>
      rw [rows, List.map_cons, List.map_append, ihBelow, ihBehind, names]

/-- The listing of a forest is read as it was printed. -/
theorem readAll_listing {f : Forest} (h : ∀ name ∈ f.names, IsWord name) :
    readAll 1 (records f.listing) = .ok f.lines := by
  have hrows : ∀ row ∈ rows 0 f, IsWord row.2 := by
    intro row hrow
    apply h
    rw [← map_snd_rows 0 f]
    exact List.mem_map_of_mem hrow
  rw [records, listing, String.toList_ofList, records_printed hrows]
  exact readAll_printed hrows 1

/-! ## Nesting of a printed forest -/

theorem linesFrom_append (n : Nat) (rs ss : List (Nat × String)) :
    linesFrom n (rs ++ ss) = linesFrom n rs ++ linesFrom (n + rs.length) ss := by
  induction rs generalizing n with
  | nil => rfl
  | cons row rs ih =>
      rw [List.cons_append, linesFrom, ih, linesFrom, List.cons_append, List.length_cons,
        Nat.add_assoc, Nat.add_comm 1]

theorem level_line (n : Nat) (row : Nat × String) :
    Line.level ⟨n, 4 * row.1, row.2⟩ = row.1 := by
  rw [Line.level, indentUnit, Nat.mul_div_cancel_left _ (by decide)]

theorem map_level_linesFrom (n : Nat) (rs : List (Nat × String)) :
    (linesFrom n rs).map Line.level = rs.map Prod.fst := by
  induction rs generalizing n with
  | nil => rfl
  | cons row rs ih => rw [linesFrom, List.map_cons, level_line, ih, List.map_cons]

/-- No row of a forest is further out than its roots. -/
theorem le_of_mem_rows {level : Nat} {f : Forest} {row : Nat × String} (h : row ∈ rows level f) :
    level ≤ row.1 := by
  induction f generalizing level with
  | nil => cases h
  | cons name below behind ihBelow ihBehind =>
      rcases List.mem_cons.mp h with rfl | h
      · exact Nat.le_refl _
      · rcases List.mem_append.mp h with h | h
        · exact Nat.le_of_succ_le (ihBelow h)
        · exact ihBehind h

theorem le_level_of_mem_linesFrom {n level : Nat} {f : Forest} {l : Line}
    (h : l ∈ linesFrom n (rows level f)) : level ≤ l.level := by
  have hmem : l.level ∈ (rows level f).map Prod.fst := by
    rw [← map_level_linesFrom n]
    exact List.mem_map_of_mem h
  obtain ⟨row, hrow, heq⟩ := List.mem_map.mp hmem
  rw [← heq]
  exact le_of_mem_rows hrow

theorem head?_rows {level : Nat} {f : Forest} : ∀ row ∈ (rows level f).head?, row.1 = level := by
  cases f with
  | nil => simp [rows]
  | cons name below behind => simp [rows]

theorem isChain_rows (level : Nat) (f : Forest) :
    (rows level f).IsChain fun p r => r.1 ≤ p.1 + 1 := by
  induction f generalizing level with
  | nil => exact List.isChain_nil
  | cons name below behind ihBelow ihBehind =>
      rw [rows, ← List.cons_append]
      refine List.isChain_append.mpr ⟨?_, ihBehind level, ?_⟩
      · refine List.isChain_cons.mpr ⟨?_, ihBelow (level + 1)⟩
        intro row hrow
        rw [head?_rows row hrow]
      · intro p hp r hr
        have hlevel : level ≤ p.1 := by
          rcases List.mem_cons.mp (List.mem_of_getLast? hp) with rfl | hp
          · exact Nat.le_refl _
          · exact Nat.le_of_succ_le (le_of_mem_rows hp)
        rw [head?_rows r hr]
        exact Nat.le_succ_of_le hlevel

/-- A printed forest is well-nested. -/
theorem wellNested_lines (f : Forest) : WellNested f.lines where
  root_first l hl := by
    have hlevel : l.level ∈ ((rows 0 f).map Prod.fst).head? := by
      rw [← map_level_linesFrom 1, List.head?_map]
      exact Option.mem_map_of_mem _ hl
    rw [List.head?_map, Option.mem_def, Option.map_eq_some_iff] at hlevel
    obtain ⟨row, hrow, heq⟩ := hlevel
    rw [← heq]
    exact head?_rows row hrow
  step := by
    have hlevels : ((lines f).map Line.level).IsChain fun p l => l ≤ p + 1 := by
      rw [lines, map_level_linesFrom, List.isChain_map]
      exact isChain_rows 0 f
    rwa [List.isChain_map] at hlevels

/-! ## Calls of a printed forest -/

theorem withEarlier_append (before xs ys : List Line) :
    withEarlier before (xs ++ ys) =
      withEarlier before xs ++ withEarlier (xs.reverse ++ before) ys := by
  induction xs generalizing before with
  | nil => rfl
  | cons x xs ih =>
      rw [List.cons_append, withEarlier, ih, withEarlier, List.cons_append, List.reverse_cons,
        List.append_assoc, List.singleton_append]

/-- Lines no further out than a level are no parents at that level. -/
theorem find?_parent_skip {level : Nat} {xs before : List Line} (h : ∀ l ∈ xs, level ≤ l.level) :
    (xs.reverse ++ before).find? (fun p => p.level + 1 = level) =
      before.find? fun p => p.level + 1 = level := by
  rw [List.find?_append, List.find?_eq_none.mpr, Option.none_or]
  intro l hl heq
  have hle := h l (List.mem_reverse.mp hl)
  rw [decide_eq_true_iff] at heq
  omega

/-- The lines of a forest, printed behind a history, have as parents the callers in the forest, the
roots having the parent that the history holds for their level. -/
theorem filterMap_parent?_linesFrom {α : Type} (g : String → String → Option α) (n level : Nat)
    (f : Forest) (before : List Line) (caller : Option String)
    (h : (before.find? fun p => p.level + 1 = level).map Line.name = caller) :
    ((withEarlier before (linesFrom n (rows level f))).filterMap fun x =>
      (parent? x.1 x.2).bind fun p => g p.name x.2.name) =
      (f.calls caller).filterMap fun c => g c.1 c.2 := by
  induction f generalizing n level before caller with
  | nil => rfl
  | cons name below behind ihBelow ihBehind =>
      have hline : Line.level ⟨n, 4 * level, name⟩ = level := level_line n (level, name)
      have hparent : (parent? before ⟨n, 4 * level, name⟩).bind (fun p => g p.name name) =
          caller.bind fun c => g c name := by
        rw [parent?, hline, ← h, Option.bind_map]
        rfl
      -- below, the line itself is the parent of the roots
      have hroot : ((⟨n, 4 * level, name⟩ :: before : List Line).find?
          fun p => p.level + 1 = level + 1).map Line.name = some name := by
        rw [List.find?_cons, hline, decide_eq_true rfl]
        rfl
      have hbelow := ihBelow (n + 1) (level + 1) _ _ hroot
      -- behind, nothing printed since stands further out
      have hout : (((linesFrom (n + 1) (rows (level + 1) below)).reverse ++
          ⟨n, 4 * level, name⟩ :: before).find? fun p => p.level + 1 = level).map Line.name =
            caller := by
        rw [find?_parent_skip fun l hl => Nat.le_of_succ_le (le_level_of_mem_linesFrom hl),
          List.find?_cons, hline, decide_eq_false (by omega)]
        exact h
      have hbehind := ihBehind (n + 1 + (rows (level + 1) below).length) level _ _ hout
      rw [rows, linesFrom, linesFrom_append, withEarlier, withEarlier_append, List.filterMap_cons,
        List.filterMap_append, hbelow, hbehind, calls, List.filterMap_append,
        List.filterMap_append]
      simp only [hparent]
      cases caller with
      | none => rfl
      | some c => cases hg : g c name <;> simp [hg]

/-- **The nesting of a printed forest expresses its calls**, if none of its names is hidden. -/
theorem nestedCalls_lines (resolve : String → Option Node) (skip : List String) {f : Forest}
    (h : ∀ name ∈ f.names, ¬ Hidden resolve skip name) :
    nestedCalls resolve skip f.lines = f.edges (nodeOf resolve) := by
  have hcalls := filterMap_parent?_linesFrom
    (fun p l => if Hidden resolve skip p ∨ Hidden resolve skip l then none
      else some (⟨nodeOf resolve p, nodeOf resolve l⟩ : Edge)) 1 0 f [] none rfl
  refine hcalls.trans ?_
  refine List.filterMap_eq_map_iff_forall_eq_some.mpr ?_
  intro c hc
  have hcaller := h c.1 ((caller_of_mem_calls hc).resolve_left (by simp))
  have hcallee := h c.2 (callee_of_mem_calls hc)
  exact if_neg (not_or.mpr ⟨hcaller, hcallee⟩)

end Forest

end CallForest
