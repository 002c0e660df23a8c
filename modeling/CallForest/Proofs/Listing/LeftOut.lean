import CallForest.Graph.Ledger
import CallForest.Proofs.Listing.Stops
import CallForest.Proofs.Listing.WellNested

/-!
# Listings that leave levels out

A listing may go down by several levels at once and still be read to its end. Each line is then
called by the innermost line left open (`opener?`), which is always indented less, but need not be
the nearest line that is. The two agree for a line exactly when it is *steady*: since the nearest
line that is indented less no level was left out, and the first line since then stands where the
line does (`opener?_eq_nearestShallower?_iff`).

A return in a listing with eight spaces to a level is not steady, and goes unnoticed as long as
frames enough are open (`misplaced_return`).
-/

namespace CallForest.Reconstruction

open Listing

/-- The nearest earlier line that is indented less. -/
def nearestShallower? (before : List Line) (l : Line) : Option Line :=
  before.find? fun p => p.indent < l.indent

/-- The lines since the nearest one that is indented less, the last first. -/
def sinceShallower (before : List Line) (l : Line) : List Line :=
  before.takeWhile fun p => l.indent ≤ p.indent

/-- Since the nearest line that is indented less no level was left out, and the first line since
then, which may be the line itself, is indented as the line is. -/
def Steady (before : List Line) (l : Line) : Prop :=
  leftOut (l :: sinceShallower before l) = 0 ∧
    ((sinceShallower before l).getLastD l).indent = l.indent

instance (before : List Line) (l : Line) : Decidable (Steady before l) :=
  inferInstanceAs (Decidable (_ ∧ _))

/-- The calls of a listing if each nested line is called by the nearest line indented less. -/
def shallowCalls (resolve : String → Option Node) (lines : List Line) : List Edge :=
  (withEarlier [] lines).filterMap fun x =>
    (nearestShallower? x.1 x.2).map fun p => ⟨nodeOf resolve p.name, nodeOf resolve x.2.name⟩

/-- The calls of a listing if each line is called by the innermost line left open. -/
def openCalls (resolve : String → Option Node) (lines : List Line) : List Edge :=
  (withEarlier [] lines).filterMap fun x =>
    (opener? x.1 x.2).map fun p => ⟨nodeOf resolve p.name, nodeOf resolve x.2.name⟩

/-! ## The innermost line left open -/

/-- The innermost open line below a height is as far out as its height and the levels left out. -/
theorem level_lt_of_head?_openBelow {h d : Nat} {before : List Line} {p : Line}
    (acc : Accepted before) (hd : leftOut before ≤ d)
    (hp : (openBelow h before).head? = some p) : p.level < h + d := by
  induction before with
  | nil => cases hp
  | cons q before ih =>
      rw [openBelow] at hp
      split at hp
      · cases hp
        have := height_add_leftOut acc
        omega
      · exact ih acc.2 (Nat.le_trans (leftOut_le_cons q before) hd) hp

theorem opener?_indent_lt {l p : Line} {before : List Line} (acc : Accepted (l :: before))
    (hl : l.Aligned) (hbefore : ∀ q ∈ before, q.Aligned) (hp : opener? before l = some p) :
    p ∈ before ∧ p.indent < l.indent := by
  have hmem : p ∈ before := mem_of_mem_openBelow (List.mem_of_mem_head? hp)
  have hlevel := level_lt_of_head?_openBelow acc.2 (leftOut_le_cons l before) hp
  rw [height_add_leftOut acc] at hlevel
  exact ⟨hmem, (hl.indent_lt_iff (hbefore p hmem)).mpr hlevel⟩

/-- The two callers of a line compared line by line backwards. `c` is the line reached so far: it
and all lines after it are indented no less than `l`, and have at least its height `h`; `d` levels
are left out up to `l`. -/
theorem head?_openBelow_eq_find?_iff {l c : Line} {before : List Line} {h d : Nat}
    (hl : l.Aligned) (hsum : h + d = l.level) (hpos : d < l.level) (acc : Accepted (c :: before))
    (haligned : ∀ p ∈ c :: before, p.Aligned) (hnodup : before.Nodup)
    (hheight : h ≤ height (c :: before)) (hlevel : l.level ≤ c.level)
    (hout : leftOut (c :: before) ≤ d) :
    (openBelow h before).head? = before.find? (fun p => p.indent < l.indent) ↔
      leftOut (c :: before) = d ∧ leftOut (c :: sinceShallower before l) = 0 ∧
        ((sinceShallower before l).getLastD c).indent = l.indent := by
  induction before generalizing c with
  | nil =>
      have hc : c.level = 0 := acc.1
      omega
  | cons p before ih =>
      have hc := haligned c List.mem_cons_self
      have hp := haligned p (List.mem_cons_of_mem _ List.mem_cons_self)
      have hsumc := height_add_leftOut acc
      have hsump := height_add_leftOut acc.2
      have hle := height_cons_le acc
      have hstep := leftOut_le_cons c (p :: before)
      have hgap (ls : List Line) :
        leftOut (c :: p :: ls) = (c.level - (p.level + 1)) + leftOut (p :: ls) := rfl
      unfold sinceShallower
      rw [openBelow, List.find?_cons, List.takeWhile_cons]
      by_cases hshallow : p.indent < l.indent
      · -- `p` is the nearest line indented less, and `c` the first line since then
        have hlow := (hl.indent_lt_iff hp).mp hshallow
        rw [decide_eq_true hshallow, decide_eq_false (by omega)]
        simp only [List.getLastD_nil, Bool.false_eq_true, if_false]
        have hup := height_cons_of_lt acc.2 (l := c) (by omega)
        have hci : c.indent = l.indent ↔ c.level = l.level := by
          unfold Line.Aligned indentUnit at hc hl
          omega
        by_cases hopen : height (p :: before) < h
        · rw [if_pos hopen, List.head?_cons, hci]
          refine iff_of_true rfl ⟨by omega, rfl, by omega⟩
        · rw [if_neg hopen, hci]
          refine iff_of_false ?_ (by omega)
          intro heq
          have hmem : p ∈ before := mem_of_mem_openBelow (List.mem_of_mem_head? heq)
          exact (List.nodup_cons.mp hnodup).1 hmem
      · have hhigh := (not_congr (hl.indent_lt_iff hp)).mp hshallow
        have hopen : ¬ height (p :: before) < h := by omega
        rw [if_neg hopen, decide_eq_false hshallow, decide_eq_true (by omega)]
        have hrest := ih acc.2 (fun q hq => haligned q (List.mem_cons_of_mem _ hq))
          (List.nodup_cons.mp hnodup).2 (by omega) (by omega) (by omega)
        unfold sinceShallower at hrest
        simp only [if_true, List.getLastD_cons, hrest, hgap]
        have := hgap before
        omega

/-- **When a line finds its nearest shallower line.** The innermost line left open is the nearest
one indented less exactly for steady lines. -/
theorem opener?_eq_nearestShallower?_iff {l : Line} {before : List Line}
    (acc : Accepted (l :: before)) (hl : l.Aligned) (hbefore : ∀ p ∈ before, p.Aligned)
    (hnodup : before.Nodup) (hpos : 0 < l.level) :
    opener? before l = nearestShallower? before l ↔ Steady before l := by
  have hsum := height_add_leftOut acc
  have hlt := height_pos acc hpos
  have hiff := head?_openBelow_eq_find?_iff hl hsum (by omega) acc
    (List.forall_mem_cons.mpr ⟨hl, hbefore⟩) hnodup (Nat.le_refl _) (Nat.le_refl _) (Nat.le_refl _)
  rw [opener?, nearestShallower?, hiff]
  exact ⟨fun h => h.2, fun h => ⟨rfl, h⟩⟩

/-! ## Accepted listings -/

/-- Without names to skip, the calls are those from the lines left open. -/
theorem callsAfter_eq_openCalls (resolve : String → Option Node) (lines : List Line) :
    callsAfter (frameAt resolve []) [] lines = openCalls resolve lines := by
  unfold callsAfter openCalls callAt
  apply List.filterMap_congr
  intro x _
  cases opener? x.1 x.2 with
  | none => rfl
  | some p => simp [link_frameAt, callBetween, Hidden]

/-- A root line has no caller, open or nearest. -/
theorem opener?_root {before : List Line} {l : Line} (hl : l.level = 0) :
    opener? before l = none := by
  rw [opener?, height, hl, Nat.zero_sub, openBelow_zero]
  rfl

theorem nearestShallower?_root {before : List Line} {l : Line} (hl : l.indent = 0) :
    nearestShallower? before l = none := by
  rw [nearestShallower?, List.find?_eq_none]
  intro p _
  simp [hl]

/-- A nested line of an accepted listing has an opener, and it is the nearest shallower line exactly
if the line is steady. -/
theorem exists_opener?_of_mem {raws : List (List Char)} {n : Nat} {lines : List Line}
    (hread : readAll n raws = .ok lines) (hall : AdmitsAll [] lines) {x : List Line × Line}
    (hx : x ∈ withEarlier [] lines) (hpos : 0 < x.2.indent) :
    ∃ p ∈ x.1, opener? x.1 x.2 = some p ∧ p.indent < x.2.indent ∧
      (nearestShallower? x.1 x.2 = some p ↔ Steady x.1 x.2) := by
  have hsuffix := suffix_of_mem_withEarlier hx
  rw [List.append_nil] at hsuffix
  have haligned : ∀ p ∈ x.2 :: x.1, p.Aligned := by
    intro p hp
    exact readAll_aligned hread p (List.mem_reverse.mp (hsuffix.subset hp))
  have hnodup := hsuffix.sublist.nodup (List.nodup_reverse.mpr (readAll_nodup hread))
  have acc := hall.accepted_of_mem hx
  obtain ⟨hl, hbefore⟩ := List.forall_mem_cons.mp haligned
  have hlevel := hl.indent_pos_iff.mp hpos
  obtain ⟨p, hp⟩ := Option.isSome_iff_exists.mp (isSome_opener? acc hlevel)
  obtain ⟨hmem, hlt⟩ := opener?_indent_lt acc hl hbefore hp
  have hiff := opener?_eq_nearestShallower?_iff acc hl hbefore
    (List.nodup_cons.mp hnodup).2 hlevel
  rw [hp, eq_comm] at hiff
  exact ⟨p, hmem, hp, hlt, hiff⟩

/-- **Where the calls of an accepted listing come from.** A listing that is read to its end, with no
name to skip, has a call for each nested line from an earlier line that is indented less; that line
is the nearest such line exactly if the nested line is steady, and if all nested lines are, the
listing has the calls from the nearest lines indented less. -/
theorem rebuild_accepted {σ : Type} [GraphStore σ] (store : σ) (listing : String)
    (h : (rebuild [] listing store).2.failure = none) :
    ∃ lines, readAll 1 (records listing) = .ok lines ∧
      (rebuild [] listing store).2.edges = openCalls (resolveNode store) lines ∧
      (∀ x ∈ withEarlier [] lines, 0 < x.2.indent →
        ∃ p ∈ x.1, opener? x.1 x.2 = some p ∧ p.indent < x.2.indent ∧
          (nearestShallower? x.1 x.2 = some p ↔ Steady x.1 x.2)) ∧
      ((∀ x ∈ withEarlier [] lines, 0 < x.2.indent → Steady x.1 x.2) →
        (rebuild [] listing store).2.edges = shallowCalls (resolveNode store) lines) := by
  obtain ⟨lines, hread, hall⟩ := admitsAll_of_reconstruct h
  have hrun := reconstruct_of_admitsAll (resolveNode store) [] hread hall
  have hedges : (rebuild [] listing store).2.edges = openCalls (resolveNode store) lines := by
    rw [← callsAfter_eq_openCalls]
    exact congrArg Outcome.edges hrun
  have hnested := fun x hx hpos => exists_opener?_of_mem hread hall (x := x) hx hpos
  refine ⟨lines, hread, hedges, hnested, ?_⟩
  intro hsteady
  rw [hedges, openCalls, shallowCalls]
  apply List.filterMap_congr
  intro x hx
  by_cases hpos : 0 < x.2.indent
  · obtain ⟨p, -, hp, -, hiff⟩ := hnested x hx hpos
    rw [hp, hiff.mpr (hsteady x hx hpos)]
  · have hzero : x.2.indent = 0 := by omega
    rw [opener?_root (by rw [Line.level, hzero, Nat.zero_div]), nearestShallower?_root hzero]

/-- A listing that leaves levels out and comes back to where it left them. -/
def leap : String :=
  "main()\n            far()\n                near()\n            back()\n"

/-- The lines of that listing. -/
def leapLines : List Line :=
  [⟨1, 0, "main"⟩, ⟨2, 12, "far"⟩, ⟨3, 16, "near"⟩, ⟨4, 12, "back"⟩]

theorem rebuild_leap :
    (rebuild [] leap Ledger.empty).2.failure = none ∧
      (rebuild [] leap Ledger.empty).2.edges =
        shallowCalls (resolveNode Ledger.empty) leapLines := by
  have hrun : (rebuild [] leap Ledger.empty).2.failure = none := by
    rw [rebuild, reconstruct, leap, records_ofList]
    decide +kernel
  have hleap : readAll 1 (records leap) = .ok leapLines := by
    rw [leap, records_ofList]
    decide +kernel
  obtain ⟨lines, hread, -, -, hsteady⟩ := rebuild_accepted Ledger.empty leap hrun
  cases hread.symm.trans hleap
  exact ⟨hrun, hsteady (by decide)⟩

/-- A listing with eight spaces to a level that returns by one level. -/
def eightSpaces : String :=
  "main()\n        foo()\n                bar()\n                        baz()\n" ++
    "                qux()\n"

/-- The lines of that listing. -/
def eightSpacesLines : List Line :=
  [⟨1, 0, "main"⟩, ⟨2, 8, "foo"⟩, ⟨3, 16, "bar"⟩, ⟨4, 24, "baz"⟩, ⟨5, 16, "qux"⟩]

/-- Not every listing that is read to its end has the calls from the nearest lines indented less: in
this one `qux` stands in `foo`, and is recorded as called by `main`. -/
theorem misplaced_return :
    ¬ ∀ (l : Ledger) (listing : String) (lines : List Line),
      (rebuild [] listing l).2.failure = none → readAll 1 (records listing) = .ok lines →
        (rebuild [] listing l).2.edges = shallowCalls (resolveNode l) lines := by
  intro h
  have htext : records eightSpaces = _ := records_ofList_append _ _
  have hread : readAll 1 (records eightSpaces) = .ok eightSpacesLines := by
    rw [htext]
    decide +kernel
  have hrun : (rebuild [] eightSpaces Ledger.empty).2.failure = none := by
    rw [rebuild, reconstruct, htext]
    decide +kernel
  have hedges : (rebuild [] eightSpaces Ledger.empty).2.edges =
      [⟨.unresolved "main", .unresolved "foo"⟩, ⟨.unresolved "foo", .unresolved "bar"⟩,
        ⟨.unresolved "bar", .unresolved "baz"⟩, ⟨.unresolved "main", .unresolved "qux"⟩] := by
    rw [rebuild, reconstruct, htext]
    decide +kernel
  have hshallow : shallowCalls (resolveNode Ledger.empty) eightSpacesLines =
      [⟨.unresolved "main", .unresolved "foo"⟩, ⟨.unresolved "foo", .unresolved "bar"⟩,
        ⟨.unresolved "bar", .unresolved "baz"⟩, ⟨.unresolved "foo", .unresolved "qux"⟩] := by
    decide +kernel
  have heq := h Ledger.empty eightSpaces eightSpacesLines hrun hread
  rw [hedges, hshallow] at heq
  simp [Node.unresolved] at heq

end CallForest.Reconstruction
