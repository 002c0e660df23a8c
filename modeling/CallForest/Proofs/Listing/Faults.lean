import CallForest.Proofs.Listing.Stops
import Mathlib.Algebra.Order.BigOperators.Group.Finset

/-!
# The first fault of a listing

Whether a listing is read to its end shows in the levels of its records. A record that goes down by
more than one level leaves levels out, and no later record makes up for them (`leftOutAt`). A line
that returns behind such a record is at fault unless it stays below the levels left out (`fault?`).

Rebuilding ends with the first fault, and if there is none, the frames left open and the levels left
out make up the level of the last line (`rebuild_stopsAtFirstFault`). The faults are found by
position; that they are the lines which a history does not admit is shown by going through the
history (`Begins`).
-/

namespace CallForest.Reconstruction

open Listing

/-- The record at a position, read as the line of that number. -/
def lineAt? (raws : List (List Char)) (i : Nat) : Option (Except LineError Line) :=
  raws[i]?.map (Line.parse (i + 1))

/-- The level of the record at a position, if it can be read. -/
def levelAt (raws : List (List Char)) (i : Nat) : Nat :=
  match lineAt? raws i with
  | some (.ok l) => l.level
  | _ => 0

/-- How many levels are left out up to a position: a record may be one level deeper than the one
before it, and leaves out the levels beyond. -/
def leftOutAt (raws : List (List Char)) (i : Nat) : Nat :=
  ∑ j ∈ Finset.range i, (levelAt raws (j + 1) - levelAt raws j - 1)

/-- Why a line cannot stand at a position, going by the records in front of it. -/
def misplaced? (raws : List (List Char)) (l : Line) : Nat → Option ReconstructError
  | 0 => if 0 < l.level then some (.orphan 1 l.name) else none
  | p + 1 =>
    if l.level < levelAt raws p ∧ 0 < leftOutAt raws p ∧ l.level ≤ leftOutAt raws p then
      if l.level = leftOutAt raws p then some (.orphan (p + 2) l.name)
      else some (.stackUnderflow (p + 2) (levelAt raws p - l.level + 1)
        (levelAt raws p + 1 - leftOutAt raws p))
    else none

/-- What is wrong with the record at a position. -/
def fault? (raws : List (List Char)) (i : Nat) : Option ReconstructError :=
  match lineAt? raws i with
  | none => none
  | some (.error e) => some (.malformedLine e)
  | some (.ok l) => misplaced? raws l i

/-- What comes of records, going by their faults. -/
structure StopsAtFirstFault (raws : List (List Char)) (o : Outcome) : Prop where
  /-- The error is the first fault. -/
  failure_eq_some_iff : ∀ e,
    o.failure = some e ↔ ∃ i, fault? raws i = some e ∧ ∀ j < i, fault? raws j = none
  failure_eq_none_iff : o.failure = none ↔ ∀ i, fault? raws i = none
  /-- Nothing is open behind no records. -/
  frames_nil : raws = [] → o.frames = []
  /-- At the end a frame is open for each level of the last line that was not left out, and one for
  the line itself. -/
  length_frames : o.failure = none → ∀ last, raws.length = last + 1 →
    o.frames.length + leftOutAt raws last = levelAt raws last + 1
  /-- No line is refused that stands where the line before it does. -/
  sibling : ∀ i p l, lineAt? raws i = some (.ok p) → lineAt? raws (i + 1) = some (.ok l) →
    l.level = p.level → ∀ e, o.failure = some e → e.lineNo ≠ i + 2
  /-- Once a level is left out no root is read. -/
  no_root : ∀ i j l, i ≤ j → 0 < leftOutAt raws i → lineAt? raws j = some (.ok l) → l.level = 0 →
    ∃ e, o.failure = some e ∧ e.lineNo ≤ j + 1

/-! ## Positions and histories -/

/-- The lines of a history are the first records. -/
def Begins (raws : List (List Char)) : List Line → Prop
  | [] => True
  | l :: before => lineAt? raws before.length = some (.ok l) ∧ Begins raws before

variable {raws : List (List Char)} {before : List Line} {l : Line}

theorem Begins.levelAt_eq (h : Begins raws (l :: before)) :
    levelAt raws before.length = l.level := by
  rw [levelAt, h.1]

theorem Begins.leftOutAt_eq (h : Begins raws (l :: before)) :
    leftOutAt raws before.length = leftOut (l :: before) := by
  induction before generalizing l with
  | nil => rfl
  | cons p before ih =>
      have hl := h.levelAt_eq
      rw [List.length_cons] at hl
      rw [List.length_cons, leftOutAt, Finset.sum_range_succ, hl, h.2.levelAt_eq, ← leftOutAt,
        ih h.2, leftOut, Nat.sub_sub, Nat.add_comm]

theorem leftOutAt_mono (raws : List (List Char)) {i j : Nat} (h : i ≤ j) :
    leftOutAt raws i ≤ leftOutAt raws j :=
  Finset.sum_le_sum_of_subset (Finset.range_mono h)

theorem lineNo_of_lineAt? {i : Nat} (h : lineAt? raws i = some (.ok l)) : l.lineNo = i + 1 := by
  obtain ⟨raw, -, hraw⟩ := Option.map_eq_some_iff.mp h
  exact parse_lineNo hraw

/-- A line that its history admits is not at fault. -/
theorem fault?_of_admits (hbegins : Begins raws before)
    (hl : lineAt? raws before.length = some (.ok l)) (h : Admits before l) :
    fault? raws before.length = none := by
  simp only [fault?, hl]
  cases before with
  | nil =>
      have hlevel : ¬ 0 < l.level := Nat.not_lt.mpr (Nat.le_of_eq h)
      exact if_neg hlevel
  | cons p before =>
      have hkept : ¬ (l.level < p.level ∧ 0 < leftOut (p :: before) ∧
          l.level ≤ leftOut (p :: before)) := fun ⟨hlt, hpos, hle⟩ =>
        absurd (h hlt hpos) (Nat.not_lt.mpr hle)
      rw [List.length_cons, misplaced?, hbegins.levelAt_eq, hbegins.leftOutAt_eq, if_neg hkept]

/-- The fault of a line that its history does not admit. -/
theorem fault?_of_not_admits (hbegins : Begins raws before) (acc : Accepted before)
    (hl : lineAt? raws before.length = some (.ok l)) (h : ¬ Admits before l) :
    fault? raws before.length = some (refusal before l) := by
  have hlineNo := lineNo_of_lineAt? hl
  simp only [fault?, hl]
  cases before with
  | nil =>
      have hlevel : 0 < l.level := Nat.pos_of_ne_zero h
      rw [List.length_nil] at hlineNo ⊢
      rw [misplaced?, if_pos hlevel, refusal, hlineNo]
  | cons p before =>
      have hbroken : l.level < p.level ∧ 0 < leftOut (p :: before) ∧
          l.level ≤ leftOut (p :: before) := by
        simpa only [Admits, Classical.not_imp, Nat.not_lt] using h
      have hopen := height_add_leftOut acc
      -- a frame is open for each level that was not left out
      have hdepth : p.level + 1 - leftOut (p :: before) = height (p :: before) + 1 := by omega
      rw [List.length_cons] at hlineNo ⊢
      rw [misplaced?, hbegins.levelAt_eq, hbegins.leftOutAt_eq, if_pos hbroken, refusal, hlineNo,
        hdepth]
      split <;> rfl

/-- No line of an accepted history is at fault. -/
theorem fault?_of_accepted (hbegins : Begins raws before) (acc : Accepted before) :
    ∀ j < before.length, fault? raws j = none := by
  induction before with
  | nil => exact fun j hj => absurd hj (Nat.not_lt_zero j)
  | cons l before ih =>
      intro j hj
      rcases Nat.lt_succ_iff_lt_or_eq.mp hj with hlt | rfl
      · exact ih hbegins.2 acc.2 j hlt
      · exact fault?_of_admits hbegins.2 hbegins.1 acc.1

theorem fault?_of_length_le {i : Nat} (h : raws.length ≤ i) : fault? raws i = none := by
  have hnone : lineAt? raws i = none := by
    rw [lineAt?, List.getElem?_eq_none h, Option.map_none]
  simp only [fault?, hnone]

/-- A root in an accepted history stands where no level is left out. -/
theorem leftOutAt_of_root (hbegins : Begins raws before) (acc : Accepted before) {j : Nat}
    (hj : j < before.length) (hl : lineAt? raws j = some (.ok l)) (hroot : l.level = 0) :
    leftOutAt raws j = 0 := by
  induction before with
  | nil => exact absurd hj (Nat.not_lt_zero j)
  | cons p before ih =>
      rcases Nat.lt_succ_iff_lt_or_eq.mp hj with hlt | rfl
      · exact ih hbegins.2 acc.2 hlt
      · cases hbegins.1.symm.trans hl
        have hout := leftOut_lt_level acc
        rw [hbegins.leftOutAt_eq]
        omega

/-- Records that are read are a history. -/
theorem begins_of_readAll {done rest : List (List Char)} {lines : List Line}
    (hbegins : Begins raws before) (hraws : raws.drop before.length = done ++ rest)
    (hread : readAll (before.length + 1) done = .ok lines) :
    Begins raws (lines.reverse ++ before) := by
  induction done generalizing before lines with
  | nil =>
      cases hread
      exact hbegins
  | cons raw done ih =>
      obtain ⟨l, ls, hl, hs, rfl⟩ := readAll_cons hread
      have hraw : raws[before.length]? = some raw := by
        rw [← List.head?_drop, hraws]
        rfl
      have hline : lineAt? raws before.length = some (.ok l) := by
        rw [lineAt?, hraw, Option.map_some, hl]
      have hdrop : raws.drop (l :: before).length = done ++ rest := by
        rw [List.length_cons, ← List.tail_drop, hraws]
        rfl
      rw [List.reverse_cons, List.append_assoc, List.singleton_append]
      exact ih ⟨hline, hbegins⟩ hdrop hs

/-- What ends a listing is a fault. -/
theorem fault?_of_stops (hbegins : Begins raws before) (acc : Accepted before) {raw : List Char}
    {e : ReconstructError} (hraw : raws[before.length]? = some raw)
    (h : Stops before (before.length + 1) raw e) : fault? raws before.length = some e := by
  cases h with
  | @unreadable e h =>
      have herror : lineAt? raws before.length = some (.error e) := by
        rw [lineAt?, hraw, Option.map_some, h]
      simp only [fault?, herror]
  | @refused l hl hadm =>
      have hline : lineAt? raws before.length = some (.ok l) := by
        rw [lineAt?, hraw, Option.map_some, hl]
      exact fault?_of_not_admits hbegins acc hline hadm

/-- A line at the level of the record before it is not at fault. -/
theorem fault?_of_sibling {i : Nat} {p : Line} (hp : lineAt? raws i = some (.ok p))
    (hl : lineAt? raws (i + 1) = some (.ok l)) (hlevel : l.level = p.level) :
    fault? raws (i + 1) = none := by
  have hbefore : levelAt raws i = p.level := by rw [levelAt, hp]
  simp only [fault?, hl]
  rw [misplaced?, hbefore, hlevel, if_neg fun h => Nat.lt_irrefl _ h.1]

/-! ## The first fault -/

/-- Records that are an accepted history to the end have no fault. -/
theorem fault?_of_accepted_to_end (hbegins : Begins raws before) (acc : Accepted before)
    (hlength : before.length = raws.length) (i : Nat) : fault? raws i = none := by
  rcases Nat.lt_or_ge i raws.length with hi | hi
  · exact fault?_of_accepted hbegins acc i (hlength ▸ hi)
  · exact fault?_of_length_le hi

variable {o : Outcome}

/-- Records that are an accepted history and leave its frames open. -/
theorem StopsAtFirstFault.of_accepted (frame : Line → Frame) (hbegins : Begins raws before)
    (acc : Accepted before) (hlength : before.length = raws.length) (hok : o.failure = none)
    (hframes : o.frames = (chainAfter frame before).frames) : StopsAtFirstFault raws o where
  failure_eq_some_iff e := by
    rw [hok]
    refine iff_of_false (Option.some_ne_none e).symm ?_
    rintro ⟨i, hi, -⟩
    rw [fault?_of_accepted_to_end hbegins acc hlength i] at hi
    cases hi
  failure_eq_none_iff := iff_of_true hok (fault?_of_accepted_to_end hbegins acc hlength)
  frames_nil := by
    rintro rfl
    rw [hframes, List.length_eq_zero_iff.mp hlength]
    rfl
  length_frames _ last hlast := by
    cases before with
    | nil =>
        rw [hlast] at hlength
        cases hlength
    | cons l before =>
        obtain rfl : before.length = last := Nat.succ.inj (hlength.trans hlast)
        have hsum := height_add_leftOut acc
        rw [hframes, length_frames_chainAfter frame acc, hbegins.levelAt_eq, hbegins.leftOutAt_eq]
        omega
  sibling i p l _ _ _ e h := by
    rw [hok] at h
    cases h
  no_root i j l hij hpos hl hroot := by
    obtain ⟨raw, hraw, -⟩ := Option.map_eq_some_iff.mp hl
    have hj : j < before.length := hlength ▸ (List.getElem?_eq_some_iff.mp hraw).1
    have hzero := leftOutAt_of_root hbegins acc hj hl hroot
    have hle := leftOutAt_mono raws hij
    omega

/-- Records that a fault ends behind an accepted history. -/
theorem StopsAtFirstFault.of_fault {e : ReconstructError} (hbegins : Begins raws before)
    (acc : Accepted before) (hfault : fault? raws before.length = some e)
    (hlineNo : e.lineNo = before.length + 1) (hfail : o.failure = some e) :
    StopsAtFirstFault raws o where
  failure_eq_some_iff e' := by
    have hfree := fault?_of_accepted hbegins acc
    rw [hfail]
    constructor
    · intro h
      cases h
      exact ⟨before.length, hfault, hfree⟩
    · rintro ⟨i, hi, hbefore⟩
      -- a first fault is neither before this one nor behind it
      rcases Nat.lt_trichotomy i before.length with hlt | rfl | hgt
      · rw [hfree i hlt] at hi
        cases hi
      · exact hfault.symm.trans hi
      · rw [hbefore before.length hgt] at hfault
        cases hfault
  failure_eq_none_iff := by
    rw [hfail]
    refine iff_of_false (Option.some_ne_none e) fun hnone => ?_
    rw [hnone before.length] at hfault
    cases hfault
  frames_nil := by
    rintro rfl
    rw [fault?_of_length_le (Nat.zero_le _)] at hfault
    cases hfault
  length_frames hok := by
    rw [hfail] at hok
    cases hok
  sibling i p l hp hl hlevel e' he' heq := by
    rw [hfail] at he'
    cases he'
    -- the line refused would be the sibling
    obtain hi : before.length = i + 1 := Nat.succ.inj (hlineNo.symm.trans heq)
    rw [hi, fault?_of_sibling hp hl hlevel] at hfault
    cases hfault
  no_root i j l hij hpos hl hroot := by
    refine ⟨e, hfail, ?_⟩
    rcases Nat.lt_or_ge j before.length with hj | hj
    · have hzero := leftOutAt_of_root hbegins acc hj hl hroot
      have hle := leftOutAt_mono raws hij
      omega
    · omega

/-- **A listing stops at its first fault.** The error of a listing is the first fault of its
records, whatever is registered and whatever is skipped, and a listing without faults is read to its
end. -/
theorem rebuild_stopsAtFirstFault {σ : Type} [GraphStore σ] (store : σ) (skip : List String)
    (listing : String) :
    StopsAtFirstFault (records listing) (rebuild skip listing store).2 := by
  have hfirst : Begins (records listing) [] := trivial
  rcases readToEnd_or_stops (records listing) with
    ⟨lines, hread, hall⟩ | ⟨done, raw, rest, lines, e, hrecords, hread, hall, hstop⟩
  · have hbegins := begins_of_readAll hfirst (List.append_nil _).symm hread
    rw [List.append_nil] at hbegins
    have hlength : lines.reverse.length = (records listing).length := by
      rw [List.length_reverse, readAll_length hread]
    have hrun := reconstruct_of_admitsAll (resolveNode store) skip hread hall
    exact .of_accepted _ hbegins hall.accepted hlength (congrArg Outcome.failure hrun)
      (congrArg Outcome.frames hrun)
  · have hbegins := begins_of_readAll hfirst hrecords hread
    rw [List.append_nil] at hbegins
    have hlength : lines.length = done.length := readAll_length hread
    have hraw : (records listing)[lines.reverse.length]? = some raw := by
      rw [List.length_reverse, hlength, hrecords, List.getElem?_append_right (Nat.le_refl _),
        Nat.sub_self]
      rfl
    obtain ⟨_, _, -, hrun⟩ :=
      reconstruct_of_stops (resolveNode store) skip hrecords hread hall hstop
    rw [← List.length_reverse] at hstop
    exact .of_fault hbegins hall.accepted (fault?_of_stops hbegins hall.accepted hraw hstop)
      hstop.lineNo_eq (congrArg Outcome.failure hrun)

/-- A root behind a level that was left out. -/
example : (List.range 4).map
    (fault? (records "main()\n        foo()\n                bar()\nnext()\n")) =
      [none, none, none, some (.stackUnderflow 4 5 3)] := by
  rw [records_ofList]
  decide +kernel

end CallForest.Reconstruction
