import CallForest.Proofs.Listing.Chain

/-!
# Where a listing stops

How far a listing is read depends on its lines alone, and not on what their names stand for. The
records in front are lines each of which follows those before it. The record behind them, if there
is one, cannot be read or is refused (`Stops`, `exists_stops`).

Rebuilding goes on behind the lines in front as it would from the chain that they leave
(`run_append`), so what comes of a listing that a record stops is described by these lines and the
error (`reconstruct_of_stops`). The error has the number of that record (`Stops.lineNo_eq`). A
listing that ends without an error is accepted (`admitsAll_of_reconstruct`).
-/

namespace CallForest

/-- The number of the line that an error is about. -/
def LineError.lineNo : LineError → Nat
  | .empty lineNo | .badIndent lineNo | .misaligned lineNo _ => lineNo

/-- The number of the line that an error is about. -/
def ReconstructError.lineNo : ReconstructError → Nat
  | .malformedLine e => e.lineNo
  | .orphan lineNo _ | .stackUnderflow lineNo _ _ => lineNo

namespace Listing

theorem lineNo_of_parse_error {n : Nat} {raw : List Char} {e : LineError}
    (h : Line.parse n raw = .error e) : e.lineNo = n := by
  unfold Line.parse at h
  simp only at h
  split at h
  · cases h
    rfl
  · split at h
    · cases h
      rfl
    · split at h
      · cases h
        rfl
      · split at h
        · cases h
          rfl
        · cases h

end Listing

namespace Reconstruction

open Listing

/-- Why a record is the end of a listing that has the lines of a history in front of it: it cannot
be read, or the line cannot follow. -/
inductive Stops (before : List Line) (n : Nat) (raw : List Char) : ReconstructError → Prop
  | unreadable {e : LineError} (h : Line.parse n raw = .error e) :
      Stops before n raw (.malformedLine e)
  | refused {l : Line} (hraw : Line.parse n raw = .ok l) (h : ¬ Admits before l) :
      Stops before n raw (refusal before l)

theorem lineNo_refusal (before : List Line) (l : Line) : (refusal before l).lineNo = l.lineNo := by
  cases before with
  | nil => rfl
  | cons p before =>
      rw [refusal]
      split <;> rfl

theorem Stops.lineNo_eq {before : List Line} {n : Nat} {raw : List Char} {e : ReconstructError}
    (h : Stops before n raw e) : e.lineNo = n := by
  cases h with
  | unreadable h => exact lineNo_of_parse_error h
  | refused hraw h => rw [lineNo_refusal, parse_lineNo hraw]

/-- Records are lines each of which follows those before it, to the end or to one that stops. -/
theorem exists_stops (before : List Line) (n : Nat) (raws : List (List Char)) :
    (∃ lines, readAll n raws = .ok lines ∧ AdmitsAll before lines) ∨
      ∃ done raw rest lines e, raws = done ++ raw :: rest ∧ readAll n done = .ok lines ∧
        AdmitsAll before lines ∧ Stops (lines.reverse ++ before) (n + lines.length) raw e := by
  induction raws generalizing before n with
  | nil => exact .inl ⟨[], rfl, trivial⟩
  | cons raw rest ih =>
      cases hraw : Line.parse n raw with
      | error e => exact .inr ⟨[], raw, rest, [], _, rfl, rfl, trivial, .unreadable hraw⟩
      | ok l =>
          by_cases hadm : Admits before l
          · have hread {done : List (List Char)} {lines : List Line}
                (h : readAll (n + 1) done = .ok lines) :
                readAll n (raw :: done) = .ok (l :: lines) := by
              rw [readAll, hraw]
              simp only [h]
              rfl
            -- the line joins the history that the records behind it are held against
            rcases ih (l :: before) (n + 1) with
              ⟨lines, hlines, hall⟩ | ⟨done, raw', rest', lines, e, rfl, hlines, hall, hstop⟩
            · exact .inl ⟨l :: lines, hread hlines, hadm, hall⟩
            · refine .inr ⟨raw :: done, raw', rest', l :: lines, e, rfl, hread hlines,
                ⟨hadm, hall⟩, ?_⟩
              rwa [List.reverse_cons, List.append_assoc, List.singleton_append, List.length_cons,
                Nat.add_comm lines.length, ← Nat.add_assoc]
          · exact .inr ⟨[], raw, rest, [], _, rfl, rfl, trivial, .refused hraw hadm⟩

/-- The records of a listing are lines each of which follows those before it, to the end or to a
record that stops it. -/
theorem readToEnd_or_stops (raws : List (List Char)) :
    (∃ lines, readAll 1 raws = .ok lines ∧ AdmitsAll [] lines) ∨
      ∃ done raw rest lines e, raws = done ++ raw :: rest ∧ readAll 1 done = .ok lines ∧
        AdmitsAll [] lines ∧ Stops lines.reverse (lines.length + 1) raw e := by
  rcases exists_stops [] 1 raws with
    hend | ⟨done, raw, rest, lines, e, hraws, hread, hall, hstop⟩
  · exact .inl hend
  · rw [List.append_nil, Nat.add_comm] at hstop
    exact .inr ⟨done, raw, rest, lines, e, hraws, hread, hall, hstop⟩

/-! ## Rebuilding a listing that stops -/

section Run

variable (resolve : String → Option Node) (skip : List String) {before : List Line} {n : Nat}

/-- A record that stops a listing ends the run with its error, and is not counted as a line. -/
theorem run_of_stops {raw : List Char} {e : ReconstructError} (s : Summary)
    (acc : Accepted before) (hbefore : ∀ p ∈ before, p.Aligned) (h : Stops before n raw e)
    (rest : List (List Char)) :
    ∃ frames counts, counts.lines = s.lines ∧
      run resolve skip (chainAfter (frameAt resolve skip) before) s n (raw :: rest) =
        .abandoned frames counts e := by
  cases h with
  | unreadable hraw => exact ⟨_, s, rfl, run_of_parse_error hraw⟩
  | @refused l hraw hadm =>
      obtain ⟨frames, hrun⟩ := run_of_not_admits resolve skip rest s acc hbefore hraw hadm
      -- what its name stands for has been counted by now, the line itself has not
      refine ⟨frames, _, ?_, hrun⟩
      cases (frameAt resolve skip l).standing <;> rfl

/-- What comes of a listing that a record stops: the calls of the lines in front of it, and the
error. -/
theorem reconstruct_of_stops {listing : String} {done rest : List (List Char)} {raw : List Char}
    {lines : List Line} {e : ReconstructError} (hrecords : records listing = done ++ raw :: rest)
    (hread : readAll 1 done = .ok lines) (hall : AdmitsAll [] lines)
    (hstop : Stops lines.reverse (lines.length + 1) raw e) :
    ∃ frames counts, counts.lines = lines.length ∧
      reconstruct resolve skip listing =
        ⟨callsAfter (frameAt resolve skip) [] lines, counts, frames, some e⟩ := by
  have acc : Accepted [] := trivial
  have haligned : ∀ p ∈ lines.reverse, p.Aligned := fun p hp =>
    readAll_aligned hread p (List.mem_reverse.mp hp)
  obtain ⟨frames, counts, hcounts, hrun⟩ := run_of_stops resolve skip
    (Summary.zero.after (frameAt resolve skip) lines (callsAfter (frameAt resolve skip) [] lines))
    hall.accepted haligned hstop rest
  have hfront := run_append resolve skip .zero acc (by simp) hread hall (raw :: rest)
  rw [List.append_nil, Nat.add_comm 1, hrun] at hfront
  refine ⟨frames, counts, hcounts.trans (Nat.zero_add _), ?_⟩
  rw [reconstruct, hrecords]
  refine hfront.trans ?_
  rw [Outcome.behind, Outcome.abandoned, List.append_nil]

variable {resolve skip} in
/-- A listing that is read to its end is accepted. -/
theorem admitsAll_of_reconstruct {listing : String}
    (h : (reconstruct resolve skip listing).failure = none) :
    ∃ lines, readAll 1 (records listing) = .ok lines ∧ AdmitsAll [] lines := by
  rcases readToEnd_or_stops (records listing) with
    hend | ⟨done, raw, rest, lines, e, hrecords, hread, hall, hstop⟩
  · exact hend
  · obtain ⟨_, _, -, hrun⟩ := reconstruct_of_stops resolve skip hrecords hread hall hstop
    rw [hrun] at h
    cases h

end Run

end Reconstruction

end CallForest
