import CallForest.Proofs.Text.Lines
import CallForest.Proofs.Listing.WellNested

/-!
# Listings one behind another

A well-nested listing leaves frames open that a root closes, so a listing that begins with a root is
read behind it as by itself: the calls of both follow each other, the counts add up, and an error is
the one of the second listing, as many lines further down as the first one has
(`rebuild_append`).

The root leads to the same chain from whatever is open (`place_of_root`). From there on the lines
have other numbers and the counts start at others, and neither has an influence on anything else
(`run_later`).
-/

namespace CallForest

open Listing

/-- The same error some lines further down. -/
def LineError.later (count : Nat) : LineError → LineError
  | .empty lineNo => .empty (lineNo + count)
  | .badIndent lineNo => .badIndent (lineNo + count)
  | .misaligned lineNo indent => .misaligned (lineNo + count) indent

/-- The same error some lines further down. -/
def ReconstructError.later (count : Nat) : ReconstructError → ReconstructError
  | .malformedLine e => .malformedLine (e.later count)
  | .orphan lineNo name => .orphan (lineNo + count) name
  | .stackUnderflow lineNo pops depth => .stackUnderflow (lineNo + count) pops depth

/-- The same line some lines further down. -/
def Listing.Line.later (count : Nat) (l : Line) : Line :=
  { l with lineNo := l.lineNo + count }

/-- The first record is a root. -/
def Listing.StartsAtRoot (listing : String) : Prop :=
  ∃ raw rest l, records listing = raw :: rest ∧ Line.parse 1 raw = .ok l ∧ l.level = 0

namespace Reconstruction

instance : Add Summary :=
  ⟨fun s t => ⟨s.lines + t.lines, s.edges + t.edges, s.unresolved + t.unresolved,
    s.skipped + t.skipped⟩⟩

/-- What two listings come to as one, the first of them having `count` records. -/
structure Joined (count : Nat) (front rest whole : Outcome) : Prop where
  edges_eq : whole.edges = front.edges ++ rest.edges
  failure_eq_none_iff : whole.failure = none ↔ rest.failure = none
  summary_eq : rest.failure = none → whole.summary = front.summary + rest.summary
  /-- The same frames are open at the end, so as many. -/
  frames_eq : rest.failure = none → whole.frames = rest.frames
  failure_later : ∀ e, rest.failure = some e → whole.failure = some (e.later count)

/-! ## Line numbers -/

theorem parse_add (n count : Nat) (raw : List Char) :
    Line.parse (n + count) raw =
      match Line.parse n raw with
      | .error e => .error (e.later count)
      | .ok l => .ok (l.later count) := by
  unfold Line.parse
  simp only
  split
  · rfl
  · split
    · rfl
    · split
      · rfl
      · split <;> rfl

/-- Where a line finds itself does not depend on its number. -/
theorem place_later (c : Chain) (l : Line) (count : Nat) :
    c.place (l.later count) = (c.place l).mapError (ReconstructError.later count) := by
  unfold Chain.place Line.later
  simp only
  split
  · rfl
  · split
    · split <;> rfl
    · split <;> rfl

/-! ## Counts -/

theorem Summary.add_zero (s : Summary) : s + .zero = s := rfl

theorem Summary.add_meet (s t : Summary) (standing : Standing) :
    (s + t).meet standing = s + t.meet standing := by
  cases standing <;> rfl

theorem Summary.add_finish (s t : Summary) (e : Option Edge) :
    (s + t).finish e = s + t.finish e := by
  have hedges : s.edges + t.edges + e.toList.length = s.edges + (t.edges + e.toList.length) :=
    Nat.add_assoc _ _ _
  exact congrArg (Summary.mk (s.lines + t.lines + 1) · (s.unresolved + t.unresolved)
    (s.skipped + t.skipped)) hedges

/-! ## A listing further down -/

/-- An outcome behind other counts, and some lines further down. -/
def Outcome.later (count : Nat) (s : Summary) (o : Outcome) : Outcome :=
  { o with summary := s + o.summary, failure := o.failure.map (ReconstructError.later count) }

section Run

variable (resolve : String → Option Node) (skip : List String)

/-- **Further down.** Records are read the same when they have higher numbers and stand behind other
counts. -/
theorem run_later (chain : Chain) (s t : Summary) (n count : Nat) (raws : List (List Char)) :
    run resolve skip chain (s + t) (n + count) raws =
      (run resolve skip chain t n raws).later count s := by
  induction raws generalizing chain t n with
  | nil => rfl
  | cons raw rest ih =>
      have hlater := parse_add n count raw
      rcases step_cases chain n raw with ⟨e, hraw⟩ | ⟨l, hraw, hstep⟩ <;> rw [hraw] at hlater
      · rw [run_of_parse_error hlater, run_of_parse_error hraw]
        rfl
      · have hfurther := place_later chain l count
        have hframe : frameAt resolve skip (l.later count) = frameAt resolve skip l := rfl
        rcases hstep with ⟨e, hplace⟩ | hplace | ⟨callers, hplace⟩ | ⟨caller, callers, hplace⟩ <;>
          rw [hplace] at hfurther
        · rw [run_of_place_error hlater hfurther, run_of_place_error hraw hplace, hframe,
            Summary.add_meet]
          rfl
        · rw [run_of_orphan hlater hfurther, run_of_orphan hraw hplace, hframe, Summary.add_meet]
          rfl
        · rw [run_of_root hlater hfurther, run_of_root hraw hplace, hframe, Summary.add_meet,
            Summary.add_finish, Nat.add_right_comm]
          exact ih _ _ _
        · rw [run_of_nested hlater hfurther, run_of_nested hraw hplace, hframe, Summary.add_meet,
            Summary.add_finish, Nat.add_right_comm]
          exact congrArg (Outcome.prepend _) (ih _ _ _)

end Run

/-! ## A root behind a listing -/

/-- A root closes whatever is open behind lines that leave no level out. -/
theorem place_of_root (frame : Line → Frame) {before : List Line} {l : Line}
    (acc : Accepted before) (hbefore : ∀ p ∈ before, p.Aligned) (hzero : leftOut before = 0)
    (hl : l.Aligned) (hroot : l.level = 0) :
    (chainAfter frame before).place l = .ok ⟨[], false⟩ := by
  have hadm : Admits before l := by
    cases before with
    | nil => exact hroot
    | cons p before => exact fun _ hpos => absurd hpos (by omega)
  have hheight : height (l :: before) = 0 := by
    rw [height, hroot, Nat.zero_sub]
  have hindent : ¬ 0 < l.indent := by
    rw [hl.indent_pos_iff]
    omega
  rw [place_of_admits frame acc hbefore hl hadm, hheight, openBelow_zero, decide_eq_false hindent]
  rfl

/-- Behind a well-nested listing, a listing that begins with a root is read as by itself. -/
theorem reconstruct_append (resolve : String → Option Node) (skip : List String)
    {front rest : String} {lines : List Line} (hread : readAll 1 (records front) = .ok lines)
    (hnested : WellNested lines) (hend : front = "" ∨ front.toList.getLast? = some '\n')
    (hroot : StartsAtRoot rest) :
    reconstruct resolve skip (front ++ rest) =
      ((reconstruct resolve skip rest).later (records front).length
        (reconstruct resolve skip front).summary).behind
          (reconstruct resolve skip front).edges := by
  obtain ⟨raw, raws, l, hrest, hraw, hlevel⟩ := hroot
  have acc : Accepted [] := trivial
  have hfront := reconstruct_of_admitsAll resolve skip hread hnested.admitsAll
  have haligned : ∀ p ∈ lines.reverse, p.Aligned := fun p hp =>
    readAll_aligned hread p (List.mem_reverse.mp hp)
  have hlater : Line.parse (1 + lines.length) raw = .ok (l.later lines.length) := by
    rw [parse_add, hraw]
  -- the root has the same place behind the first listing as at the start
  have hplace := place_of_root (frameAt resolve skip) hnested.admitsAll.accepted haligned
    hnested.leftOut_reverse (parse_aligned hlater) hlevel
  have hstart : Chain.start.place (l.later lines.length) = .ok ⟨[], false⟩ :=
    place_of_root (frameAt resolve skip) acc (by simp) rfl (parse_aligned hlater) hlevel
  have hrun := run_append resolve skip .zero acc (by simp) hread hnested.admitsAll (raw :: raws)
  rw [List.append_nil, run_of_root hlater hplace, ← run_of_root hlater hstart] at hrun
  have hsecond : reconstruct resolve skip rest = run resolve skip .start .zero 1 (raw :: raws) := by
    rw [reconstruct, hrest]
  rw [hsecond, ← readAll_length hread, ← run_later, Summary.add_zero, reconstruct,
    records_append hend, hrest, hfront]
  exact hrun

/-- A listing further down, behind the calls of another one, is the two as one. -/
theorem joined_behind (count : Nat) (front rest : Outcome) :
    Joined count front rest ((rest.later count front.summary).behind front.edges) where
  edges_eq := rfl
  failure_eq_none_iff := Option.map_eq_none_iff
  summary_eq _ := rfl
  frames_eq _ := rfl
  failure_later e he := by rw [Outcome.behind, Outcome.later, he, Option.map_some]

/-- **Listings one behind another.** A well-nested listing, closed by a newline, and a listing that
begins with a root come to what each of them comes to by itself. -/
theorem rebuild_append {σ : Type} [GraphStore σ] (store : σ) (skip : List String)
    (front rest : String) (lines : List Line) (hread : readAll 1 (records front) = .ok lines)
    (hnested : WellNested lines) (hend : front = "" ∨ front.toList.getLast? = some '\n')
    (hroot : StartsAtRoot rest) :
    Joined (records front).length (rebuild skip front store).2 (rebuild skip rest store).2
        (rebuild skip (front ++ rest) store).2 ∧
      (rebuild skip (front ++ rest) store).1 =
        recordEdges (rebuild skip rest store).2.edges (rebuild skip front store).1 := by
  have hwhole : (rebuild skip (front ++ rest) store).2 =
      ((rebuild skip rest store).2.later (records front).length
        (rebuild skip front store).2.summary).behind (rebuild skip front store).2.edges :=
    reconstruct_append (resolveNode store) skip hread hnested hend hroot
  have hstore : ∀ listing, (rebuild skip listing store).1 =
      recordEdges (rebuild skip listing store).2.edges store := fun _ => rfl
  constructor
  · rw [hwhole]
    exact joined_behind _ _ _
  · rw [hstore, hstore, hwhole, Outcome.behind, Outcome.later, recordEdges, List.foldl_append]
    rfl

/-- A listing that is given up at its third record. -/
def brokenListing : String :=
  "end()\n    run()\n  half()\n"

theorem rebuild_sampleListing_append :
    (records sampleListing).length = 7 ∧
      (rebuild ["skip"] brokenListing sampleLedger).2.failure =
        some (.malformedLine (.misaligned 3 2)) ∧
      (rebuild ["skip"] (sampleListing ++ brokenListing) sampleLedger).2.failure =
        some (.malformedLine (.misaligned 10 2)) ∧
      (rebuild ["skip"] (sampleListing ++ brokenListing) sampleLedger).2.edges =
        sampleCalls ++ [⟨.unresolved "end", .unresolved "run"⟩] := by
  have hlength : (records sampleListing).length = 7 := (readAll_length readAll_sampleListing).symm
  have htext : records sampleListing = _ := records_ofList_append _ _
  have hbroken : records brokenListing = _ := records_ofList _
  have hfail : (rebuild ["skip"] brokenListing sampleLedger).2.failure =
      some (.malformedLine (.misaligned 3 2)) := by
    rw [rebuild, reconstruct, hbroken]
    decide +kernel
  have hroot : StartsAtRoot brokenListing := by
    refine ⟨['e', 'n', 'd', '(', ')'], _, ⟨1, 0, "end"⟩, hbroken, ?_, rfl⟩
    decide +kernel
  have hend : sampleListing.toList.getLast? = some '\n' := by
    have hchars : sampleListing.toList = _ := toList_ofList_append _ _
    rw [hchars]
    decide +kernel
  obtain ⟨hjoined, -⟩ := rebuild_append sampleLedger ["skip"] _ _ _ readAll_sampleListing
    wellNested_sampleLines (.inr hend) hroot
  have hlater := hjoined.failure_later _ hfail
  rw [hlength] at hlater
  have hedges : (rebuild ["skip"] sampleListing sampleLedger).2.edges ++
      (rebuild ["skip"] brokenListing sampleLedger).2.edges =
        sampleCalls ++ [⟨.unresolved "end", .unresolved "run"⟩] := by
    rw [rebuild, rebuild, reconstruct, reconstruct, htext, hbroken]
    decide +kernel
  exact ⟨hlength, hfail, hlater, hjoined.edges_eq.trans hedges⟩

end Reconstruction

end CallForest
