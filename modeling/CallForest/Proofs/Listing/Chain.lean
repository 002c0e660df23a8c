import CallForest.Listing.Reconstruction
import CallForest.Proofs.Listing.Nesting

/-!
# The chain of open frames

The frames that rebuilding a listing keeps open are those of the lines that are open in the sense
of `openBelow`, and the caller of a line is its `opener?`. One step of the run does the following:

* a line that the history admits closes frames down to its height, and calls from the frame left
  innermost (`place_of_admits`, `run_of_admits`);
* any other line ends the run with an error (`run_of_not_admits`).

From the step comes the run over lines that the history admits, whatever follows them
(`run_append`), and so the whole run over an accepted listing (`run_of_admitsAll`).
-/

namespace CallForest.Reconstruction

open Listing

/-- The chain after the lines of a history. -/
def chainAfter (frame : Line → Frame) : List Line → Chain
  | [] => .start
  | l :: before => ⟨(openBelow (height (l :: before) + 1) (l :: before)).map frame, l.indent⟩

/-- The frame of a line. -/
def frameAt (resolve : String → Option Node) (skip : List String) (l : Line) : Frame :=
  frameOf resolve skip l.name

/-- The call that a line makes of the innermost line left open. -/
def callAt (frame : Line → Frame) (before : List Line) (l : Line) : Option Edge :=
  (opener? before l).bind fun p => link (frame p) (frame l)

/-- The calls of lines that follow a history. -/
def callsAfter (frame : Line → Frame) (before lines : List Line) : List Edge :=
  (withEarlier before lines).filterMap fun x => callAt frame x.1 x.2

/-- The counts after some more lines have been read. -/
def Summary.after (frame : Line → Frame) (s : Summary) (lines : List Line) (calls : List Edge) :
    Summary where
  lines := s.lines + lines.length
  edges := s.edges + calls.length
  unresolved := s.unresolved + lines.countP fun l => (frame l).standing = .unresolved
  skipped := s.skipped + lines.countP fun l => (frame l).standing = .skipped

theorem length_frames_chainAfter (frame : Line → Frame) {l : Line} {before : List Line}
    (acc : Accepted (l :: before)) :
    (chainAfter frame (l :: before)).frames.length = height (l :: before) + 1 := by
  rw [chainAfter, List.length_map]
  exact length_openBelow acc (List.cons_ne_nil _ _) (Nat.le_refl _)

/-- Frames of the chain that are left when `j` are closed. -/
theorem drop_frames_chainAfter (frame : Line → Frame) {l : Line} {before : List Line} (j : Nat)
    (acc : Accepted (l :: before)) :
    (chainAfter frame (l :: before)).frames.drop j =
      (openBelow (height (l :: before) + 1 - j) (l :: before)).map frame := by
  rw [chainAfter, ← List.map_drop, drop_openBelow acc (Nat.le_refl _)]

/-! ## One line -/

/-- A line returns by one frame and one more for each level that it goes back. -/
theorem pops_eq {p l : Line} (hp : p.Aligned) (hl : l.Aligned) :
    (p.indent - l.indent) / indentUnit + 1 = p.level - l.level + 1 := by
  unfold Line.Aligned indentUnit at *
  omega

/-- A line opens none of the frames above it. -/
theorem mem_frames_of_place {c : Chain} {l : Line} {p : Place} (h : c.place l = .ok p) :
    ∀ f ∈ p.callers, f ∈ c.frames := by
  unfold Chain.place at h
  split at h
  · cases h
    exact fun _ hf => hf
  · split at h
    · split at h
      · cases h
        exact fun _ hf => List.mem_of_mem_tail hf
      · cases h
        exact fun _ hf => absurd hf List.not_mem_nil
    · simp only at h
      split at h
      · cases h
      · cases h
        exact fun _ hf => List.mem_of_mem_drop hf

/-- A line that the history admits closes the frames down to its height. -/
theorem place_of_admits (frame : Line → Frame) {before : List Line} {l : Line}
    (acc : Accepted before) (hbefore : ∀ p ∈ before, p.Aligned) (hl : l.Aligned)
    (h : Admits before l) :
    (chainAfter frame before).place l =
      .ok ⟨(openBelow (height (l :: before)) before).map frame, decide (0 < l.indent)⟩ := by
  cases before with
  | nil =>
      have hlevel : l.level = 0 := h
      have hindent : l.indent = 0 := by rw [hl, hlevel, Nat.mul_zero]
      simp [chainAfter, Chain.start, Chain.place, hindent, openBelow]
  | cons p before =>
      have hp := hbefore p List.mem_cons_self
      have hsum := height_add_leftOut acc
      have hlength := length_frames_chainAfter frame acc
      have hframes := fun j => drop_frames_chainAfter frame j acc
      have hindent : (chainAfter frame (p :: before)).indent = p.indent := rfl
      unfold Chain.place
      rw [hindent]
      rcases Nat.lt_trichotomy p.level l.level with hlt | heq | hgt
      · -- a first callee: every frame stays open
        have hlt' := (hl.indent_lt_iff hp).mpr hlt
        rw [if_pos hlt', height_cons_of_lt acc hlt, decide_eq_true (by omega)]
        rfl
      · -- a sibling: it takes the place of the last frame
        have heq' : l.indent = p.indent := by rw [hl, hp, heq]
        rw [if_neg (by omega), if_pos heq', height_cons_of_le (by omega)]
        by_cases hpos : 0 < l.indent
        · rw [if_pos hpos, decide_eq_true hpos, ← List.drop_one, hframes 1,
            show height (p :: before) - (p.level - l.level) = height (p :: before) + 1 - 1 by omega]
        · have hzero := (not_congr hl.indent_pos_iff).mp hpos
          rw [if_neg hpos, decide_eq_false hpos,
            show height (p :: before) - (p.level - l.level) = 0 by omega, openBelow_zero]
          rfl
      · -- a return: a frame is closed for each level, and the one of the line's own level
        have hgt' := (hp.indent_lt_iff hl).mpr hgt
        have hreach := h hgt
        rw [if_neg (by omega), if_neg (by omega)]
        simp only [pops_eq hp hl, hlength]
        rw [if_neg (by omega), hframes, height_cons_of_le (by omega),
          show height (p :: before) + 1 - (p.level - l.level + 1) =
            height (p :: before) - (p.level - l.level) by omega]

/-- The error of a line that a history does not admit. -/
def refusal : List Line → Line → ReconstructError
  | [], l => .orphan l.lineNo l.name
  | p :: before, l =>
    if l.level = leftOut (p :: before) then .orphan l.lineNo l.name
    else .stackUnderflow l.lineNo (p.level - l.level + 1) (height (p :: before) + 1)

/-- A line that the history does not admit finds no frame open, or would close more than are. -/
theorem place_of_not_admits (frame : Line → Frame) {before : List Line} {l : Line}
    (acc : Accepted before) (hbefore : ∀ p ∈ before, p.Aligned) (hl : l.Aligned)
    (h : ¬ Admits before l) :
    ((chainAfter frame before).place l = .ok ⟨[], true⟩ ∧
        refusal before l = .orphan l.lineNo l.name) ∨
      (chainAfter frame before).place l = .error (refusal before l) := by
  cases before with
  | nil =>
      have hpos : 0 < l.indent := hl.indent_pos_iff.mpr (Nat.pos_of_ne_zero h)
      simp [chainAfter, Chain.start, Chain.place, hpos, refusal]
  | cons p before =>
      have hp := hbefore p List.mem_cons_self
      have hsum := height_add_leftOut acc
      have hlength := length_frames_chainAfter frame acc
      obtain ⟨hgt, hout, hle⟩ : l.level < p.level ∧ 0 < leftOut (p :: before) ∧
          ¬ leftOut (p :: before) < l.level := by
        simpa only [Admits, Classical.not_imp] using h
      have hgt' := (hp.indent_lt_iff hl).mpr hgt
      have hindent : (chainAfter frame (p :: before)).indent = p.indent := rfl
      simp only [Chain.place, hindent, pops_eq hp hl, hlength]
      rw [if_neg (by omega), if_neg (by omega)]
      by_cases heq : l.level = leftOut (p :: before)
      · -- the return closes exactly the frames there are
        have hpos := hl.indent_pos_iff.mpr (by omega)
        left
        rw [if_neg (by omega), refusal, if_pos heq, decide_eq_true hpos,
          List.drop_eq_nil_of_le (by omega)]
        exact ⟨rfl, rfl⟩
      · right
        rw [if_pos (by omega), refusal, if_neg heq]

/-! ## One step of the run -/

section Equations

variable {resolve : String → Option Node} {skip : List String} {chain : Chain} {s : Summary}
  {n : Nat} {raw : List Char} {rest : List (List Char)} {l : Line} {callers : List Frame}

theorem run_of_parse_error {e : LineError} (h : Line.parse n raw = .error e) :
    run resolve skip chain s n (raw :: rest) = .abandoned chain.frames s (.malformedLine e) := by
  rw [run, h]

theorem run_of_place_error {e : ReconstructError} (hraw : Line.parse n raw = .ok l)
    (h : chain.place l = .error e) :
    run resolve skip chain s n (raw :: rest) =
      .abandoned chain.frames (s.meet (frameAt resolve skip l).standing) e := by
  rw [run, hraw]
  simp only [h]
  rfl

theorem run_of_orphan (hraw : Line.parse n raw = .ok l) (h : chain.place l = .ok ⟨[], true⟩) :
    run resolve skip chain s n (raw :: rest) =
      .abandoned [] (s.meet (frameAt resolve skip l).standing) (.orphan l.lineNo l.name) := by
  rw [run, hraw]
  simp only [h]
  rfl

theorem run_of_root (hraw : Line.parse n raw = .ok l) (h : chain.place l = .ok ⟨callers, false⟩) :
    run resolve skip chain s n (raw :: rest) =
      run resolve skip ⟨frameAt resolve skip l :: callers, l.indent⟩
        ((s.meet (frameAt resolve skip l).standing).finish none) (n + 1) rest := by
  rw [run, hraw]
  simp only [h]
  rfl

theorem run_of_nested {caller : Frame} (hraw : Line.parse n raw = .ok l)
    (h : chain.place l = .ok ⟨caller :: callers, true⟩) :
    run resolve skip chain s n (raw :: rest) =
      (run resolve skip ⟨frameAt resolve skip l :: caller :: callers, l.indent⟩
        ((s.meet (frameAt resolve skip l).standing).finish (link caller (frameAt resolve skip l)))
        (n + 1) rest).prepend (link caller (frameAt resolve skip l)) := by
  rw [run, hraw]
  simp only [h]
  rfl

end Equations

/-- What may become of a record: it cannot be read, or its line is refused, finds no frame open,
stands as a root, or is nested. -/
theorem step_cases (chain : Chain) (n : Nat) (raw : List Char) :
    (∃ e, Line.parse n raw = .error e) ∨
      ∃ l, Line.parse n raw = .ok l ∧
        ((∃ e, chain.place l = .error e) ∨ chain.place l = .ok ⟨[], true⟩ ∨
          (∃ callers, chain.place l = .ok ⟨callers, false⟩) ∨
            ∃ caller callers, chain.place l = .ok ⟨caller :: callers, true⟩) := by
  cases hraw : Line.parse n raw with
  | error e => exact .inl ⟨e, rfl⟩
  | ok l =>
      refine .inr ⟨l, rfl, ?_⟩
      cases hplace : chain.place l with
      | error e => exact .inl ⟨e, rfl⟩
      | ok p =>
          obtain ⟨callers, nested⟩ := p
          cases nested with
          | false => exact .inr (.inr (.inl ⟨callers, rfl⟩))
          | true =>
              cases callers with
              | nil => exact .inr (.inl rfl)
              | cons caller callers => exact .inr (.inr (.inr ⟨caller, callers, rfl⟩))

section Step

variable (resolve : String → Option Node) (skip : List String) {before : List Line} {l : Line}
  {n : Nat} {raw : List Char} (rest : List (List Char)) (s : Summary)

/-- An admitted line is counted with its call, and the rest is read after it. -/
theorem run_of_admits (acc : Accepted before) (hbefore : ∀ p ∈ before, p.Aligned)
    (hraw : Line.parse n raw = .ok l) (h : Admits before l) :
    run resolve skip (chainAfter (frameAt resolve skip) before) s n (raw :: rest) =
      (run resolve skip (chainAfter (frameAt resolve skip) (l :: before))
        ((s.meet (frameAt resolve skip l).standing).finish
          (callAt (frameAt resolve skip) before l)) (n + 1) rest).prepend
        (callAt (frameAt resolve skip) before l) := by
  have hl := parse_aligned hraw
  have hplace := place_of_admits (frameAt resolve skip) acc hbefore hl h
  have hafter : chainAfter (frameAt resolve skip) (l :: before) =
      ⟨frameAt resolve skip l ::
        (openBelow (height (l :: before)) before).map (frameAt resolve skip), l.indent⟩ := by
    rw [chainAfter, openBelow_succ_height, List.map_cons]
  rw [hafter, callAt, opener?]
  by_cases hpos : 0 < l.indent
  · have hlevel := hl.indent_pos_iff.mp hpos
    have hheight := height_pos ⟨h, acc⟩ hlevel
    have hne : before ≠ [] := by
      rintro rfl
      exact absurd (show l.level = 0 from h) (by omega)
    have hlength := length_openBelow acc hne (height_cons_le ⟨h, acc⟩)
    rw [decide_eq_true hpos] at hplace
    cases hopen : openBelow (height (l :: before)) before with
    | nil =>
        rw [hopen, List.length_nil] at hlength
        omega
    | cons p ps =>
        rw [hopen, List.map_cons] at hplace
        rw [run_of_nested hraw hplace]
        rfl
  · have hlevel := (not_congr hl.indent_pos_iff).mp hpos
    have hheight : height (l :: before) = 0 := by
      rw [height]
      omega
    rw [decide_eq_false hpos] at hplace
    rw [run_of_root hraw hplace, hheight, openBelow_zero]
    rfl

/-- A line that is not admitted ends the run. -/
theorem run_of_not_admits (acc : Accepted before) (hbefore : ∀ p ∈ before, p.Aligned)
    (hraw : Line.parse n raw = .ok l) (h : ¬ Admits before l) :
    ∃ frames, run resolve skip (chainAfter (frameAt resolve skip) before) s n (raw :: rest) =
      .abandoned frames (s.meet (frameAt resolve skip l).standing) (refusal before l) := by
  have hl := parse_aligned hraw
  rcases place_of_not_admits (frameAt resolve skip) acc hbefore hl h with ⟨hplace, href⟩ | hplace
  · exact ⟨[], by rw [run_of_orphan hraw hplace, href]⟩
  · exact ⟨_, run_of_place_error hraw hplace⟩

end Step

/-! ## The whole run -/

theorem callsAfter_cons (frame : Line → Frame) (before : List Line) (l : Line) (ls : List Line) :
    callsAfter frame before (l :: ls) =
      (callAt frame before l).toList ++ callsAfter frame (l :: before) ls := by
  unfold callsAfter
  rw [withEarlier, List.filterMap_cons]
  cases callAt frame before l <;> rfl

/-- Counting a line and then the lines behind it. -/
theorem after_cons (frame : Line → Frame) (s : Summary) (l : Line) (ls : List Line)
    (e : Option Edge) (calls : List Edge) :
    ((s.meet (frame l).standing).finish e).after frame ls calls =
      s.after frame (l :: ls) (e.toList ++ calls) := by
  cases h : (frame l).standing <;>
    simp [Summary.after, Summary.finish, Summary.meet, h] <;> omega

/-- An outcome with calls in front of its own. -/
def Outcome.behind (calls : List Edge) (o : Outcome) : Outcome :=
  { o with edges := calls ++ o.edges }

theorem Outcome.prepend_behind (e : Option Edge) (calls : List Edge) (o : Outcome) :
    (o.behind calls).prepend e = o.behind (e.toList ++ calls) := by
  rw [prepend, behind, behind, List.append_assoc]

/-- **The run in two parts.** Behind lines that the history admits the rest is read from the chain
that they leave. -/
theorem run_append (resolve : String → Option Node) (skip : List String) {before : List Line}
    {done : List (List Char)} {n : Nat} {lines : List Line} (s : Summary) (acc : Accepted before)
    (hbefore : ∀ p ∈ before, p.Aligned) (hread : readAll n done = .ok lines)
    (h : AdmitsAll before lines) (rest : List (List Char)) :
    run resolve skip (chainAfter (frameAt resolve skip) before) s n (done ++ rest) =
      (run resolve skip (chainAfter (frameAt resolve skip) (lines.reverse ++ before))
        (s.after (frameAt resolve skip) lines (callsAfter (frameAt resolve skip) before lines))
        (n + lines.length) rest).behind (callsAfter (frameAt resolve skip) before lines) := by
  induction done generalizing n lines before s with
  | nil =>
      cases hread
      rfl
  | cons raw done ih =>
      obtain ⟨l, ls, hl, hs, rfl⟩ := readAll_cons hread
      have acc' : Accepted (l :: before) := ⟨h.1, acc⟩
      have hbefore' := List.forall_mem_cons.mpr ⟨parse_aligned hl, hbefore⟩
      rw [List.cons_append, run_of_admits resolve skip _ s acc hbefore hl h.1,
        ih _ acc' hbefore' hs h.2, callsAfter_cons, ← after_cons, Outcome.prepend_behind,
        List.reverse_cons, List.append_assoc, List.singleton_append, List.length_cons,
        Nat.add_comm ls.length, ← Nat.add_assoc]

/-- **The run over an accepted listing.** Each line calls from its opener, every line is counted,
and the frames of the open lines stay open. -/
theorem run_of_admitsAll (resolve : String → Option Node) (skip : List String) {before : List Line}
    {raws : List (List Char)} {n : Nat} {lines : List Line} (s : Summary) (acc : Accepted before)
    (hbefore : ∀ p ∈ before, p.Aligned) (hread : readAll n raws = .ok lines)
    (h : AdmitsAll before lines) :
    run resolve skip (chainAfter (frameAt resolve skip) before) s n raws =
      ⟨callsAfter (frameAt resolve skip) before lines,
        s.after (frameAt resolve skip) lines (callsAfter (frameAt resolve skip) before lines),
        (chainAfter (frameAt resolve skip) (lines.reverse ++ before)).frames, none⟩ := by
  have hrun := run_append resolve skip s acc hbefore hread h []
  rw [List.append_nil, run, Outcome.behind, List.append_nil] at hrun
  exact hrun

/-- The outcome of an accepted listing. -/
theorem reconstruct_of_admitsAll (resolve : String → Option Node) (skip : List String)
    {listing : String} {lines : List Line} (hread : readAll 1 (records listing) = .ok lines)
    (h : AdmitsAll [] lines) :
    reconstruct resolve skip listing =
      ⟨callsAfter (frameAt resolve skip) [] lines,
        Summary.zero.after (frameAt resolve skip) lines
          (callsAfter (frameAt resolve skip) [] lines),
        (chainAfter (frameAt resolve skip) lines.reverse).frames, none⟩ := by
  have acc : Accepted [] := trivial
  have hrun := run_of_admitsAll resolve skip .zero acc (by simp) hread h
  rw [List.append_nil] at hrun
  exact hrun

end CallForest.Reconstruction
