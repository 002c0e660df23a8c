import CallForest.Listing.Reconstruction
import CallForest.Proofs.Text.Lines
import CallForest.Report
import CallForest.Xref

/-!
# Line endings

A text without carriage returns has the same lines when one is put in front of every newline
(`lines_withReturns`), and its records are the same up to the return that is dropped when a line of
a listing is read (`map_dropReturn_records_withReturns`). So nothing that is read of it changes
(`ReadAlike`): not the calls of a listing, nor its counts, nor the error that ends it, nor what the
lines of a cross-reference listing and the rows of a report come to.

The pieces between newlines are what both ways to cut a text begin with. The one behind the last
newline is not ended by one and gets no return, so it is a case of its own throughout.
-/

namespace CallForest

namespace Text

/-- A text with a carriage return in front of each newline. -/
def withReturns (text : List Char) : List Char :=
  text.flatMap fun c => if c = '\n' then ['\r', '\n'] else [c]

/-- Pieces with a carriage return behind each but the last. -/
def returned : List (List Char) → List (List Char)
  | [] => []
  | [last] => [last]
  | p :: q :: ps => (p ++ ['\r']) :: returned (q :: ps)

/-! ## Pieces -/

theorem mem_of_mem_splitOn {text piece : List Char} {c : Char} (h : piece ∈ text.splitOn '\n')
    (hc : c ∈ piece) : c ∈ text := by
  induction text generalizing piece with
  | nil =>
      rw [List.splitOn_nil, List.mem_singleton] at h
      exact h ▸ hc
  | cons d text ih =>
      rw [List.splitOn_cons_eq_if_modifyHead] at h
      split at h
      · obtain rfl | h := List.mem_cons.mp h
        · cases hc
        · exact List.mem_cons_of_mem d (ih h hc)
      · obtain ⟨q, qs, hsplit⟩ := List.exists_cons_of_ne_nil (List.splitOn_ne_nil '\n' text)
        rw [hsplit] at h ih
        obtain rfl | h := List.mem_cons.mp h
        · exact List.mem_cons.mpr ((List.mem_cons.mp hc).imp_right (ih List.mem_cons_self))
        · exact List.mem_cons_of_mem d (ih (List.mem_cons_of_mem q h) hc)

theorem returned_cons (p : List Char) {ps : List (List Char)} (h : ps ≠ []) :
    returned (p :: ps) = (p ++ ['\r']) :: returned ps := by
  cases ps with
  | nil => exact absurd rfl h
  | cons q ps => rfl

/-- What is put in front of the first piece stays there. -/
theorem returned_modifyHead (c : Char) (ps : List (List Char)) :
    returned (ps.modifyHead (c :: ·)) = (returned ps).modifyHead (c :: ·) := by
  match ps with
  | [] => rfl
  | [_] => rfl
  | _ :: _ :: _ => rfl

theorem splitOn_withReturns (text : List Char) :
    (withReturns text).splitOn '\n' = returned (text.splitOn '\n') := by
  induction text with
  | nil => rfl
  | cons c text ih =>
      rw [withReturns, List.flatMap_cons, ← withReturns]
      by_cases hc : c = '\n'
      · subst hc
        have hnewline : ('\n' :: text).splitOn '\n' = [] :: text.splitOn '\n' :=
          List.splitOn_append_cons_self [] text
        -- the return is a piece of its own, which the newline closes
        have hreturn : ('\r' :: '\n' :: withReturns text).splitOn '\n' =
            ['\r'] :: (withReturns text).splitOn '\n' :=
          List.splitOn_append_cons_self ['\r'] (withReturns text)
        rw [hnewline, returned_cons _ (List.splitOn_ne_nil _ _), ← ih]
        exact hreturn
      · rw [if_neg hc, List.singleton_append, List.splitOn_cons_eq_if_modifyHead,
          List.splitOn_cons_eq_if_modifyHead, if_neg (by simpa using hc),
          if_neg (by simpa using hc), ih, returned_modifyHead]

theorem dropReturn_concat (p : List Char) : dropReturn (p ++ ['\r']) = p := by
  rw [dropReturn, if_pos List.getLast?_concat, List.dropLast_concat]

theorem dropReturn_of_not_mem {p : List Char} (h : '\r' ∉ p) : dropReturn p = p := by
  rw [dropReturn, if_neg fun hlast => h (List.mem_of_getLast? hlast)]

/-! ## Lines and records -/

theorem returned_ne_nil {ps : List (List Char)} (h : ps ≠ []) : returned ps ≠ [] := by
  match ps with
  | [] => exact absurd rfl h
  | [p] => exact List.cons_ne_nil p []
  | p :: q :: ps => exact List.cons_ne_nil _ _

theorem closeLines_returned {ps : List (List Char)} (h : ∀ p ∈ ps, '\r' ∉ p) :
    closeLines (returned ps) = closeLines ps := by
  induction ps with
  | nil => rfl
  | cons p ps ih =>
      obtain ⟨hp, hps⟩ := List.forall_mem_cons.mp h
      by_cases hne : ps = []
      · subst hne
        rfl
      · rw [returned_cons p hne, closeLines_cons _ (returned_ne_nil hne), closeLines_cons p hne,
          ih hps, dropReturn_concat, dropReturn_of_not_mem hp]

theorem map_dropReturn_closePieces_returned {ps : List (List Char)} (h : ∀ p ∈ ps, '\r' ∉ p) :
    (closePieces (returned ps)).map dropReturn = (closePieces ps).map dropReturn := by
  induction ps with
  | nil => rfl
  | cons p ps ih =>
      obtain ⟨hp, hps⟩ := List.forall_mem_cons.mp h
      by_cases hne : ps = []
      · subst hne
        rfl
      · have hreturned := closePieces_append [p ++ ['\r']] (returned_ne_nil hne)
        have hpieces := closePieces_append [p] hne
        rw [List.singleton_append] at hreturned hpieces
        rw [returned_cons p hne, hreturned, hpieces, List.singleton_append, List.singleton_append,
          List.map_cons, List.map_cons, ih hps, dropReturn_concat, dropReturn_of_not_mem hp]

section Returns

variable {text : List Char} (h : '\r' ∉ text)

include h

/-- **Lines are the same** with a carriage return in front of every newline. -/
theorem lines_withReturns : lines (withReturns text) = lines text := by
  have hpieces : ∀ p ∈ text.splitOn '\n', '\r' ∉ p := fun _ hp hreturn =>
    h (mem_of_mem_splitOn hp hreturn)
  rw [lines, splitOn_withReturns, closeLines_returned hpieces, lines]

theorem map_dropReturn_records_withReturns :
    (records (withReturns text)).map dropReturn = (records text).map dropReturn := by
  have hpieces : ∀ p ∈ text.splitOn '\n', '\r' ∉ p := fun _ hp hreturn =>
    h (mem_of_mem_splitOn hp hreturn)
  rw [records, splitOn_withReturns, map_dropReturn_closePieces_returned hpieces, records]

end Returns

end Text

/-! ## Readers -/

namespace Listing

/-- A carriage return at the end of a line is dropped before the line is read. -/
theorem Line.parse_congr {raw raw' : List Char} (h : Text.dropReturn raw = Text.dropReturn raw')
    (lineNo : Nat) : Line.parse lineNo raw = Line.parse lineNo raw' := by
  rw [Line.parse, h, Line.parse]

end Listing

namespace Reconstruction

open Text (dropReturn)

/-- Records that are the same without a carriage return at the end come to the same. -/
theorem run_congr (resolve : String → Option Node) (skip : List String)
    {raws raws' : List (List Char)} (h : raws.map dropReturn = raws'.map dropReturn) (chain : Chain)
    (summary : Summary) (lineNo : Nat) :
    run resolve skip chain summary lineNo raws = run resolve skip chain summary lineNo raws' := by
  induction raws generalizing raws' chain summary lineNo with
  | nil =>
      obtain rfl := List.map_eq_nil_iff.mp h.symm
      rfl
  | cons raw raws ih =>
      obtain ⟨raw', raws', rfl, hraw, hraws⟩ := List.map_eq_cons_iff.mp h.symm
      rw [run, run, Listing.Line.parse_congr hraw.symm]
      simp only [ih hraws.symm]

/-- The line that a listing ends with is indented as it was. -/
theorem Outcome.chain_congr {listing listing' : String}
    (h : (Listing.records listing).map dropReturn = (Listing.records listing').map dropReturn)
    (o : Outcome) : o.chain listing = o.chain listing' := by
  have hlast := congrArg (fun raws => (raws.take o.summary.lines).getLast?) h
  simp only [← List.map_take, List.getLast?_map] at hlast
  rw [Outcome.chain, Outcome.chain]
  generalize ((Listing.records listing).take o.summary.lines).getLast? = last at hlast
  generalize ((Listing.records listing').take o.summary.lines).getLast? = last' at hlast
  cases last with
  | none =>
      obtain rfl := Option.map_eq_none_iff.mp hlast.symm
      rfl
  | some raw =>
      obtain ⟨raw', rfl, hraw⟩ := Option.map_eq_some_iff.mp hlast.symm
      dsimp only
      rw [hraw]

end Reconstruction

/-- A text with a carriage return in front of each newline. -/
def withReturns (text : String) : String :=
  String.ofList (Text.withReturns text.toList)

/-- The same is read of two texts, whatever they are taken for. -/
structure ReadAlike (text text' : String) : Prop where
  /-- As listings they have the same calls, counts and open frames, and the same error ends them. -/
  reconstruct_eq : ∀ resolve skip, reconstruct resolve skip text = reconstruct resolve skip text'
  /-- The same calls are recorded in a store. -/
  rebuild_eq : ∀ {σ : Type} [GraphStore σ] (skip : List String) (store : σ),
    rebuild skip text store = rebuild skip text' store
  /-- A rebuilder that goes on with other listings has been left the same. -/
  read_eq : ∀ {σ : Type} [GraphStore σ] (skip : List String) (b : Rebuilder σ),
    b.read skip text = b.read skip text'
  /-- As cross-reference listings they come to the same definitions and warnings. -/
  findings_eq : Xref.findings text = Xref.findings text'
  /-- As reports they come to the same measurements and warnings. -/
  entries_eq : Report.entries text = Report.entries text'

/-- **Line endings do not matter**: a text without carriage returns reads the same with one in
front of every newline. -/
theorem readAlike_withReturns {text : String} (h : '\r' ∉ text.toList) :
    ReadAlike (withReturns text) text := by
  have hrecords : (Listing.records (withReturns text)).map Text.dropReturn =
      (Listing.records text).map Text.dropReturn := by
    rw [Listing.records, withReturns, String.toList_ofList]
    exact Text.map_dropReturn_records_withReturns h
  have hlines : Text.lines (withReturns text).toList = Text.lines text.toList := by
    rw [withReturns, String.toList_ofList]
    exact Text.lines_withReturns h
  have hreconstruct : ∀ resolve skip,
      reconstruct resolve skip (withReturns text) = reconstruct resolve skip text :=
    fun resolve skip => Reconstruction.run_congr resolve skip hrecords _ _ _
  refine ⟨hreconstruct, fun skip store => ?_, fun skip b => ?_, ?_, ?_⟩
  · rw [rebuild, hreconstruct, rebuild]
  · rw [Rebuilder.read, Rebuilder.read,
      Reconstruction.run_congr _ skip hrecords, Reconstruction.Outcome.chain_congr hrecords]
  · rw [Xref.findings, hlines, Xref.findings]
  · rw [Report.entries, hlines, Report.entries]

/-- Lines of a listing, one of them blank, two definitions, one of them without a location, a row
whose last field is its name, and a last line that no newline ends. -/
def mixedText : String :=
  "main()\n    run()\n\nmain *\nrun * a.c:3 int run (int)\n12,5,,,,,,run\n  stop()"

theorem readAlike_mixedText :
    (reconstruct (fun _ => none) [] (withReturns mixedText)).failure =
        some (.malformedLine (.empty 3)) ∧
      Xref.findings (withReturns mixedText) =
        [.noLocation 4 "main *", .definition ⟨"run", 3, "int run (int)"⟩] ∧
      Report.measurements (withReturns mixedText) = [⟨"run", ⟨5, 12⟩⟩] := by
  have hreturns : '\r' ∉ mixedText.toList := by
    rw [mixedText, String.toList_ofList]
    decide +kernel
  have h : ReadAlike (withReturns mixedText) mixedText := readAlike_withReturns hreturns
  refine ⟨?_, ?_, ?_⟩
  · rw [h.reconstruct_eq, reconstruct, Listing.records, mixedText, String.toList_ofList]
    decide +kernel
  · rw [h.findings_eq, Xref.findings, mixedText, String.toList_ofList]
    decide +kernel
  · rw [Report.measurements, h.entries_eq, Report.entries, mixedText, String.toList_ofList]
    decide +kernel

end CallForest
