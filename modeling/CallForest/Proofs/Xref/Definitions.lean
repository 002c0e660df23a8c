import CallForest.Event
import CallForest.Proofs.Text.Decimal
import CallForest.Proofs.Text.Lines

/-!
# What is found in a cross-reference listing

A line is marked if its second word is `*`. Each marked line comes to one finding, in the order of
the lines, and no other line does: to a definition if a third word ends in a colon and a number of
32 bits, and otherwise to a note with the number of the line (`Yields`, `Accounts`).

Conversely a list of definitions, printed with a line for each (`Shows`), is read back as it is,
whatever blank lines and references stand between (`definitions_exact`).
-/

namespace CallForest

namespace Xref

/-- A location ends in a colon and a number of 32 bits. -/
def Locates (location : List Char) (line : UInt32) : Prop :=
  ∃ file digits, location = file ++ ':' :: digits ∧ ':' ∉ digits ∧
    Text.word32? digits = some line

/-- Whether the second word of a line is `*`. -/
def IsMarked (line : List Char) : Prop :=
  (Text.words line)[1]? = some ['*']

instance (line : List Char) : Decidable (IsMarked line) :=
  inferInstanceAs (Decidable (_ = _))

/-- The marked lines of a listing, with their numbers. -/
def markedLines (listing : String) : List (Nat × List Char) :=
  (Text.numbered (Text.lines listing.toList)).filter fun l => IsMarked l.2

/-- What a marked line comes to. -/
inductive Yields : Nat × List Char → Finding → Prop
  | definition {lineNo line name location signature number}
      (words : Text.words line = name :: ['*'] :: location :: signature)
      (locates : Locates location number) :
      Yields (lineNo, line)
        (.definition ⟨String.ofList name, number, String.ofList (Text.joinWords signature)⟩)
  | noLineNumber {lineNo line name location signature}
      (words : Text.words line = name :: ['*'] :: location :: signature)
      (astray : ∀ number, ¬Locates location number) :
      Yields (lineNo, line) (.noLineNumber lineNo (String.ofList location))
  | noLocation {lineNo line name} (words : Text.words line = [name, ['*']]) :
      Yields (lineNo, line) (.noLocation lineNo (String.ofList line))

/-- What the lines of a listing come to. -/
structure Accounts (listing : String) : Prop where
  /-- Each marked line comes to one finding, in their order. -/
  findings : List.Forall₂ Yields (markedLines listing) (findings listing)
  /-- A finding is a definition or a note. -/
  length_eq : (markedLines listing).length =
    (definitions listing).length + (warnings listing).length

/-- What names and locates a definition: `name * file:line`. -/
def heading (d : Definition) (file : List Char) : List Char :=
  d.name.toList ++ ' ' :: (['*'] ++ ' ' :: (file ++ ':' :: Text.decimal d.line.toNat))

/-- A definition that can be printed: its name is a word, its signature is words with a space
between neighbours, and the name of the file is without white space. -/
structure Printable (d : Definition) (file : List Char) : Prop where
  name : Text.Solid d.name.toList
  file : ∀ c ∈ file, Text.isBlank c = false
  signature : ∃ ws, (∀ w ∈ ws, Text.Solid w) ∧ d.signature.toList = Text.joinWords ws

/-- How a line shows a definition, or none: a definition as `name * file:line signature`, and none
as any line without a mark. The space behind the location may be missing if there is no
signature. -/
inductive Shows : List Char → Option Definition → Prop
  | definition {d file} (h : Printable d file) :
      Shows (heading d file ++ ' ' :: d.signature.toList) (some d)
  | bare {d file} (h : Printable d file) (signature_eq : d.signature = "") :
      Shows (heading d file) (some d)
  | other {line} (newline : '\n' ∉ line) (unmarked : ¬IsMarked line) : Shows line none

/-- The listing of lines. A last line that is empty stands for a newline at the end. -/
def listingOf (lines : List (List Char)) : String :=
  String.ofList (['\n'].intercalate lines)

/-! ## Locations -/

theorem afterLastColon?_append (file : List Char) {digits : List Char} (h : ':' ∉ digits) :
    afterLastColon? (file ++ ':' :: digits) = some digits := by
  have hbehind : (file ++ ':' :: digits).reverse.takeWhile (· ≠ ':') = digits.reverse := by
    rw [List.reverse_append, List.reverse_cons, List.append_assoc, List.takeWhile_append_of_pos]
    · exact List.append_nil _
    · intro c hc
      exact decide_eq_true fun heq => h (heq ▸ List.mem_reverse.mp hc)
  rw [afterLastColon?, if_pos (by simp), hbehind, List.reverse_reverse]

theorem lineNumber?_eq_some_iff {location : List Char} {line : UInt32} :
    lineNumber? location = some line ↔ Locates location line := by
  constructor
  · intro h
    obtain ⟨digits, hdigits, hline⟩ := Option.bind_eq_some_iff.mp h
    have hcolon : ':' ∈ location := by
      by_contra hnone
      rw [afterLastColon?, if_neg hnone] at hdigits
      cases hdigits
    -- the last colon is the first one from behind
    obtain ⟨behind, front, hcut, hlast⟩ := List.eq_append_cons_of_mem (List.mem_reverse.mpr hcolon)
    have hlocation : location = front.reverse ++ ':' :: behind.reverse := by
      rw [← List.reverse_reverse location, hcut, List.reverse_append, List.reverse_cons,
        List.append_assoc, List.singleton_append]
    have hbehind : ':' ∉ behind.reverse := fun hmem => hlast (List.mem_reverse.mp hmem)
    rw [hlocation, afterLastColon?_append _ hbehind] at hdigits
    exact ⟨front.reverse, digits, Option.some.inj hdigits ▸ hlocation,
      Option.some.inj hdigits ▸ hbehind, hline⟩
  · rintro ⟨file, digits, rfl, hcolon, hline⟩
    rw [lineNumber?, afterLastColon?_append file hcolon, Option.bind_some, hline]

theorem locates_decimal (file : List Char) (line : UInt32) :
    Locates (file ++ ':' :: Text.decimal line.toNat) line :=
  ⟨file, _, rfl, Text.not_mem_decimal (by decide) _, Text.word32?_decimal line⟩

/-! ## Lines -/

theorem isMarked_iff {line : List Char} :
    IsMarked line ↔ ∃ name rest, Text.words line = name :: ['*'] :: rest := by
  refine ⟨fun h => ?_, fun ⟨name, rest, hwords⟩ => ?_⟩
  · unfold IsMarked at h
    cases hwords : Text.words line with
    | nil => simp [hwords] at h
    | cons name rest =>
        cases rest with
        | nil => simp [hwords] at h
        | cons mark rest =>
            obtain rfl : mark = ['*'] := by simpa [hwords] using h
            exact ⟨name, rest, rfl⟩
  · rw [IsMarked, hwords]
    rfl

variable {name location line : List Char} {signature : List (List Char)}

/-- A marked line with a line number comes to a definition. -/
theorem readLine_of_locates (lineNo : Nat) {number : UInt32}
    (hwords : Text.words line = name :: ['*'] :: location :: signature)
    (hlocates : Locates location number) :
    readLine lineNo line = some (.definition
      ⟨String.ofList name, number, String.ofList (Text.joinWords signature)⟩) := by
  rw [readLine]
  simp only [hwords, lineNumber?_eq_some_iff.mpr hlocates]

theorem readLine_of_unmarked (lineNo : Nat) (h : ¬IsMarked line) : readLine lineNo line = none := by
  unfold readLine
  split
  · next hwords => exact absurd (isMarked_iff.mpr ⟨_, _, hwords⟩) h
  · next hwords => exact absurd (isMarked_iff.mpr ⟨_, _, hwords⟩) h
  · rfl

/-- A marked line comes to a finding. -/
theorem exists_yields (lineNo : Nat) (h : IsMarked line) :
    ∃ finding, readLine lineNo line = some finding ∧ Yields (lineNo, line) finding := by
  obtain ⟨name, rest, hwords⟩ := isMarked_iff.mp h
  cases rest with
  | nil =>
      refine ⟨_, ?_, .noLocation hwords⟩
      rw [readLine]
      simp only [hwords]
  | cons location signature =>
      cases hnumber : lineNumber? location with
      | none =>
          refine ⟨_, ?_, .noLineNumber hwords fun number hlocates => ?_⟩
          · rw [readLine]
            simp only [hwords, hnumber]
          · rw [lineNumber?_eq_some_iff.mpr hlocates] at hnumber
            cases hnumber
      | some number =>
          have hlocates := lineNumber?_eq_some_iff.mp hnumber
          exact ⟨_, readLine_of_locates lineNo hwords hlocates, .definition hwords hlocates⟩

/-! ## Listings -/

theorem accounts (listing : String) : Accounts listing := by
  have hfindings : List.Forall₂ Yields (markedLines listing) (findings listing) :=
    Text.forall₂_filter_filterMap
      (fun l hl => exists_yields l.1 (of_decide_eq_true hl))
      (fun l hl => readLine_of_unmarked l.1 (of_decide_eq_false hl)) _
  refine ⟨hfindings, hfindings.length_eq.trans (Text.length_eq_add_of_exclusive ?_ _)⟩
  intro finding
  cases finding <;> rfl

/-! ## Printed listings -/

namespace Printable

variable {d : Definition} {file : List Char}

theorem solid_location (h : Printable d file) :
    Text.Solid (file ++ ':' :: Text.decimal d.line.toNat) := by
  refine ⟨List.append_ne_nil_of_right_ne_nil _ (List.cons_ne_nil _ _), ?_⟩
  exact List.forall_mem_append.mpr
    ⟨h.file, List.forall_mem_cons.mpr ⟨rfl, (Text.solid_decimal _).2⟩⟩

theorem words_heading (h : Printable d file) : Text.words (heading d file) =
    [d.name.toList, ['*'], file ++ ':' :: Text.decimal d.line.toNat] := by
  rw [heading, Text.words_solid_append h.name rfl,
    Text.words_solid_append (by decide) rfl, Text.words_of_solid h.solid_location]

/-- What is printed for a definition is read back. -/
theorem readLine_eq (h : Printable d file) {line : List Char}
    (hwords : Text.words line = Text.words (heading d file) ++ Text.words d.signature.toList)
    (lineNo : Nat) : readLine lineNo line = some (.definition d) := by
  obtain ⟨ws, hws, hsignature⟩ := h.signature
  rw [h.words_heading, hsignature, Text.words_joinWords hws] at hwords
  rw [readLine_of_locates lineNo hwords (locates_decimal file d.line)]
  change some (Finding.definition ⟨_, _, String.ofList (Text.joinWords ws)⟩) = _
  rw [← hsignature, String.ofList_toList, String.ofList_toList]

theorem newline_not_mem (h : Printable d file) :
    '\n' ∉ heading d file ∧ '\n' ∉ d.signature.toList := by
  have hsolid : ∀ w : List Char, (∀ c ∈ w, Text.isBlank c = false) → '\n' ∉ w := by
    intro w hw hmem
    cases hw '\n' hmem
  constructor
  · simp [heading, hsolid _ h.name.2, hsolid _ h.solid_location.2]
  · obtain ⟨ws, hws, hsignature⟩ := h.signature
    intro hmem
    obtain hspace | ⟨w, hw, hmem⟩ := Text.mem_joinWords (hsignature ▸ hmem)
    · cases hspace
    · exact hsolid w (hws w hw).2 hmem

end Printable

namespace Shows

variable {text : List Char} {item : Option Definition}

theorem newline_not_mem (h : Shows text item) : '\n' ∉ text := by
  cases h with
  | definition h =>
      obtain ⟨hheading, hsignature⟩ := h.newline_not_mem
      simp [hheading, hsignature]
  | bare h => exact h.newline_not_mem.1
  | other newline => exact newline

/-- A shown line is read as what it shows, also without a carriage return at its end. -/
theorem readLine_eq (h : Shows text item) {line : List Char}
    (hline : Text.words line = Text.words text) (lineNo : Nat) :
    readLine lineNo line = item.map .definition := by
  cases h with
  | definition h => exact h.readLine_eq (hline.trans (Text.words_append _ _ rfl)) lineNo
  | bare h signature_eq =>
      refine h.readLine_eq ?_ lineNo
      rw [hline, signature_eq]
      exact (List.append_nil _).symm
  | other _ unmarked =>
      exact readLine_of_unmarked lineNo fun h => unmarked (by rwa [IsMarked, ← hline])

end Shows

/-- What lines come to that are numbered from `k`. -/
def findingsFrom (k : Nat) (lines : List (List Char)) : List Finding :=
  (Text.numberedFrom k lines).filterMap fun (lineNo, line) => readLine lineNo line

/-- Lines that show definitions come to these. The last of them is ended by no newline, and is no
line if it is empty. -/
theorem findingsFrom_closeLines {texts : List (List Char)} {items : List (Option Definition)}
    (h : List.Forall₂ Shows texts items) (k : Nat) :
    findingsFrom k (Text.closeLines texts) = items.reduceOption.map .definition := by
  rw [← List.reduceOption_map]
  refine Text.filterMap_closeLines (fun _ => rfl) (List.forall₂_map_right_iff.mpr (h.imp ?_)) k
  intro text item hshows lineNo
  exact ⟨hshows.readLine_eq rfl lineNo, hshows.readLine_eq (Text.words_dropReturn text) lineNo⟩

/-- A listing of lines that show definitions comes to these. -/
theorem findings_listingOf {texts : List (List Char)} {items : List (Option Definition)}
    (h : List.Forall₂ Shows texts items) :
    findings (listingOf texts) = items.reduceOption.map .definition := by
  obtain ⟨hnewline, -⟩ := (List.forall₂_and_left texts items).mp
    (h.imp fun _ _ hshows => ⟨hshows.newline_not_mem, hshows⟩)
  rw [findings, listingOf, String.toList_ofList, Text.lines_intercalate hnewline]
  exact findingsFrom_closeLines h 1

/-- **Every definition is found, and no other**: each marked line of a listing comes to a definition
or to a note, and definitions that are printed are read back as they are. -/
theorem definitions_exact :
    (∀ listing, Accounts listing) ∧
      ∀ texts items, List.Forall₂ Shows texts items →
        definitions (listingOf texts) = items.reduceOption ∧ warnings (listingOf texts) = [] := by
  refine ⟨accounts, fun texts items h => ?_⟩
  rw [definitions, warnings, findings_listingOf h, List.filterMap_map, List.filterMap_map]
  constructor
  · exact List.filterMap_some
  · exact List.filterMap_eq_nil_iff.mpr fun _ _ => rfl

/-- A function that is named as the mark is, of a file with colons; a blank line and a reference;
and a function without a signature, of a file without a name. -/
def starListing : String :=
  "* * c:/old:src/a.c:4294967295 int *star (void)\n\nprintf   a.c:22\nsetup * :3\n"

theorem definitions_exact_starListing :
    definitions starListing = [⟨"*", 4294967295, "int *star (void)"⟩, ⟨"setup", 3, ""⟩] ∧
      warnings starListing = [] := by
  have hstar : Printable ⟨"*", 4294967295, "int *star (void)"⟩ "c:/old:src/a.c".toList :=
    ⟨by decide +kernel, Text.not_blank_of_all (by decide +kernel),
      ["int".toList, "*star".toList, "(void)".toList], by decide +kernel, by decide +kernel⟩
  have hsetup : Printable ⟨"setup", 3, ""⟩ [] :=
    ⟨by decide +kernel, Text.not_blank_of_all rfl, [], by decide, rfl⟩
  have hblank : Shows [] none := .other (by decide) (by decide)
  have hprintf : Shows "printf   a.c:22".toList none :=
    .other (by decide +kernel) (by decide +kernel)
  obtain ⟨texts, hshows, hlisting⟩ : ∃ texts, List.Forall₂ Shows texts
      [some ⟨"*", 4294967295, "int *star (void)"⟩, none, none, some ⟨"setup", 3, ""⟩, none] ∧
      listingOf texts = starListing :=
    ⟨_, .cons (.definition hstar) (.cons hblank (.cons hprintf (.cons (.bare hsetup rfl)
      (.cons hblank .nil)))), by decide +kernel⟩
  exact hlisting ▸ definitions_exact.2 texts _ hshows

end Xref

end CallForest
