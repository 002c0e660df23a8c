import CallForest.Listing.Line
import CallForest.Proofs.Text.Words
import Mathlib.Data.List.TakeWhile

/-!
# The grammar of a line

A line is a number of spaces, four to a level, then a word, then nothing or white space with
anything behind it. The word is the name, or the name with `()` behind it.

`Cut` says where the first word of a text stands, and `verdict` what a line comes to whose first
word is known: its faults are looked for in a fixed order (`parse_of_cut`). So a line is read
exactly if it has this form, every other line has the first of its faults for an error, and a line
that is printed in this form is read as it was printed (`parse_byGrammar`).
-/

namespace CallForest.Listing

/-- The first word of a text, with the white space in front of it and what follows it. The word is
as long as it can be. -/
structure Cut (cs blanks token rest : List Char) : Prop where
  eq_append : cs = blanks ++ (token ++ rest)
  blank : ∀ c ∈ blanks, Text.isBlank c = true
  solid : ∀ c ∈ token, Text.isBlank c = false
  token_ne : token ≠ []
  ends : ∀ c ∈ rest.head?, Text.isBlank c = true

/-- A word names what stands in front of its `()`, or what it is if it does not end in `()`. -/
def Names (token name : List Char) : Prop :=
  token = name ++ ['(', ')'] ∨ token = name ∧ ¬['(', ')'] <:+ token

/-- What a line comes to, from its first word and the white space in front of that. -/
def verdict (lineNo : Nat) (blanks token : List Char) : Except LineError Line :=
  if token = ['(', ')'] then .error (.empty lineNo)
  else if blanks.any (· ≠ ' ') then .error (.badIndent lineNo)
  else if 4 ∣ blanks.length then
    .ok ⟨lineNo, blanks.length, String.ofList (dropCallMark token)⟩
  else .error (.misaligned lineNo blanks.length)

/-- What lines are read, and what the faults of the others are. One carriage return at the end is no
part of the line. -/
structure ReadsByGrammar (lineNo : Nat) (raw : List Char) : Prop where
  ok_iff : ∀ l, Line.parse lineNo raw = .ok l ↔
    l.lineNo = lineNo ∧ l.name ≠ "" ∧ 4 ∣ l.indent ∧ ∃ token rest,
      Cut (Text.dropReturn raw) (List.replicate l.indent ' ') token rest ∧
        Names token l.name.toList
  /-- There is no word, or the first is `()`. -/
  empty_iff : Line.parse lineNo raw = .error (.empty lineNo) ↔
    (∀ c ∈ Text.dropReturn raw, Text.isBlank c = true) ∨
      ∃ blanks rest, Cut (Text.dropReturn raw) blanks ['(', ')'] rest
  /-- White space other than spaces stands in front of the word. -/
  badIndent_iff : Line.parse lineNo raw = .error (.badIndent lineNo) ↔
    ∃ blanks token rest, Cut (Text.dropReturn raw) blanks token rest ∧ token ≠ ['(', ')'] ∧
      ∃ c ∈ blanks, c ≠ ' '
  /-- Only spaces do, and they make no whole number of levels. -/
  misaligned_iff : ∀ spaces, Line.parse lineNo raw = .error (.misaligned lineNo spaces) ↔
    ∃ token rest, Cut (Text.dropReturn raw) (List.replicate spaces ' ') token rest ∧
      token ≠ ['(', ')'] ∧ ¬4 ∣ spaces
  error_cases : ∀ e, Line.parse lineNo raw = .error e →
    e = .empty lineNo ∨ e = .badIndent lineNo ∨ ∃ spaces, e = .misaligned lineNo spaces

/-! ## Names and marks -/

theorem dropCallMark_append (cs : List Char) : dropCallMark (cs ++ ['(', ')']) = cs := by
  have hmark : ['(', ')'].isSuffixOf (cs ++ ['(', ')']) = true :=
    List.isSuffixOf_iff_suffix.mpr (List.suffix_append _ _)
  rw [dropCallMark, if_pos hmark, show ['(', ')'] = ['('] ++ [')'] from rfl, ← List.append_assoc,
    List.dropLast_concat, List.dropLast_concat]

theorem dropCallMark_of_not_suffix {token : List Char} (h : ¬['(', ')'] <:+ token) :
    dropCallMark token = token :=
  if_neg fun hmark => h (List.isSuffixOf_iff_suffix.mp hmark)

/-- What is left when the mark is dropped is what the word names. -/
theorem dropCallMark_eq_iff {token name : List Char} :
    dropCallMark token = name ↔ Names token name := by
  constructor
  · rintro rfl
    by_cases hmark : ['(', ')'] <:+ token
    · obtain ⟨front, rfl⟩ := hmark
      exact .inl (by rw [dropCallMark_append])
    · exact .inr ⟨(dropCallMark_of_not_suffix hmark).symm, hmark⟩
  · rintro (rfl | ⟨rfl, hmark⟩)
    · exact dropCallMark_append name
    · exact dropCallMark_of_not_suffix hmark

theorem Names.subset {token name : List Char} (h : Names token name) : name ⊆ token := by
  obtain rfl | ⟨rfl, -⟩ := h
  · exact List.subset_append_left name _
  · exact List.Subset.refl _

theorem not_blank_marked {name : List Char} (h : ∀ c ∈ name, Text.isBlank c = false) :
    ∀ c ∈ name ++ ['(', ')'], Text.isBlank c = false :=
  List.forall_mem_append.mpr ⟨h, Text.not_blank_of_all rfl⟩

/-- Of all words only `()` names nothing. -/
theorem dropCallMark_eq_nil_iff {token : List Char} (h : token ≠ []) :
    dropCallMark token = [] ↔ token = ['(', ')'] := by
  rw [dropCallMark_eq_iff]
  exact ⟨fun hnames => hnames.resolve_right fun hnone => h hnone.1, .inl⟩

/-! ## The first word -/

namespace Cut

variable {cs blanks token rest : List Char}

theorem dropWhile_eq (h : Cut cs blanks token rest) :
    cs.dropWhile Text.isBlank = token ++ rest := by
  obtain ⟨c, token, rfl⟩ := List.exists_cons_of_ne_nil h.token_ne
  rw [h.eq_append, List.dropWhile_append_of_pos h.blank, List.cons_append,
    List.dropWhile_cons_of_neg (by simp [h.solid c List.mem_cons_self])]

theorem takeWhile_eq (h : Cut cs blanks token rest) : cs.takeWhile Text.isBlank = blanks := by
  have hsplit := List.takeWhile_append_dropWhile (p := Text.isBlank) (l := cs)
  rw [h.dropWhile_eq] at hsplit
  exact List.append_cancel_right (hsplit.trans h.eq_append)

theorem takeWhile_token (h : Cut cs blanks token rest) :
    (token ++ rest).takeWhile (fun c => !Text.isBlank c) = token := by
  rw [List.takeWhile_append_of_pos fun c hc => by rw [h.solid c hc]; rfl]
  cases rest with
  | nil => exact List.append_nil token
  | cons c rest =>
      rw [List.takeWhile_cons_of_neg (by simp [h.ends c rfl]), List.append_nil]

/-- A text has one first word at most. -/
theorem unique {blanks' token' rest' : List Char} (h : Cut cs blanks token rest)
    (h' : Cut cs blanks' token' rest') : blanks = blanks' ∧ token = token' := by
  have hbody : token ++ rest = token' ++ rest' := h.dropWhile_eq.symm.trans h'.dropWhile_eq
  exact ⟨h.takeWhile_eq.symm.trans h'.takeWhile_eq,
    h.takeWhile_token.symm.trans ((congrArg _ hbody).trans h'.takeWhile_token)⟩

theorem firstWord?_eq (h : Cut cs blanks token rest) : firstWord? cs = some token := by
  rw [firstWord?, Text.trimStart, h.dropWhile_eq, h.takeWhile_token]
  cases htoken : token with
  | nil => exact absurd htoken h.token_ne
  | cons c token => rfl

end Cut

/-- A text with a first word can be cut there. -/
theorem exists_cut_of_firstWord? {cs token : List Char} (h : firstWord? cs = some token) :
    ∃ blanks rest, Cut cs blanks token rest := by
  rw [firstWord?] at h
  split at h
  · cases h
  · next c w htake =>
    cases h
    refine ⟨cs.takeWhile Text.isBlank, (Text.trimStart cs).dropWhile fun c => !Text.isBlank c,
      ?_, fun c hc => List.mem_takeWhile_imp hc, ?_, List.cons_ne_nil c w, ?_⟩
    · rw [← htake, List.takeWhile_append_dropWhile]
      exact List.takeWhile_append_dropWhile.symm
    · rw [← htake]
      intro x hx
      simpa using List.mem_takeWhile_imp hx
    · intro x hx
      have hhead := List.head?_dropWhile_not (fun c => !Text.isBlank c) (Text.trimStart cs)
      rw [Option.mem_def.mp hx] at hhead
      simpa using hhead

/-- A text without a first word is white space. -/
theorem firstWord?_eq_none_iff {cs : List Char} :
    firstWord? cs = none ↔ ∀ c ∈ cs, Text.isBlank c = true := by
  rw [← List.dropWhile_eq_nil_iff]
  constructor
  · intro h
    rw [firstWord?, Text.trimStart] at h
    split at h
    · next htake =>
      cases hbody : cs.dropWhile Text.isBlank with
      | nil => rfl
      | cons c body =>
          have hc := List.head?_dropWhile_not Text.isBlank cs
          rw [hbody] at hc htake
          rw [List.takeWhile_cons_of_pos (by simpa using hc)] at htake
          cases htake
    · cases h
  · intro h
    rw [firstWord?, Text.trimStart, h]
    rfl

/-! ## Spaces in front -/

theorem splitIndent_eq (cs : List Char) :
    splitIndent cs = ((cs.takeWhile (· = ' ')).length, cs.dropWhile (· = ' ')) := by
  induction cs with
  | nil => rfl
  | cons c cs ih =>
      by_cases hc : c = ' '
      · subst hc
        rw [splitIndent, ih]
        rfl
      · rw [List.takeWhile_cons_of_neg (by simpa using hc),
          List.dropWhile_cons_of_neg (by simpa using hc), splitIndent]
        · rfl
        · intro cs' heq
          exact hc (List.cons.inj heq).1

/-- Spaces in front do not matter for the first word. -/
theorem firstWord?_dropWhile (cs : List Char) :
    firstWord? (cs.dropWhile (· = ' ')) = firstWord? cs := by
  have hspaces : ∀ c ∈ cs.takeWhile (· = ' '), Text.isBlank c = true := by
    intro c hc
    obtain rfl : c = ' ' := by simpa using List.mem_takeWhile_imp hc
    rfl
  have htrim : Text.trimStart (cs.dropWhile (· = ' ')) = Text.trimStart cs := by
    have hdrop : (cs.takeWhile (· = ' ') ++ cs.dropWhile (· = ' ')).dropWhile Text.isBlank =
        (cs.dropWhile (· = ' ')).dropWhile Text.isBlank := List.dropWhile_append_of_pos hspaces
    rw [List.takeWhile_append_dropWhile] at hdrop
    exact hdrop.symm
  rw [firstWord?, htrim, firstWord?]

theorem any_ne_space_iff {blanks : List Char} :
    blanks.any (· ≠ ' ') = true ↔ ∃ c ∈ blanks, c ≠ ' ' := by
  simp

/-- White space behind the spaces is white space other than spaces in front of the word. -/
theorem startsBlank_dropWhile {cs blanks token rest : List Char} (h : Cut cs blanks token rest) :
    startsBlank (cs.dropWhile (· = ' ')) = true ↔ ∃ c ∈ blanks, c ≠ ' ' := by
  obtain ⟨c, token, rfl⟩ := List.exists_cons_of_ne_nil h.token_ne
  have hc : Text.isBlank c = false := h.solid c List.mem_cons_self
  have hspace : c ≠ ' ' := by
    rintro rfl
    cases hc
  rw [h.eq_append, List.dropWhile_append]
  cases hblanks : blanks.dropWhile (· = ' ') with
  | nil =>
      rw [List.isEmpty_nil, if_pos rfl, List.cons_append,
        List.dropWhile_cons_of_neg (by simpa using hspace), startsBlank, hc]
      rw [List.dropWhile_eq_nil_iff] at hblanks
      constructor
      · intro hfalse
        cases hfalse
      · rintro ⟨x, hx, hne⟩
        exact absurd (by simpa using hblanks x hx) hne
  | cons b bs =>
      have hb := List.head?_dropWhile_not (· = ' ') blanks
      rw [hblanks] at hb
      have hmem : b ∈ blanks := List.dropWhile_subset _ (hblanks ▸ List.mem_cons_self)
      rw [List.isEmpty_cons, if_neg Bool.false_ne_true, List.cons_append, startsBlank,
        h.blank b hmem]
      exact ⟨fun _ => ⟨b, hmem, by simpa using hb⟩, fun _ => rfl⟩

/-! ## Lines -/

/-- What a line comes to is decided by its first word and the white space in front. -/
theorem parse_of_cut {raw blanks token rest : List Char}
    (h : Cut (Text.dropReturn raw) blanks token rest) (lineNo : Nat) :
    Line.parse lineNo raw = verdict lineNo blanks token := by
  have hblank := startsBlank_dropWhile h
  have hempty : (dropCallMark token).isEmpty = true ↔ token = ['(', ')'] := by
    rw [List.isEmpty_iff, dropCallMark_eq_nil_iff h.token_ne]
  rw [Line.parse, splitIndent_eq]
  dsimp only
  rw [firstWord?_dropWhile, h.firstWord?_eq]
  dsimp only
  rw [verdict]
  by_cases hmark : token = ['(', ')']
  · rw [if_pos (hempty.mpr hmark), if_pos hmark]
  · rw [if_neg (hempty.not.mpr hmark), if_neg hmark]
    by_cases hother : ∃ c ∈ blanks, c ≠ ' '
    · rw [if_pos (hblank.mpr hother), if_pos (any_ne_space_iff.mpr hother)]
    · rw [if_neg (hblank.not.mpr hother), if_neg (any_ne_space_iff.not.mpr hother)]
      -- all white space in front is spaces, so their number is counted
      have hspaces : (Text.dropReturn raw).takeWhile (· = ' ') = blanks := by
        obtain ⟨c, token, rfl⟩ := List.exists_cons_of_ne_nil h.token_ne
        have hc : c ≠ ' ' := by
          rintro rfl
          cases h.solid ' ' List.mem_cons_self
        rw [h.eq_append, List.takeWhile_append_of_pos, List.cons_append,
          List.takeWhile_cons_of_neg (by simpa using hc), List.append_nil]
        intro x hx
        by_contra hne
        exact hother ⟨x, hx, by simpa using hne⟩
      rw [hspaces, indentUnit]
      by_cases haligned : 4 ∣ blanks.length
      · rw [if_neg (not_not.mpr (Nat.mod_eq_zero_of_dvd haligned)), if_pos haligned]
      · rw [if_pos (fun hzero => haligned (Nat.dvd_of_mod_eq_zero hzero)), if_neg haligned]

theorem parse_of_blank {raw : List Char} (h : ∀ c ∈ Text.dropReturn raw, Text.isBlank c = true)
    (lineNo : Nat) : Line.parse lineNo raw = .error (.empty lineNo) := by
  rw [Line.parse, splitIndent_eq]
  dsimp only
  rw [firstWord?_dropWhile, firstWord?_eq_none_iff.mpr h]

/-- A line is white space, or has a first word. -/
theorem blank_or_cut (cs : List Char) :
    (∀ c ∈ cs, Text.isBlank c = true) ∨ ∃ blanks token rest, Cut cs blanks token rest := by
  cases hword : firstWord? cs with
  | none => exact .inl (firstWord?_eq_none_iff.mp hword)
  | some token =>
      obtain ⟨blanks, rest, hcut⟩ := exists_cut_of_firstWord? hword
      exact .inr ⟨blanks, token, rest, hcut⟩

/-- The outcomes of a line: those of its first word, or of none. -/
theorem parse_eq_iff {lineNo : Nat} {raw : List Char} {outcome : Except LineError Line} :
    Line.parse lineNo raw = outcome ↔
      (∀ c ∈ Text.dropReturn raw, Text.isBlank c = true) ∧ .error (.empty lineNo) = outcome ∨
        ∃ blanks token rest, Cut (Text.dropReturn raw) blanks token rest ∧
          verdict lineNo blanks token = outcome := by
  obtain hblank | ⟨blanks, token, rest, hcut⟩ := blank_or_cut (Text.dropReturn raw)
  · rw [parse_of_blank hblank]
    refine ⟨fun h => .inl ⟨hblank, h⟩, fun h => h.elim And.right ?_⟩
    rintro ⟨blanks, token, rest, hcut, -⟩
    have hword := hcut.firstWord?_eq
    rw [firstWord?_eq_none_iff.mpr hblank] at hword
    cases hword
  · rw [parse_of_cut hcut]
    refine ⟨fun h => .inr ⟨blanks, token, rest, hcut, h⟩, fun h => h.elim ?_ ?_⟩
    · rintro ⟨hblank, -⟩
      have hword := hcut.firstWord?_eq
      rw [firstWord?_eq_none_iff.mpr hblank] at hword
      cases hword
    · rintro ⟨blanks', token', rest', hcut', h⟩
      obtain ⟨rfl, rfl⟩ := hcut.unique hcut'
      exact h

/-! ## Verdicts -/

section Verdict

variable {lineNo : Nat} {blanks token : List Char}

/-- White space that is spaces alone is known from its length. -/
theorem eq_replicate_iff {n : Nat} :
    blanks = List.replicate n ' ' ↔ (¬∃ c ∈ blanks, c ≠ ' ') ∧ blanks.length = n := by
  rw [List.eq_replicate_iff, and_comm]
  simp

theorem verdict_eq_empty_iff :
    verdict lineNo blanks token = .error (.empty lineNo) ↔ token = ['(', ')'] := by
  unfold verdict
  split_ifs <;> simp [*]

theorem verdict_eq_badIndent_iff :
    verdict lineNo blanks token = .error (.badIndent lineNo) ↔
      token ≠ ['(', ')'] ∧ ∃ c ∈ blanks, c ≠ ' ' := by
  simp only [verdict, any_ne_space_iff]
  split_ifs <;> simp [*]

theorem verdict_eq_misaligned_iff {spaces : Nat} :
    verdict lineNo blanks token = .error (.misaligned lineNo spaces) ↔
      token ≠ ['(', ')'] ∧ blanks = List.replicate spaces ' ' ∧ ¬4 ∣ spaces := by
  simp only [eq_replicate_iff, verdict, any_ne_space_iff]
  split_ifs with hmark hother haligned
  · simp [hmark]
  · simp [hother]
  · rw [iff_false_left (by simp)]
    rintro ⟨-, ⟨-, rfl⟩, h⟩
    exact h haligned
  · simp only [hmark, hother, Except.error.injEq, LineError.misaligned.injEq, true_and, ne_eq,
      not_false_eq_true]
    exact ⟨fun h => ⟨h, h ▸ haligned⟩, And.left⟩

theorem verdict_eq_ok_iff {l : Line} :
    verdict lineNo blanks token = .ok l ↔ token ≠ ['(', ')'] ∧
      blanks = List.replicate l.indent ' ' ∧ 4 ∣ l.indent ∧ l.lineNo = lineNo ∧
        l.name = String.ofList (dropCallMark token) := by
  simp only [eq_replicate_iff, verdict, any_ne_space_iff]
  split_ifs with hmark hother haligned
  · simp [hmark]
  · simp [hother]
  · simp only [hmark, hother, Except.ok.injEq, true_and, ne_eq, not_false_eq_true]
    constructor
    · rintro rfl
      exact ⟨rfl, haligned, rfl, rfl⟩
    · rintro ⟨hindent, -, hlineNo, hname⟩
      obtain ⟨_, _, _⟩ := l
      cases hindent
      cases hlineNo
      cases hname
      rfl
  · rw [iff_false_left (by simp)]
    rintro ⟨-, ⟨-, hindent⟩, h, -⟩
    exact haligned (hindent ▸ h)

end Verdict

/-- What lines are read, and what the others' errors are. -/
theorem readsByGrammar (lineNo : Nat) (raw : List Char) : ReadsByGrammar lineNo raw where
  ok_iff l := by
    rw [parse_eq_iff]
    constructor
    · rintro (⟨-, h⟩ | ⟨blanks, token, rest, hcut, h⟩)
      · cases h
      · obtain ⟨hmark, rfl, haligned, hlineNo, hname⟩ := verdict_eq_ok_iff.mp h
        have hnames : dropCallMark token = l.name.toList := by rw [hname, String.toList_ofList]
        refine ⟨hlineNo, fun hempty => hmark ?_, haligned, token, rest, hcut,
          dropCallMark_eq_iff.mp hnames⟩
        rw [hempty] at hnames
        exact (dropCallMark_eq_nil_iff hcut.token_ne).mp hnames
    · rintro ⟨hlineNo, hname, haligned, token, rest, hcut, hnames⟩
      have hback := dropCallMark_eq_iff.mpr hnames
      refine .inr ⟨_, token, rest, hcut, verdict_eq_ok_iff.mpr ⟨?_, rfl, haligned, hlineNo, ?_⟩⟩
      · intro hmark
        rw [(dropCallMark_eq_nil_iff hcut.token_ne).mpr hmark] at hback
        exact hname (String.toList_eq_nil_iff.mp hback.symm)
      · rw [hback, String.ofList_toList]
  empty_iff := by
    rw [parse_eq_iff]
    constructor
    · rintro (⟨hblank, -⟩ | ⟨blanks, token, rest, hcut, h⟩)
      · exact .inl hblank
      · rw [verdict_eq_empty_iff.mp h] at hcut
        exact .inr ⟨blanks, rest, hcut⟩
    · rintro (hblank | ⟨blanks, rest, hcut⟩)
      · exact .inl ⟨hblank, rfl⟩
      · exact .inr ⟨blanks, _, rest, hcut, verdict_eq_empty_iff.mpr rfl⟩
  badIndent_iff := by
    rw [parse_eq_iff]
    constructor
    · rintro (⟨-, h⟩ | ⟨blanks, token, rest, hcut, h⟩)
      · cases h
      · exact ⟨blanks, token, rest, hcut, verdict_eq_badIndent_iff.mp h⟩
    · rintro ⟨blanks, token, rest, hcut, h⟩
      exact .inr ⟨blanks, token, rest, hcut, verdict_eq_badIndent_iff.mpr h⟩
  misaligned_iff spaces := by
    rw [parse_eq_iff]
    constructor
    · rintro (⟨-, h⟩ | ⟨blanks, token, rest, hcut, h⟩)
      · cases h
      · obtain ⟨hmark, rfl, haligned⟩ := verdict_eq_misaligned_iff.mp h
        exact ⟨token, rest, hcut, hmark, haligned⟩
    · rintro ⟨token, rest, hcut, hmark, haligned⟩
      exact .inr ⟨_, token, rest, hcut, verdict_eq_misaligned_iff.mpr ⟨hmark, rfl, haligned⟩⟩
  error_cases e h := by
    obtain ⟨-, h⟩ | ⟨blanks, token, rest, -, h⟩ := parse_eq_iff.mp h
    · cases h
      exact .inl rfl
    · unfold verdict at h
      split_ifs at h <;> cases h
      · exact .inl rfl
      · exact .inr (.inl rfl)
      · exact .inr (.inr ⟨_, rfl⟩)

/-! ## Printed lines -/

/-- A word at its level, with whatever follows it. -/
def spelled (level : Nat) (token annotation : List Char) : List Char :=
  List.replicate (4 * level) ' ' ++ (token ++ annotation)

/-- A line that is printed as the grammar has it is read as it was printed, whether what follows the
word ends in a carriage return or not. -/
theorem parse_spelled (lineNo level : Nat) {name : String} {token annotation : List Char}
    (hname : name ≠ "") (hnames : Names token name.toList)
    (hsolid : ∀ c ∈ token, Text.isBlank c = false)
    (hends : ∀ c ∈ annotation.head?, Text.isBlank c = true) :
    Line.parse lineNo (spelled level token annotation) = .ok ⟨lineNo, 4 * level, name⟩ := by
  have htoken : token ≠ [] := by
    rintro rfl
    obtain h | ⟨h, -⟩ := hnames
    · exact List.append_ne_nil_of_right_ne_nil _ (by decide) h.symm
    · exact hname (String.toList_eq_nil_iff.mp h.symm)
  -- the word does not end in a carriage return, so only what follows it may lose one
  have hword : (List.replicate (4 * level) ' ' ++ token).getLast? ≠ some '\r' := by
    intro hlast
    obtain hmem | hmem := List.mem_append.mp (List.mem_of_getLast? hlast)
    · cases List.eq_of_mem_replicate hmem
    · cases hsolid '\r' hmem
  have hdropped : Text.dropReturn (spelled level token annotation) =
      spelled level token (Text.dropReturn annotation) := by
    rw [spelled, ← List.append_assoc, Text.dropReturn_append hword, List.append_assoc]
    rfl
  have hleft : ∀ c ∈ (Text.dropReturn annotation).head?, Text.isBlank c = true := by
    obtain ⟨tail, htail⟩ := Text.dropReturn_prefix annotation
    intro c hc
    refine hends c ?_
    rw [← htail, List.head?_append, Option.mem_def.mp hc]
    rfl
  exact ((readsByGrammar lineNo _).ok_iff _).mpr ⟨rfl, hname, Nat.dvd_mul_right 4 level, token,
    Text.dropReturn annotation, ⟨hdropped, fun c hc => List.eq_of_mem_replicate hc ▸ rfl, hsolid,
      htoken, hleft⟩, hnames⟩

/-- **Lines are read by their grammar**: just the lines of its form are read, each of the others has
the first of its faults for an error, and printed lines are read as they were printed. -/
theorem parse_byGrammar (lineNo : Nat) :
    (∀ raw, ReadsByGrammar lineNo raw) ∧
      ∀ level name annotation, name ≠ "" → (∀ c ∈ name.toList, Text.isBlank c = false) →
        (∀ c ∈ annotation.head?, Text.isBlank c = true) →
        Line.parse lineNo (spelled level (name.toList ++ ['(', ')']) annotation) =
            .ok ⟨lineNo, 4 * level, name⟩ ∧
          (¬['(', ')'] <:+ name.toList →
            Line.parse lineNo (spelled level name.toList annotation) =
              .ok ⟨lineNo, 4 * level, name⟩) := by
  refine ⟨readsByGrammar lineNo, fun level name annotation hname hsolid hends => ⟨?_, fun h => ?_⟩⟩
  · exact parse_spelled lineNo level hname (.inl rfl) (not_blank_marked hsolid) hends
  · exact parse_spelled lineNo level hname (.inr ⟨rfl, h⟩) hsolid hends

theorem parse_byGrammar_setup :
    Line.parse 3 "        setup() <void setup (void) at app.c:3>:\r".toList =
        .ok ⟨3, 8, "setup"⟩ ∧
      Line.parse 4 "    WARN_ON".toList = .ok ⟨4, 4, "WARN_ON"⟩ := by
  have hblank : ∀ c ∈ (' ' :: "<void setup (void) at app.c:3>:\r".toList).head?,
      Text.isBlank c = true := by
    rintro c ⟨⟩
    rfl
  obtain ⟨hmarked, -⟩ := (parse_byGrammar 3).2 2 "setup" _ (by decide)
    (Text.not_blank_of_all (by decide +kernel)) hblank
  obtain ⟨-, hbare⟩ := (parse_byGrammar 4).2 1 "WARN_ON" [] (by decide)
    (Text.not_blank_of_all (by decide +kernel)) nofun
  have hsetup : "        setup() <void setup (void) at app.c:3>:\r".toList =
      spelled 2 ("setup".toList ++ ['(', ')'])
        (' ' :: "<void setup (void) at app.c:3>:\r".toList) := by
    rw [String.toList_ofList, String.toList_ofList, String.toList_ofList]
    rfl
  have hmacro : "    WARN_ON".toList = spelled 1 "WARN_ON".toList [] := by
    rw [String.toList_ofList, String.toList_ofList]
    rfl
  rw [hsetup, hmacro]
  exact ⟨hmarked, hbare (by decide +kernel)⟩

end CallForest.Listing
