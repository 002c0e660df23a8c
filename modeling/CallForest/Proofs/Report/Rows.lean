import CallForest.Event
import CallForest.Proofs.Text.Decimal
import CallForest.Proofs.Text.Lines
import CallForest.Report
import Mathlib.Data.List.Forall2

/-!
# What the rows of a report come to

A row of data is one that is not blank and not a heading. Each row of data comes to one entry, in
the order of the rows, and no other row does: to a measurement if its first two fields are numbers
of 32 bits and its eighth is not empty, and otherwise to a note with the number of the row
(`Yields`, `Accounts`).

Conversely a list of measurements, written with a row for each (`Shows`), is read back as it is,
whatever else the rows hold and whatever headings and blank rows stand between
(`measurements_exact`).

A field is written in quotes, with those in it written twice, or as it is if there are neither
commas nor quotes in it (`Spells`). A row of fields is cut into these again, whatever they hold
(`fields_intercalate`).

The reader may be anywhere in a row: what it comes to depends on the field in progress, its state
and the rest of the row alone. So each way to write a field is followed through with any rest behind
it, and the row is read field by field.
-/

namespace CallForest.Report

/-- A text with each quote in it written twice. -/
def doubled (value : List Char) : List Char :=
  value.flatMap fun c => if c = '"' then ['"', '"'] else [c]

/-- How a field may be written: the text, and the field it stands for. -/
inductive Spells : List Char → List Char → Prop
  | quoted (value : List Char) : Spells ('"' :: (doubled value ++ ['"'])) value
  | plain {value : List Char} (comma : ',' ∉ value) (quote : '"' ∉ value) : Spells value value

instance (text value : List Char) : Decidable (Spells text value) :=
  decidable_of_iff (text = '"' :: (doubled value ++ ['"']) ∨
      text = value ∧ ',' ∉ value ∧ '"' ∉ value) <| by
    constructor
    · rintro (rfl | ⟨rfl, comma, quote⟩)
      · exact .quoted value
      · exact .plain comma quote
    · rintro (- | ⟨comma, quote⟩)
      · exact .inl rfl
      · exact .inr ⟨rfl, comma, quote⟩

/-! ## Steps of the reader -/

section Step

variable (field : List Char) {c : Char} (cs : List Char)

theorem fieldsFrom_nil (q : Quoting) : fieldsFrom field q [] = [field.reverse] := by
  cases q <;> rfl

theorem fieldsFrom_comma {q : Quoting} (hq : q ≠ .inside) :
    fieldsFrom field q (',' :: cs) = field.reverse :: fieldsFrom [] .outside cs := by
  cases q with
  | inside => exact absurd rfl hq
  | outside | afterQuote => rfl

theorem fieldsFrom_inside (hc : c ≠ '"') :
    fieldsFrom field .inside (c :: cs) = fieldsFrom (c :: field) .inside cs := by
  rw [fieldsFrom, if_neg hc]

theorem fieldsFrom_outside (hquote : c ≠ '"') (hcomma : c ≠ ',') :
    fieldsFrom field .outside (c :: cs) = fieldsFrom (c :: field) .outside cs := by
  rw [fieldsFrom, if_neg hquote, if_neg hcomma]

end Step

/-! ## Written fields -/

/-- Inside of quotes, what is written twice is read once. -/
theorem fieldsFrom_doubled (field value rest : List Char) :
    fieldsFrom field .inside (doubled value ++ rest) =
      fieldsFrom (value.reverse ++ field) .inside rest := by
  induction value generalizing field with
  | nil => rfl
  | cons c value ih =>
      rw [doubled, List.flatMap_cons, ← doubled, List.append_assoc, List.reverse_cons,
        List.append_assoc, List.singleton_append, ← ih]
      by_cases hc : c = '"'
      · subst hc
        rfl
      · rw [if_neg hc, List.singleton_append, fieldsFrom_inside _ _ hc]

theorem fieldsFrom_plain {value : List Char} (hcomma : ',' ∉ value) (hquote : '"' ∉ value)
    (field rest : List Char) :
    fieldsFrom field .outside (value ++ rest) =
      fieldsFrom (value.reverse ++ field) .outside rest := by
  induction value generalizing field with
  | nil => rfl
  | cons c value ih =>
      rw [List.mem_cons, not_or] at hcomma hquote
      rw [List.cons_append, fieldsFrom_outside _ _ (Ne.symm hquote.1) (Ne.symm hcomma.1),
        ih hcomma.2 hquote.2, List.reverse_cons, List.append_assoc, List.singleton_append]

namespace Spells

variable {text value : List Char}

/-- Behind a written field the reader has the field, and is not inside of quotes. -/
theorem exists_fieldsFrom (h : Spells text value) (rest : List Char) :
    ∃ q, q ≠ .inside ∧
      fieldsFrom [] .outside (text ++ rest) = fieldsFrom value.reverse q rest := by
  cases h with
  | quoted =>
      refine ⟨.afterQuote, nofun, ?_⟩
      rw [List.cons_append, List.append_assoc, fieldsFrom, if_pos rfl, fieldsFrom_doubled,
        List.append_nil, List.singleton_append, fieldsFrom, if_pos rfl]
  | plain comma quote =>
      refine ⟨.outside, nofun, ?_⟩
      rw [fieldsFrom_plain comma quote, List.append_nil]

/-- Nothing but what is in a field, and quotes, is in its text. -/
theorem mem_of_mem {c : Char} (h : Spells text value) (hc : c ∈ text) : c = '"' ∨ c ∈ value := by
  cases h with
  | plain => exact .inr hc
  | quoted =>
      have hdoubled : c ∈ doubled value → c = '"' ∨ c ∈ value := by
        intro hmem
        obtain ⟨d, hd, hc⟩ := List.mem_flatMap.mp hmem
        split at hc
        · exact .inl (by simpa using hc)
        · exact .inr (List.mem_singleton.mp hc ▸ hd)
      obtain rfl | hc := List.mem_cons.mp hc
      · exact .inl rfl
      · exact (List.mem_append.mp hc).elim hdoubled fun hc => .inl (List.mem_singleton.mp hc)

end Spells

theorem not_mem_of_spells {c : Char} (hc : c ≠ '"') {texts values : List (List Char)}
    (h : List.Forall₂ Spells texts values) (hvalues : ∀ value ∈ values, c ∉ value) :
    ∀ text ∈ texts, c ∉ text := by
  induction h with
  | nil => exact hvalues
  | cons hspells _ ih =>
      obtain ⟨hvalue, hvalues⟩ := List.forall_mem_cons.mp hvalues
      refine List.forall_mem_cons.mpr ⟨fun hmem => ?_, ih hvalues⟩
      exact (hspells.mem_of_mem hmem).elim hc hvalue

/-- A row of written fields is cut into the fields. -/
theorem fields_intercalate {texts values : List (List Char)} (h : List.Forall₂ Spells texts values)
    (hne : values ≠ []) : fields ([','].intercalate texts) = values := by
  rw [fields]
  induction h with
  | nil => exact absurd rfl hne
  | cons hspells h ih =>
      cases h with
      | nil =>
          obtain ⟨q, -, hread⟩ := hspells.exists_fieldsFrom []
          rw [List.append_nil] at hread
          rw [List.intercalate_singleton, hread, fieldsFrom_nil, List.reverse_reverse]
      | @cons next _ texts =>
          obtain ⟨q, hq, hread⟩ :=
            hspells.exists_fieldsFrom (',' :: [','].intercalate (next :: texts))
          rw [List.intercalate_cons_cons, List.append_assoc, List.singleton_append, hread,
            fieldsFrom_comma _ _ hq, List.reverse_reverse, ih (List.cons_ne_nil _ _)]

/-! ## Rows and measurements -/

/-- The word that marks a heading, in any case of its letters. -/
def IsHeadingWord (word : List Char) : Prop :=
  List.Forall₂ (· ∈ ·) word [['N', 'n'], ['L', 'l'], ['O', 'o'], ['C', 'c']]

instance (word : List Char) : Decidable (IsHeadingWord word) :=
  inferInstanceAs (Decidable (List.Forall₂ _ _ _))

/-- Whether the first field of a row, without white space around it, marks a heading. -/
def IsHeadingRow (row : List Char) : Prop :=
  IsHeadingWord (Text.trim ((fields row).headD []))

instance (row : List Char) : Decidable (IsHeadingRow row) :=
  inferInstanceAs (Decidable (IsHeadingWord _))

/-- A row that is not blank, and not a heading. -/
def IsDataRow (row : List Char) : Prop :=
  (∃ c ∈ row, Text.isBlank c = false) ∧ ¬IsHeadingRow row

instance (row : List Char) : Decidable (IsDataRow row) :=
  haveI := List.decidableBEx (fun c => Text.isBlank c = false) row
  inferInstanceAs (Decidable (_ ∧ _))

/-- The rows of data of a report, with their numbers. -/
def dataRows (report : String) : List (Nat × List Char) :=
  (Text.numbered (Text.lines report.toList)).filter fun r => IsDataRow r.2

/-- A field is a number of 32 bits, with white space around it or without. -/
def Counts (field : Option (List Char)) (n : UInt32) : Prop :=
  ∃ text ∈ field, Text.word32? (Text.trim text) = some n

/-- The fields of a row hold a measurement. -/
structure Holds (fields : List (List Char)) (m : Measurement) : Prop where
  statements : Counts fields[0]? m.metrics.statements
  cyclomatic : Counts fields[1]? m.metrics.cyclomatic
  name : fields[7]? = some m.name.toList
  name_ne : m.name ≠ ""

/-- What a row of data comes to. -/
inductive Yields : Nat × List Char → Entry → Prop
  | measured {lineNo row m} (holds : Holds (fields row) m) : Yields (lineNo, row) (.measured m)
  | unreadable {lineNo row} (astray : ∀ m, ¬Holds (fields row) m) :
      Yields (lineNo, row) (.unreadable lineNo (String.ofList row))

/-- What the rows of a report come to. -/
structure Accounts (report : String) : Prop where
  /-- Each row of data comes to one entry, in their order. -/
  entries : List.Forall₂ Yields (dataRows report) (entries report)
  /-- An entry is a measurement or a note. -/
  length_eq : (dataRows report).length = (measurements report).length + (warnings report).length

/-- A number as a field: its digits, with white space around them or without. -/
def Spaced (n : UInt32) (value : List Char) : Prop :=
  ∃ front back, (∀ c ∈ front, Text.isBlank c = true) ∧ (∀ c ∈ back, Text.isBlank c = true) ∧
    value = front ++ (Text.decimal n.toNat ++ back)

/-- How a row shows a measurement, or none: a measurement as eight fields or more, the statements
first, the cyclomatic number second and the name eighth, each of them written in quotes or not, and
none as a heading or a blank row. -/
inductive Shows : List Char → Option Measurement → Prop
  | measured {texts values : List (List Char)} {m : Measurement}
      (spells : List.Forall₂ Spells texts values)
      (statements : ∃ value ∈ values[0]?, Spaced m.metrics.statements value)
      (cyclomatic : ∃ value ∈ values[1]?, Spaced m.metrics.cyclomatic value)
      (name : values[7]? = some m.name.toList)
      (name_ne : m.name ≠ "")
      (newline : ∀ value ∈ values, '\n' ∉ value)
      (ending : ∀ text ∈ texts.getLast?, text.getLast? ≠ some '\r') :
      Shows ([','].intercalate texts) (some m)
  | heading {row} (newline : '\n' ∉ row) (h : IsHeadingRow row) : Shows row none
  | blank {row} (newline : '\n' ∉ row) (h : ∀ c ∈ row, Text.isBlank c = true) : Shows row none

/-- The report of rows. A last row that is empty stands for a newline at the end. -/
def reportOf (rows : List (List Char)) : String :=
  String.ofList (['\n'].intercalate rows)

/-! ### Headings -/

/-- The characters that have a small letter for their lower case. -/
theorem lowerAscii_eq_iff {c d : Char} (hd : 'a' ≤ d ∧ d ≤ 'z') :
    lowerAscii c = d ↔ c = Char.ofNat (d.toNat - 32) ∨ c = d := by
  have hle : ∀ a b : Char, a ≤ b ↔ a.toNat ≤ b.toNat := fun _ _ => Iff.rfl
  have hcode : ∀ n < 128, (Char.ofNat n).toNat = n := by decide
  rw [hle, hle, show 'a'.toNat = 97 from rfl, show 'z'.toNat = 122 from rfl] at hd
  rw [lowerAscii]
  simp only [hle, show 'A'.toNat = 65 from rfl, show 'Z'.toNat = 90 from rfl]
  split
  · next hc =>
    constructor
    · intro h
      have hsum := congrArg Char.toNat h
      rw [hcode _ (by omega)] at hsum
      exact .inl (by rw [← hsum, Nat.add_sub_cancel, Char.ofNat_toNat])
    · rintro (rfl | rfl)
      · rw [hcode _ (by omega), Nat.sub_add_cancel (by omega), Char.ofNat_toNat]
      · omega
  · next hc =>
    refine (or_iff_right fun h => hc ?_).symm
    rw [h, hcode _ (by omega)]
    omega

theorem isHeading_iff {first : List Char} :
    isHeading first = true ↔ IsHeadingWord (Text.trim first) := by
  have hletter : ∀ d, 'a' ≤ d ∧ d ≤ 'z' → ∀ c,
      lowerAscii c = d ↔ c ∈ [Char.ofNat (d.toNat - 32), d] := by
    intro d hd c
    rw [lowerAscii_eq_iff hd, List.mem_pair]
  have hn := hletter 'n' (by decide)
  have hl := hletter 'l' (by decide)
  have ho := hletter 'o' (by decide)
  have hc := hletter 'c' (by decide)
  rw [isHeading, beq_iff_eq, IsHeadingWord]
  generalize Text.trim first = word
  constructor
  · intro h
    obtain ⟨n, _, rfl, hn', h⟩ := List.map_eq_cons_iff.mp h
    obtain ⟨l, _, rfl, hl', h⟩ := List.map_eq_cons_iff.mp h
    obtain ⟨o, _, rfl, ho', h⟩ := List.map_eq_cons_iff.mp h
    obtain ⟨c, _, rfl, hc', h⟩ := List.map_eq_cons_iff.mp h
    obtain rfl := List.map_eq_nil_iff.mp h
    exact .cons ((hn n).mp hn') (.cons ((hl l).mp hl') (.cons ((ho o).mp ho')
      (.cons ((hc c).mp hc') .nil)))
  · intro h
    obtain _ | ⟨hn', h⟩ := h
    obtain _ | ⟨hl', h⟩ := h
    obtain _ | ⟨ho', h⟩ := h
    obtain _ | ⟨hc', _ | _⟩ := h
    rw [List.map_cons, List.map_cons, List.map_cons, List.map_cons, List.map_nil,
      (hn _).mpr hn', (hl _).mpr hl', (ho _).mpr ho', (hc _).mpr hc']

/-- A carriage return at the end of a row is at most the last character of its first field. -/
theorem headD_fieldsFrom_concat_return (field : List Char) (q : Quoting) (row : List Char) :
    (fieldsFrom field q (row ++ ['\r'])).headD [] = (fieldsFrom field q row).headD [] ∨
      (fieldsFrom field q (row ++ ['\r'])).headD [] =
        (fieldsFrom field q row).headD [] ++ ['\r'] := by
  induction row generalizing field q with
  | nil =>
      right
      cases q <;> simp [fieldsFrom]
  | cons c row ih =>
      rw [List.cons_append]
      cases q <;> unfold fieldsFrom <;> split_ifs
      all_goals first | exact ih _ _ | exact .inl rfl

/-- A heading is one without a carriage return at its end as well. -/
theorem isHeadingRow_dropReturn {row : List Char} :
    IsHeadingRow (Text.dropReturn row) ↔ IsHeadingRow row := by
  rw [Text.dropReturn]
  split
  · next hlast =>
    obtain ⟨front, rfl⟩ := List.getLast?_eq_some_iff.mp hlast
    rw [List.dropLast_concat, IsHeadingRow, IsHeadingRow, fields, fields]
    obtain hhead | hhead := headD_fieldsFrom_concat_return [] .outside front
    · rw [hhead]
    · rw [hhead, Text.trim_append_blank _ (List.forall_mem_singleton.mpr rfl)]
  · rfl

/-! ### Rows -/

section Row

variable {row : List Char} {lineNo : Nat}

theorem all_isBlank_iff : row.all Text.isBlank = true ↔ ¬∃ c ∈ row, Text.isBlank c = false := by
  simp

/-- A row that is no row of data comes to nothing. -/
theorem readRow_of_not_dataRow (h : ¬IsDataRow row) : readRow lineNo row = none := by
  rw [readRow]
  split
  · rfl
  · next hblank =>
    have hheading : IsHeadingRow row := by
      by_contra hheading
      exact h ⟨by simpa using hblank, hheading⟩
    rw [if_pos (isHeading_iff.mpr hheading)]

/-- The measurement in fields is what they hold. -/
theorem measurement?_eq_some_iff {fs : List (List Char)} {m : Measurement} :
    measurement? fs = some m ↔ Holds fs m := by
  simp only [measurement?, Option.bind_eq_bind, Option.bind_eq_some_iff]
  constructor
  · rintro ⟨first, hfirst, statements, hstatements, second, hsecond, cyclomatic, hcyclomatic, name,
      hname, h⟩
    split at h
    · cases h
    · next hne =>
      cases h
      exact ⟨⟨first, hfirst, hstatements⟩, ⟨second, hsecond, hcyclomatic⟩,
        by rw [hname, String.toList_ofList], fun hempty => hne (by simpa using hempty)⟩
  · rintro ⟨⟨first, hfirst, hstatements⟩, ⟨second, hsecond, hcyclomatic⟩, hname, hne⟩
    refine ⟨first, hfirst, _, hstatements, second, hsecond, _, hcyclomatic, _, hname, ?_⟩
    rw [if_neg (by simpa using hne), String.ofList_toList]

theorem readRow_of_holds {m : Measurement} (hdata : IsDataRow row) (h : Holds (fields row) m) :
    readRow lineNo row = some (.measured m) := by
  rw [readRow, if_neg (all_isBlank_iff.not.mpr (not_not.mpr hdata.1)),
    if_neg (isHeading_iff.not.mpr hdata.2), measurement?_eq_some_iff.mpr h]

/-- A row of data comes to an entry. -/
theorem exists_yields (lineNo : Nat) (h : IsDataRow row) :
    ∃ entry, readRow lineNo row = some entry ∧ Yields (lineNo, row) entry := by
  by_cases hm : ∃ m, Holds (fields row) m
  · obtain ⟨m, hm⟩ := hm
    exact ⟨_, readRow_of_holds h hm, .measured hm⟩
  · have hnone : measurement? (fields row) = none :=
      Option.eq_none_iff_forall_ne_some.mpr fun m heq => hm ⟨m, measurement?_eq_some_iff.mp heq⟩
    refine ⟨_, ?_, .unreadable (not_exists.mp hm)⟩
    rw [readRow, if_neg (all_isBlank_iff.not.mpr (not_not.mpr h.1)),
      if_neg (isHeading_iff.not.mpr h.2), hnone]

end Row

theorem accounts (report : String) : Accounts report := by
  have hentries : List.Forall₂ Yields (dataRows report) (entries report) :=
    Text.forall₂_filter_filterMap
      (fun r hr => exists_yields r.1 (of_decide_eq_true hr))
      (fun r hr => readRow_of_not_dataRow (of_decide_eq_false hr)) _
  refine ⟨hentries, hentries.length_eq.trans (Text.length_eq_add_of_exclusive ?_ _)⟩
  intro entry
  cases entry <;> rfl

/-! ### Written reports -/

theorem Spaced.word32?_trim {n : UInt32} {value : List Char} (h : Spaced n value) :
    Text.word32? (Text.trim value) = some n := by
  obtain ⟨front, back, hfront, hback, rfl⟩ := h
  rw [Text.trim_surrounded hfront (Text.solid_decimal _) hback, Text.word32?_decimal]

/-- A field that is a number is no heading. -/
theorem Spaced.not_heading {n : UInt32} {value : List Char} (h : Spaced n value) :
    ¬IsHeadingWord (Text.trim value) := by
  obtain ⟨front, back, hfront, hback, rfl⟩ := h
  rw [Text.trim_surrounded hfront (Text.solid_decimal _) hback]
  intro h
  obtain ⟨letter, _, hletter, -, hword⟩ := List.forall₂_cons_right_iff.mp h
  have hmem : letter ∈ Text.decimal n.toNat := hword ▸ List.mem_cons_self
  revert hmem
  obtain rfl | rfl := List.mem_pair.mp hletter <;> exact Text.not_mem_decimal (by decide) _

/-- What is in none of the texts is not in the joined texts, unless it is a comma. -/
theorem not_mem_intercalate {texts : List (List Char)} {c : Char} (hc : c ≠ ',')
    (h : ∀ text ∈ texts, c ∉ text) : c ∉ [','].intercalate texts := by
  induction texts with
  | nil => exact List.not_mem_nil
  | cons text texts ih =>
      obtain ⟨htext, hrest⟩ := List.forall_mem_cons.mp h
      cases texts with
      | nil => rwa [List.intercalate_singleton]
      | cons next texts =>
          rw [List.intercalate_cons_cons, List.append_assoc, List.singleton_append]
          exact List.not_mem_append htext (List.not_mem_cons_of_ne_of_not_mem hc (ih hrest))

/-- Joined texts keep a carriage return unless it ends the last of them. -/
theorem dropReturn_intercalate {texts : List (List Char)}
    (h : ∀ text ∈ texts.getLast?, text.getLast? ≠ some '\r') :
    Text.dropReturn ([','].intercalate texts) = [','].intercalate texts := by
  induction texts with
  | nil => rfl
  | cons text texts ih =>
      cases texts with
      | nil => rw [List.intercalate_singleton, Text.dropReturn, if_neg (h text rfl)]
      | cons next texts =>
          rw [List.intercalate_cons_cons, Text.dropReturn_append (by simp),
            ih (by rwa [List.getLast?_cons_cons] at h)]

namespace Shows

variable {row : List Char} {item : Option Measurement}

theorem newline_not_mem (h : Shows row item) : '\n' ∉ row := by
  cases h with
  | heading newline | blank newline => exact newline
  | measured spells _ _ _ _ newline =>
      exact not_mem_intercalate (by decide) (not_mem_of_spells (by decide) spells newline)

/-- A shown row is read as what it shows, also without a carriage return at its end. -/
theorem readRow_eq (h : Shows row item) (lineNo : Nat) :
    readRow lineNo row = item.map .measured ∧
      readRow lineNo (Text.dropReturn row) = item.map .measured := by
  cases h with
  | heading newline h =>
      exact ⟨readRow_of_not_dataRow fun hdata => hdata.2 h,
        readRow_of_not_dataRow fun hdata => hdata.2 (isHeadingRow_dropReturn.mpr h)⟩
  | blank newline h =>
      have hblank : ∀ row', row' ⊆ row → ¬IsDataRow row' := by
        rintro row' hsubset ⟨⟨c, hc, hsolid⟩, -⟩
        rw [h c (hsubset hc)] at hsolid
        cases hsolid
      exact ⟨readRow_of_not_dataRow (hblank row (List.Subset.refl row)),
        readRow_of_not_dataRow (hblank _ (Text.dropReturn_prefix row).subset)⟩
  | @measured texts values m spells statements cyclomatic name name_ne newline ending =>
      have hfields : fields ([','].intercalate texts) = values :=
        fields_intercalate spells (by rintro rfl; cases name)
      obtain ⟨first, hfirst, hstatements⟩ := statements
      obtain ⟨second, hsecond, hcyclomatic⟩ := cyclomatic
      have hdata : IsDataRow ([','].intercalate texts) := by
        refine ⟨⟨',', ?_, rfl⟩, ?_⟩
        · obtain _ | ⟨-, _ | ⟨-, -⟩⟩ := spells
          · cases name
          · cases name
          · simp
        · rw [IsHeadingRow, hfields, List.headD_eq_head?_getD, List.head?_eq_getElem?, hfirst]
          exact hstatements.not_heading
      have hholds : Holds (fields ([','].intercalate texts)) m := by
        rw [hfields]
        exact ⟨⟨first, hfirst, hstatements.word32?_trim⟩,
          ⟨second, hsecond, hcyclomatic.word32?_trim⟩, name, name_ne⟩
      rw [dropReturn_intercalate ending]
      exact ⟨readRow_of_holds hdata hholds, readRow_of_holds hdata hholds⟩

end Shows

/-- A report of rows that show measurements comes to these. -/
theorem entries_reportOf {rows : List (List Char)} {items : List (Option Measurement)}
    (h : List.Forall₂ Shows rows items) :
    entries (reportOf rows) = items.reduceOption.map .measured := by
  rw [← List.reduceOption_map, entries, reportOf, String.toList_ofList]
  refine Text.filterMap_lines (fun _ => rfl) (List.forall₂_map_right_iff.mpr (h.imp ?_))
  exact fun _ _ hshows => ⟨hshows.newline_not_mem, hshows.readRow_eq⟩

/-- **Every measurement is found, and no row is lost**: each row of data comes to a measurement or
to a note, and measurements that are written are read back as they are. -/
theorem measurements_exact :
    (∀ rows items, List.Forall₂ Shows rows items →
        measurements (reportOf rows) = items.reduceOption ∧ warnings (reportOf rows) = []) ∧
      ∀ report, Accounts report := by
  refine ⟨fun rows items h => ?_, accounts⟩
  rw [measurements, warnings, entries_reportOf h, List.filterMap_map, List.filterMap_map]
  constructor
  · exact List.filterMap_some
  · exact List.filterMap_eq_nil_iff.mpr fun _ _ => rfl

/-- A heading; a row in which fields in quotes hold commas and quotes; a blank row; and a row of
eight fields, most of them empty, with a name that ends in a space. -/
def sampleReport : String :=
  " nloc ,CCN\n12, 5 ,80,2,14,\"./a,b.c\",,\"say \"\"hi\"\", all\",\"\"\"\",8\n \n" ++
    "\"4294967295\",1,,,,,,main \n"

theorem measurements_exact_sampleReport :
    measurements sampleReport = [⟨"say \"hi\", all", ⟨5, 12⟩⟩, ⟨"main ", ⟨1, 4294967295⟩⟩] ∧
      warnings sampleReport = [] := by
  have hheading : Shows " nloc ,CCN".toList none := .heading (by decide) (by decide +kernel)
  have hsay : List.Forall₂ Spells
      (["12", " 5 ", "80", "2", "14", "\"./a,b.c\"", "", "\"say \"\"hi\"\", all\"", "\"\"\"\"",
        "8"].map String.toList)
      (["12", " 5 ", "80", "2", "14", "./a,b.c", "", "say \"hi\", all", "\"", "8"].map
        String.toList) := by
    decide +kernel
  have hmain : List.Forall₂ Spells
      (["\"4294967295\"", "1", "", "", "", "", "", "main "].map String.toList)
      (["4294967295", "1", "", "", "", "", "", "main "].map String.toList) := by
    decide +kernel
  have hspace : ∀ c ∈ [' '], Text.isBlank c = true := List.forall_mem_singleton.mpr rfl
  have hnone : ∀ c ∈ [], Text.isBlank c = true := List.forall_mem_nil _
  have hblank : Shows [' '] none := .blank (by decide) hspace
  have hlast : Shows [] none := .blank (by decide) hnone
  obtain ⟨rows, hshows, hreport⟩ : ∃ rows, List.Forall₂ Shows rows
      [none, some ⟨"say \"hi\", all", ⟨5, 12⟩⟩, none, some ⟨"main ", ⟨1, 4294967295⟩⟩, none] ∧
      reportOf rows = sampleReport := by
    refine ⟨_, .cons hheading (.cons (.measured hsay ⟨_, rfl, [], [], hnone, hnone, ?_⟩
      ⟨_, rfl, [' '], [' '], hspace, hspace, ?_⟩ rfl ?_ ?_ ?_) (.cons hblank (.cons
      (.measured hmain ⟨_, rfl, [], [], hnone, hnone, ?_⟩ ⟨_, rfl, [], [], hnone, hnone, ?_⟩ rfl
        ?_ ?_ ?_) (.cons hlast .nil)))), ?_⟩ <;>
      decide +kernel
  exact hreport ▸ measurements_exact.1 rows _ hshows

end CallForest.Report
