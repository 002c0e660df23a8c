import CallForest.Proofs.Report.Rows

/-!
# Reading a row undoes writing it

A row is written from one field or more, each in quotes or as it is (`SpellsRow`). What it was
written from is what is read of it, so no row is written from two lists of fields. The rows that are
written from some fields are those in which quotes stand in their places (`WellQuoted`): a quote
begins a field or is within one that a quote began, and behind the quote that closes a field there
is a comma or nothing. Of just these rows reading is the inverse of writing (`fields_inverts`).

`Spot` says where in a field a character is met, which for the reader of a row is more than it has
to know: it takes a quote anywhere. A field that has been begun (`Begun`) is followed through the
rest of the row character by character, the text so far and what it stands for side by side.
-/

namespace CallForest.Report

/-- How a row is written: one field or more, with commas between them. -/
def SpellsRow (row : List Char) (values : List (List Char)) : Prop :=
  values ≠ [] ∧ ∃ texts, List.Forall₂ Spells texts values ∧ row = [','].intercalate texts

/-- Where in a field a character is met. -/
inductive Spot where
  | start
  /-- Behind a character of a field that has no quotes around it. -/
  | plain
  | quoted
  /-- Behind a quote within quotes. -/
  | closed
  deriving DecidableEq, Repr

namespace Spot

/-- Where the next character is met; there is none where a character is out of place. -/
def next? (c : Char) : Spot → Option Spot
  | start => some (if c = '"' then quoted else if c = ',' then start else plain)
  | plain => if c = '"' then none else some (if c = ',' then start else plain)
  | quoted => some (if c = '"' then closed else quoted)
  | closed => if c = '"' then some quoted else if c = ',' then some start else none

/-- Where characters end. -/
def after? : List Char → Spot → Option Spot
  | [], spot => some spot
  | c :: cs, spot => (spot.next? c).bind (after? cs)

/-- Where the reader of a row stands. -/
def quoting : Spot → Quoting
  | start | plain => .outside
  | quoted => .inside
  | closed => .afterQuote

end Spot

/-- Every quote of a row is in its place. -/
def WellQuoted (row : List Char) : Prop :=
  ∃ spot ∈ Spot.start.after? row, spot ≠ .quoted

instance (row : List Char) : Decidable (WellQuoted row) :=
  inferInstanceAs (Decidable (∃ spot ∈ Spot.start.after? row, spot ≠ .quoted))

/-! ## Rows of written fields -/

namespace SpellsRow

variable {text row value : List Char} {values : List (List Char)}

theorem single (h : Spells text value) : SpellsRow text [value] :=
  ⟨List.cons_ne_nil _ _, [text], .cons h .nil, List.intercalate_singleton.symm⟩

theorem cons (h : Spells text value) (hrow : SpellsRow row values) :
    SpellsRow (text ++ ',' :: row) (value :: values) := by
  obtain ⟨hne, texts, htexts, rfl⟩ := hrow
  refine ⟨List.cons_ne_nil _ _, text :: texts, .cons h htexts, ?_⟩
  cases htexts with
  | nil => exact absurd rfl hne
  | cons => rw [List.intercalate_cons_cons, List.append_assoc, List.singleton_append]

/-- A row has one field, or a field in front of a row. -/
theorem single_or_cons (h : SpellsRow row values) :
    (∃ value, Spells row value ∧ values = [value]) ∨
      ∃ text rest value others, Spells text value ∧ SpellsRow rest others ∧
        row = text ++ ',' :: rest ∧ values = value :: others := by
  obtain ⟨hne, texts, htexts, rfl⟩ := h
  cases htexts with
  | nil => exact absurd rfl hne
  | @cons text value texts values hspells htexts =>
      cases htexts with
      | nil => exact .inl ⟨value, List.intercalate_singleton ▸ hspells, rfl⟩
      | @cons next _ texts others hnext htexts =>
          refine .inr ⟨text, _, value, _, hspells,
            ⟨List.cons_ne_nil _ _, next :: texts, .cons hnext htexts, rfl⟩, ?_, rfl⟩
          rw [List.intercalate_cons_cons, List.append_assoc, List.singleton_append]

/-- **What a row was written from is read.** -/
theorem fields_eq (h : SpellsRow row values) : fields row = values := by
  obtain ⟨hne, texts, htexts, rfl⟩ := h
  exact fields_intercalate htexts hne

end SpellsRow

/-! ## Written rows are well quoted -/

namespace Spot

theorem after?_append (cs ds : List Char) (spot : Spot) :
    spot.after? (cs ++ ds) = (spot.after? cs).bind (after? ds) := by
  induction cs generalizing spot with
  | nil => rfl
  | cons c cs ih =>
      rw [List.cons_append, after?, after?, Option.bind_assoc]
      exact congrArg _ (funext ih)

theorem after?_doubled (value : List Char) : quoted.after? (doubled value) = some quoted := by
  induction value with
  | nil => rfl
  | cons c value ih =>
      rw [doubled, List.flatMap_cons, ← doubled, after?_append]
      by_cases hc : c = '"'
      · subst hc
        exact ih
      · rw [if_neg hc, after?, next?, if_neg hc]
        exact ih

theorem after?_plain {value : List Char} (hcomma : ',' ∉ value) (hquote : '"' ∉ value) :
    plain.after? value = some plain := by
  induction value with
  | nil => rfl
  | cons c value ih =>
      rw [List.mem_cons, not_or] at hcomma hquote
      rw [after?, next?, if_neg (Ne.symm hquote.1), if_neg (Ne.symm hcomma.1), Option.bind_some,
        ih hcomma.2 hquote.2]

/-- A written field ends outside of quotes. -/
theorem exists_after?_of_spells {text value : List Char} (h : Spells text value) :
    ∃ spot ≠ quoted, start.after? text = some spot ∧ spot.next? ',' = some start := by
  cases h with
  | quoted =>
      refine ⟨closed, nofun, ?_, rfl⟩
      rw [after?, next?, if_pos rfl, Option.bind_some, after?_append, after?_doubled]
      rfl
  | plain comma quote =>
      cases text with
      | nil => exact ⟨start, nofun, rfl, rfl⟩
      | cons c text =>
          rw [List.mem_cons, not_or] at comma quote
          refine ⟨plain, nofun, ?_, rfl⟩
          rw [after?, next?, if_neg (Ne.symm quote.1), if_neg (Ne.symm comma.1), Option.bind_some,
            after?_plain comma.2 quote.2]

end Spot

theorem SpellsRow.wellQuoted {row : List Char} {values : List (List Char)}
    (h : SpellsRow row values) : WellQuoted row := by
  induction values generalizing row with
  | nil => exact absurd rfl h.1
  | cons _ _ ih =>
      obtain ⟨value, hspells, -⟩ | ⟨text, rest, value, others, hspells, hrest, rfl, hvalues⟩ :=
        h.single_or_cons
      · obtain ⟨spot, hne, hafter, -⟩ := Spot.exists_after?_of_spells hspells
        exact ⟨spot, hafter, hne⟩
      · cases hvalues
        obtain ⟨spot, -, hafter, hcomma⟩ := Spot.exists_after?_of_spells hspells
        rw [WellQuoted, Spot.after?_append, hafter, Option.bind_some, Spot.after?, hcomma]
        exact ih hrest

/-! ## Well-quoted rows are written -/

/-- A field that has been begun: where it stands, its text so far, and what that stands for. -/
inductive Begun : Spot → List Char → List Char → Prop
  | start : Begun .start [] []
  | plain {value : List Char} (comma : ',' ∉ value) (quote : '"' ∉ value) :
      Begun .plain value value
  | quoted (value : List Char) : Begun .quoted ('"' :: doubled value) value
  | closed (value : List Char) : Begun .closed ('"' :: (doubled value ++ ['"'])) value

namespace Begun

variable {spot : Spot} {front value cs : List Char}

/-- Outside of quotes a field may end. -/
theorem spells (h : Begun spot front value) (hspot : spot ≠ .quoted) : Spells front value := by
  cases h with
  | start => exact .plain List.not_mem_nil List.not_mem_nil
  | plain comma quote => exact .plain comma quote
  | quoted => exact absurd rfl hspot
  | closed => exact .quoted value

theorem doubled_concat (value : List Char) (c : Char) :
    doubled (value ++ [c]) = doubled value ++ if c = '"' then ['"', '"'] else [c] := by
  rw [doubled, List.flatMap_append, List.flatMap_singleton, doubled]

/-- A character that is in its place and does not end the field takes it on, and the reader with
it. -/
theorem step (h : Begun spot front value) (cs : List Char) {c : Char} {spot' : Spot}
    (hnext : spot.next? c = some spot') (hgoes : c = ',' → spot = .quoted) :
    ∃ value', Begun spot' (front ++ [c]) value' ∧
      fieldsFrom value.reverse spot.quoting (c :: cs) =
        fieldsFrom value'.reverse spot'.quoting cs := by
  have hconcat : (value ++ [c]).reverse = c :: value.reverse := List.reverse_concat ..
  cases h with
  | start =>
      have hcomma : c ≠ ',' := fun hc => nomatch hgoes hc
      obtain rfl := Option.some.inj hnext
      by_cases hquote : c = '"'
      · rw [if_pos hquote]
        subst hquote
        exact ⟨[], .quoted [], rfl⟩
      · rw [if_neg hquote, if_neg hcomma]
        refine ⟨[c], .plain ?_ ?_, fieldsFrom_outside _ _ hquote hcomma⟩
        · exact fun hmem => hcomma (List.mem_singleton.mp hmem).symm
        · exact fun hmem => hquote (List.mem_singleton.mp hmem).symm
  | plain comma quote =>
      have hcomma : c ≠ ',' := fun hc => nomatch hgoes hc
      rw [Spot.next?] at hnext
      split at hnext
      · cases hnext
      · next hquote =>
        obtain rfl := Option.some.inj hnext
        refine ⟨front ++ [c], .plain ?_ ?_, ?_⟩
        · exact List.not_mem_append comma fun hmem => hcomma (List.mem_singleton.mp hmem).symm
        · exact List.not_mem_append quote fun hmem => hquote (List.mem_singleton.mp hmem).symm
        · rw [hconcat]
          exact fieldsFrom_outside _ _ hquote hcomma
  | quoted =>
      obtain rfl := Option.some.inj hnext
      by_cases hquote : c = '"'
      · rw [if_pos hquote]
        subst hquote
        exact ⟨value, .closed value, rfl⟩
      · have hbegun := Begun.quoted (value ++ [c])
        rw [doubled_concat, if_neg hquote] at hbegun
        rw [if_neg hquote]
        refine ⟨value ++ [c], hbegun, ?_⟩
        rw [hconcat]
        exact fieldsFrom_inside _ _ hquote
  | closed =>
      rw [Spot.next?] at hnext
      split at hnext
      · next hquote =>
        subst hquote
        obtain rfl := Option.some.inj hnext
        have hbegun := Begun.quoted (value ++ ['"'])
        rw [doubled_concat, if_pos rfl] at hbegun
        refine ⟨value ++ ['"'], ?_, ?_⟩
        · simpa using hbegun
        · rw [hconcat]
          rfl
      · split at hnext
        · next hcomma => exact nomatch hgoes hcomma
        · cases hnext

/-- What is read of a field that has been begun and of the rest of the row is what they are written
from. -/
theorem spellsRow (h : Begun spot front value) (hafter : ∃ last ∈ spot.after? cs, last ≠ .quoted) :
    SpellsRow (front ++ cs) (fieldsFrom value.reverse spot.quoting cs) := by
  induction cs generalizing spot front value with
  | nil =>
      obtain ⟨last, hlast, hne⟩ := hafter
      cases hlast
      rw [List.append_nil, fieldsFrom_nil, List.reverse_reverse]
      exact .single (h.spells hne)
  | cons c cs ih =>
      obtain ⟨last, hafter, hne⟩ := hafter
      obtain ⟨spot', hnext, hlast⟩ := Option.bind_eq_some_iff.mp hafter
      by_cases hends : c = ',' ∧ spot ≠ .quoted
      · obtain ⟨rfl, hspot⟩ := hends
        have hstart : spot' = .start ∧ spot.quoting ≠ .inside := by
          cases spot with
          | quoted => exact absurd rfl hspot
          | start | plain | closed => exact ⟨(Option.some.inj hnext).symm, nofun⟩
        rw [hstart.1] at hlast
        rw [fieldsFrom_comma _ _ hstart.2, List.reverse_reverse]
        exact .cons (h.spells hspot) (ih .start ⟨last, hlast, hne⟩)
      · have hgoes : c = ',' → spot = .quoted := fun hc => by
          by_contra hspot
          exact hends ⟨hc, hspot⟩
        obtain ⟨value', hbegun, hread⟩ := h.step cs hnext hgoes
        rw [hread, List.append_cons]
        exact ih hbegun ⟨last, hlast, hne⟩

end Begun

theorem WellQuoted.spellsRow {row : List Char} (h : WellQuoted row) : SpellsRow row (fields row) :=
  Begun.start.spellsRow h

/-- **Reading a row undoes writing it**, and the rows that are written from some fields are the
well-quoted ones. All lists of fields but the empty one are written somehow. -/
theorem fields_inverts :
    (∀ row values, SpellsRow row values ↔ WellQuoted row ∧ fields row = values) ∧
      ∀ values, (∃ row, SpellsRow row values) ↔ values ≠ [] := by
  refine ⟨fun row values => ⟨fun h => ⟨h.wellQuoted, h.fields_eq⟩, ?_⟩,
    fun values => ⟨fun ⟨_, h⟩ => h.1, fun hne => ?_⟩⟩
  · rintro ⟨hquoted, rfl⟩
    exact hquoted.spellsRow
  · refine ⟨_, hne, values.map fun value => '"' :: (doubled value ++ ['"']), ?_, rfl⟩
    exact List.forall₂_map_left_iff.mpr (List.forall₂_same.mpr fun value _ => .quoted value)

/-- An empty field in quotes, one that is a quote, one that is as it is, an empty one, and one with
a comma and a newline. -/
example : fields "\"\",\"\"\"\",a b,,\"x,\ny\"".toList =
    ["", "\"", "a b", "", "x,\ny"].map String.toList := by
  decide

end CallForest.Report
