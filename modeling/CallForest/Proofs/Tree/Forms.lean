import CallForest.Proofs.Json.Reader
import CallForest.Proofs.Text.Lines
import CallForest.Proofs.Text.Decimal
import CallForest.Proofs.Text.Words
import CallForest.Tree.Export

/-!
# Reading exported trees

A line of a tree's text is read from the front: the tabs give its depth, what follows up to the
first space its name, and the rest, without the parentheses around it, its path. That finds the
right places if names are without white space (`readLine?_text`), because a path stands behind the
first space, and its last parenthesis at the end of the line. So whatever else is in the paths, as
long as they have no newlines, trees are read back from their texts (`readText?_text`).

The JSON form of a tree is one value and a newline, and as JSON it is the array of the lines, each
of them an object (`json_exact`). A reader finds every name and every path as it was, because what
is written for a character in a string stands for it (`spells_jsonChar`).
-/

namespace CallForest

/-- A line with a name without white space and a path on one line. -/
structure TreeLine.Plain (l : TreeLine) : Prop where
  name : ∀ c ∈ l.name.toList, Text.isBlank c = false
  path : '\n' ∉ l.path.toList

namespace Export

/-- Reads a line: tabs in front, a name up to the first space, and a path in parentheses. -/
def readLine? (line : List Char) : Option TreeLine :=
  let body := line.dropWhile (· = '\t')
  match body.dropWhile (· ≠ ' ') with
  | ' ' :: '(' :: rest =>
    if rest.getLast? = some ')' then
      some ⟨(line.takeWhile (· = '\t')).length, String.ofList (body.takeWhile (· ≠ ' ')),
        String.ofList rest.dropLast⟩
    else none
  | _ => none

/-- Reads the text of a tree, line by line. -/
def readText? (text : String) : Option (List TreeLine) :=
  (Text.records text.toList).mapM readLine?

/-! ## Lines -/

theorem toList_text (l : TreeLine) : l.text.toList =
    List.replicate l.depth '\t' ++ (l.name.toList ++ ' ' :: '(' :: (l.path.toList ++ [')'])) := by
  simp [TreeLine.text, TreeLine.node, Node.label, String.toList_append]

theorem newline_not_mem_text {l : TreeLine} (h : l.Plain) : '\n' ∉ l.text.toList := by
  have hname : '\n' ∉ l.name.toList := fun hmem => by cases h.name _ hmem
  simp [toList_text, hname, h.path]

/-- A line is read back. -/
theorem readLine?_text {l : TreeLine} (h : l.Plain) : readLine? l.text.toList = some l := by
  have htabs : ∀ c ∈ List.replicate l.depth '\t', decide (c = '\t') = true := by simp
  have hname : ∀ c ∈ l.name.toList, decide (c ≠ ' ') = true := by
    intro c hc
    refine decide_eq_true fun hspace => ?_
    subst hspace
    cases h.name _ hc
  -- what stands behind the tabs does not begin with one
  obtain ⟨c, rest, hbody, hc⟩ : ∃ c rest, l.name.toList ++ ' ' :: '(' :: (l.path.toList ++ [')']) =
      c :: rest ∧ c ≠ '\t' := by
    cases hl : l.name.toList with
    | nil => exact ⟨_, _, rfl, by decide⟩
    | cons c cs =>
        refine ⟨c, _, rfl, ?_⟩
        rintro rfl
        cases h.name '\t' (hl ▸ List.mem_cons_self)
  have hdrop : (c :: rest).dropWhile (· = '\t') = c :: rest :=
    List.dropWhile_cons_of_neg (by simpa using hc)
  have htake : (c :: rest).takeWhile (· = '\t') = [] :=
    List.takeWhile_cons_of_neg (by simpa using hc)
  rw [readLine?, toList_text, List.dropWhile_append_of_pos htabs,
    List.takeWhile_append_of_pos htabs, hbody, hdrop, htake, ← hbody,
    List.dropWhile_append_of_pos hname, List.takeWhile_append_of_pos hname]
  simp

/-! ## Texts -/

theorem toList_export (lines : List TreeLine) : (text lines).toList =
    (lines.map fun l => l.text.toList).flatMap fun raw => raw ++ ['\n'] := by
  induction lines with
  | nil => rfl
  | cons l lines ih =>
      rw [text, List.map_cons, String.join_cons, String.toList_append, String.toList_append,
        List.map_cons, List.flatMap_cons, ← ih]
      rfl

/-- A tree is read back from its text. -/
theorem readText?_text {lines : List TreeLine} (h : ∀ l ∈ lines, l.Plain) :
    readText? (text lines) = some lines := by
  rw [readText?, toList_export, Text.records_flatMap]
  · induction lines with
    | nil => rfl
    | cons l lines ih =>
        obtain ⟨hl, hlines⟩ := List.forall_mem_cons.mp h
        rw [List.map_cons, List.mapM_cons, readLine?_text hl, ih hlines]
        rfl
  · exact List.forall_mem_map.mpr fun l hl => newline_not_mem_text (h l hl)

/-- Trees with the same text are the same. -/
theorem eq_of_text_eq {lines others : List TreeLine} (h : ∀ l ∈ lines, l.Plain)
    (hothers : ∀ l ∈ others, l.Plain) (heq : text lines = text others) : lines = others := by
  have hread := readText?_text h
  rw [heq, readText?_text hothers] at hread
  exact (Option.some.inj hread).symm

end Export

/-! ## Reading a call tree's JSON -/

open Json (Document Member Slot Space Spells SpellsChar SpellsNumber SpellsString
  SpellsUnit SpellsWhole separated)

/-- What a line is in JSON. -/
def TreeLine.toJson (l : TreeLine) : Json :=
  .object [("depth", .number l.depth), ("name", .string l.name), ("path", .string l.path)]

namespace Export

/-! ### Numbers and strings -/

theorem spells_decimal (n : Nat) : SpellsNumber (Text.decimal n) n := by
  have hwhole : SpellsWhole (Text.decimal n) n := by
    obtain rfl | hn := Nat.eq_zero_or_pos n
    · rw [Text.decimal]
      exact .zero
    · exact .digits ⟨Text.decimal_ne_nil n, Text.digitsValue?_decimal n⟩
        (Text.head?_decimal_ne (Nat.ne_of_gt hn))
  have hvalue : ((n : Rat) + 0) * 10 ^ (0 : Int) = n := by
    rw [Rat.zpow_zero, Rat.mul_one, Rat.add_zero]
  have hspells : SpellsNumber (Text.decimal n ++ ([] ++ [])) _ :=
    .positive (.mk hwhole .none .none)
  rwa [hvalue, List.append_nil, List.append_nil] at hspells

theorem hexValue?_hexDigit {d : Nat} (h : d < 16) : Json.hexValue? (hexDigit d) = some d := by
  decide +revert

theorem spells_control {c : Char} (h : c.toNat < 32) :
    SpellsChar ['\\', 'u', '0', '0', hexDigit (c.toNat / 16), hexDigit (c.toNat % 16)] c := by
  have hvalue : ((0 * 16 + 0) * 16 + c.toNat / 16) * 16 + c.toNat % 16 = c.toNat := by omega
  have hunit : SpellsUnit ['\\', 'u', '0', '0', hexDigit (c.toNat / 16), hexDigit (c.toNat % 16)]
      (((0 * 16 + 0) * 16 + c.toNat / 16) * 16 + c.toNat % 16) :=
    .mk rfl rfl (hexValue?_hexDigit (by omega)) (hexValue?_hexDigit (by omega))
  rw [hvalue] at hunit
  have hhigh : ¬ Json.IsHighSurrogate c.toNat := fun hh => by
    have := hh.1
    omega
  have hlow : ¬ Json.IsLowSurrogate c.toNat := fun hl => by
    have := hl.1
    omega
  have hspells := SpellsChar.unit hunit hhigh hlow
  rwa [Char.ofNat_toNat] at hspells

/-- What is written for a character stands for it. -/
theorem spells_jsonChar (c : Char) : SpellsChar (jsonChar c) c := by
  unfold jsonChar
  split_ifs with hquote hbackslash hnewline hreturn htab hbackspace hfeed hcontrol
  · subst hquote
    exact .short rfl
  · subst hbackslash
    exact .short rfl
  · subst hnewline
    exact .short rfl
  · subst hreturn
    exact .short rfl
  · subst htab
    exact .short rfl
  · exact .short (congrArg some (by rw [← hbackspace, Char.ofNat_toNat]))
  · exact .short (congrArg some (by rw [← hfeed, Char.ofNat_toNat]))
  · exact spells_control hcontrol
  · exact .plain hquote hbackslash (by omega)

theorem spells_jsonString (s : String) : SpellsString (jsonString s) s := by
  refine .mk ?_
  induction s.toList with
  | nil => exact .nil
  | cons c cs ih => exact .cons (spells_jsonChar c) ih

/-! ### Lines -/

/-- An entry of a line's object: a key, and a value behind a space. -/
def entrySlot (name : String) (text : List Char) (value : Json) (after : List Char)
    (h : Space after) : Member where
  before := ['\n', ' ', ' ', ' ', ' ']
  key := jsonString name
  after := []
  name := name
  slot := ⟨[' '], text, after, value, by decide, h⟩
  space_before := by decide
  space_after := by decide
  spells_key := spells_jsonString name

/-- The entries of a line's object; behind the last one stands the closing brace's line. -/
def entries (l : TreeLine) : List Member :=
  [entrySlot "depth" (Text.decimal l.depth) (.number l.depth) [] (by decide),
    entrySlot "name" (jsonString l.name) (.string l.name) [] (by decide),
    entrySlot "path" (jsonString l.path) (.string l.path) ['\n', ' ', ' '] (by decide)]

/-- A line's object. -/
def jsonObject (l : TreeLine) : List Char :=
  '{' :: (separated ((entries l).map Member.spelled) ++ ['}'])

theorem spells_jsonObject (l : TreeLine) : Spells (jsonObject l) l.toJson := by
  refine .object (List.cons_ne_nil _ _) ?_
  simp only [entries, List.forall_mem_cons]
  exact ⟨.number (spells_decimal _), .string (spells_jsonString _), .string (spells_jsonString _),
    fun m hm => by cases hm⟩

theorem jsonLine_eq (l : TreeLine) : jsonLine l = ' ' :: ' ' :: jsonObject l := by
  have hdepth : "  \x7b\n    \"depth\": ".toList =
      ' ' :: ' ' :: '{' :: '\n' :: ' ' :: ' ' :: ' ' :: ' ' :: (jsonString "depth" ++ [':', ' ']) :=
    rfl
  have hname : ",\n    \"name\": ".toList =
      ',' :: '\n' :: ' ' :: ' ' :: ' ' :: ' ' :: (jsonString "name" ++ [':', ' ']) := rfl
  have hpath : ",\n    \"path\": ".toList =
      ',' :: '\n' :: ' ' :: ' ' :: ' ' :: ' ' :: (jsonString "path" ++ [':', ' ']) := rfl
  have hclose : "\n  \x7d".toList = ['\n', ' ', ' ', '}'] := rfl
  show "  \x7b\n    \"depth\": ".toList ++ Text.decimal l.depth ++
    ",\n    \"name\": ".toList ++ jsonString l.name ++
    ",\n    \"path\": ".toList ++ jsonString l.path ++ "\n  \x7d".toList = _
  rw [hdepth, hname, hpath, hclose]
  simp only [jsonObject, entries, entrySlot, Member.spelled, Slot.spelled, List.map_cons,
    List.map_nil, Json.separated_cons_cons, Json.separated_singleton, List.append_assoc,
    List.cons_append, List.nil_append, List.append_nil]

/-! ### Trees -/

/-- A place for a line in the array. -/
def lineSlot (l : TreeLine) (after : List Char) (h : Space after) : Slot :=
  ⟨['\n', ' ', ' '], jsonObject l, after, l.toJson, by decide, h⟩

/-- The places of the array; behind the last one stands the closing bracket's line. -/
def lineSlots : List TreeLine → List Slot
  | [] => []
  | [l] => [lineSlot l ['\n'] (by decide)]
  | l :: m :: ls => lineSlot l [] (by decide) :: lineSlots (m :: ls)

theorem lineSlots_ne_nil {lines : List TreeLine} (h : lines ≠ []) : lineSlots lines ≠ [] := by
  obtain _ | ⟨l, _ | ⟨m, ls⟩⟩ := lines
  · exact absurd rfl h
  · exact List.cons_ne_nil _ _
  · exact List.cons_ne_nil _ _

theorem map_value_lineSlots (lines : List TreeLine) :
    (lineSlots lines).map Slot.value = lines.map TreeLine.toJson := by
  induction lines using lineSlots.induct with
  | case1 => rfl
  | case2 l => rfl
  | case3 l m ls ih => rw [lineSlots, List.map_cons, ih]; rfl

theorem spells_of_mem_lineSlots {lines : List TreeLine} {s : Slot} (h : s ∈ lineSlots lines) :
    Spells s.text s.value := by
  induction lines using lineSlots.induct with
  | case1 => cases h
  | case2 l =>
      obtain rfl := List.mem_singleton.mp h
      exact spells_jsonObject l
  | case3 l m ls ih =>
      obtain rfl | h := List.mem_cons.mp h
      · exact spells_jsonObject l
      · exact ih h

theorem separated_lineSlots {lines : List TreeLine} (h : lines ≠ []) :
    separated ((lineSlots lines).map Slot.spelled) = '\n' :: (jsonMembers lines ++ ['\n']) := by
  induction lines using lineSlots.induct with
  | case1 => exact absurd rfl h
  | case2 l =>
      rw [jsonMembers, jsonLine_eq]
      simp [lineSlots, lineSlot, Slot.spelled, separated]
  | case3 l m ls ih =>
      have hrest := ih (List.cons_ne_nil m ls)
      obtain ⟨s, ss, hs⟩ := List.exists_cons_of_ne_nil (lineSlots_ne_nil (List.cons_ne_nil m ls))
      rw [jsonMembers, jsonLine_eq]
      rw [lineSlots, hs, List.map_cons, List.map_cons, Json.separated_cons_cons, ← List.map_cons,
        ← hs, hrest]
      simp [lineSlot, Slot.spelled]

/-- **The JSON form of a tree is the array of its lines**: it is the text of one value and a
newline, a reader finds that value in it, and there is no other. -/
theorem json_exact (lines : List TreeLine) :
    ∃ body, (TreeFormat.json.export lines).toList = body ++ ['\n'] ∧
      Spells body (.array (lines.map TreeLine.toJson)) ∧
      Json.read? (TreeFormat.json.export lines).toList =
        some (.array (lines.map TreeLine.toJson)) ∧
      ∀ v, Document (TreeFormat.json.export lines).toList v →
        v = .array (lines.map TreeLine.toJson) := by
  have hbody : ∃ body, (TreeFormat.json.export lines).toList = body ++ ['\n'] ∧
      Spells body (.array (lines.map TreeLine.toJson)) := by
    by_cases hlines : lines = []
    · subst hlines
      have hempty : Spells ('[' :: ([] ++ [']'])) (.array []) := .emptyArray (by decide)
      exact ⟨['[', ']'], rfl, hempty⟩
    · refine ⟨'[' :: (separated ((lineSlots lines).map Slot.spelled) ++ [']']), ?_, ?_⟩
      · rw [separated_lineSlots hlines]
        have hempty : lines.isEmpty = false := by simpa using hlines
        simp [TreeFormat.export, json, hempty]
      · rw [← map_value_lineSlots]
        exact .array (lineSlots_ne_nil hlines) fun s => spells_of_mem_lineSlots
  obtain ⟨body, hexport, hspells⟩ := hbody
  have hdocument : Document (body ++ ['\n']) (.array (lines.map TreeLine.toJson)) :=
    .mk (s := ⟨[], body, ['\n'], _, by decide, by decide⟩) hspells
  rw [hexport]
  exact ⟨body, rfl, hspells, Json.read?_of_document hdocument, fun v hv => hv.unique hdocument⟩

end Export

end CallForest
