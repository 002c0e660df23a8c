import CallForest.Proofs.Json.Grammar
import Mathlib.Data.List.TakeWhile

/-!
# Reading JSON

A document is read from the front. What comes next is clear from its first character, and a number
goes on as long as it can. `Json.read?` gives the value of every document (`read?_of_document`), so
no text has two values (`Document.unique`).
-/

namespace CallForest.Json

/-- Reads something at the front of a text, and gives it with what is left of the text. -/
abbrev Reader (α : Type) := List Char → Option (α × List Char)

/-- A text that ends, or goes on with a character that is not one of these. -/
def Stops (p : Char → Bool) (rest : List Char) : Prop :=
  ∀ c ∈ rest.head?, p c = false

theorem Stops.nil (p : Char → Bool) : Stops p [] := by
  intro c hc
  cases hc

theorem Stops.cons {p : Char → Bool} {c : Char} (h : p c = false) (rest : List Char) :
    Stops p (c :: rest) := by
  rintro _ ⟨⟩
  exact h

theorem Stops.mono {p p' : Char → Bool} {rest : List Char} (h : Stops p rest)
    (hle : ∀ c, p c = false → p' c = false) : Stops p' rest :=
  fun c hc => hle c (h c hc)

section Span

variable {p : Char → Bool} {text rest : List Char}

theorem takeWhile_append_stops (htext : ∀ c ∈ text, p c = true) (hrest : Stops p rest) :
    (text ++ rest).takeWhile p = text := by
  rw [List.takeWhile_append_of_pos htext]
  cases rest with
  | nil => exact List.append_nil text
  | cons c rest =>
      rw [List.takeWhile_cons_of_neg (Bool.eq_false_iff.mp (hrest c rfl)), List.append_nil]

theorem dropWhile_append_stops (htext : ∀ c ∈ text, p c = true) (hrest : Stops p rest) :
    (text ++ rest).dropWhile p = rest := by
  rw [List.dropWhile_append_of_pos htext]
  cases rest with
  | nil => rfl
  | cons c rest => exact List.dropWhile_cons_of_neg (Bool.eq_false_iff.mp (hrest c rfl))

end Span

/-! ## Numbers -/

def isDigit (c : Char) : Bool :=
  (Text.digitValue? c).isSome

def readDigits : Reader Nat := fun cs =>
  if cs.takeWhile isDigit = [] then none
  else (Text.digitsValue? 0 (cs.takeWhile isDigit)).map fun n => (n, cs.dropWhile isDigit)

def readWhole : Reader Nat
  | '0' :: rest => some (0, rest)
  | cs => readDigits cs

def readFraction : Reader Rat
  | '.' :: cs => (readDigits cs).map fun (n, rest) => (n / 10 ^ (cs.takeWhile isDigit).length, rest)
  | cs => some (0, cs)

def readSign : List Char → Int × List Char
  | '+' :: cs => (1, cs)
  | '-' :: cs => (-1, cs)
  | cs => (1, cs)

def readExponent : Reader Int
  | [] => some (0, [])
  | c :: cs =>
    if c = 'e' ∨ c = 'E' then
      (readDigits (readSign cs).2).map fun (n, rest) => ((readSign cs).1 * n, rest)
    else some (0, c :: cs)

def readMagnitude : Reader Rat := fun cs => do
  let (n, cs) ← readWhole cs
  let (q, cs) ← readFraction cs
  let (e, cs) ← readExponent cs
  return ((n + q) * 10 ^ e, cs)

def readNumber : Reader Rat
  | '-' :: cs => (readMagnitude cs).map fun (q, rest) => (-q, rest)
  | cs => readMagnitude cs

/-- A character with which a number that has begun may go on. -/
def isNumberChar (c : Char) : Bool :=
  isDigit c || c = '.' || c = 'e' || c = 'E'

section Numbers

variable {text rest : List Char}

theorem isDigit_of_digitsValue? {acc n : Nat} (h : Text.digitsValue? acc text = some n) :
    ∀ c ∈ text, isDigit c = true := by
  induction text generalizing acc with
  | nil => nofun
  | cons c cs ih =>
      rw [Text.digitsValue?] at h
      split at h
      · next hc => exact List.forall_mem_cons.mpr ⟨by rw [isDigit, hc, Option.isSome_some], ih h⟩
      · cases h

theorem SpellsDigits.isDigit {n : Nat} (h : SpellsDigits text n) :
    ∀ c ∈ text, isDigit c = true :=
  isDigit_of_digitsValue? h.value

theorem SpellsDigits.exists_cons {n : Nat} (h : SpellsDigits text n) :
    ∃ c cs, text = c :: cs ∧ Json.isDigit c = true := by
  cases text with
  | nil => exact absurd rfl h.ne_nil
  | cons c cs => exact ⟨c, cs, rfl, h.isDigit c List.mem_cons_self⟩

theorem readDigits_append {n : Nat} (h : SpellsDigits text n) (hrest : Stops isDigit rest) :
    readDigits (text ++ rest) = some (n, rest) := by
  rw [readDigits, takeWhile_append_stops h.isDigit hrest, dropWhile_append_stops h.isDigit hrest,
    if_neg h.ne_nil, h.value]
  rfl

theorem readWhole_append {n : Nat} (h : SpellsWhole text n) (hrest : Stops isDigit rest) :
    readWhole (text ++ rest) = some (n, rest) := by
  cases h with
  | zero => rfl
  | digits h hzero =>
      obtain ⟨c, cs, rfl, -⟩ := h.exists_cons
      rw [readWhole, readDigits_append h hrest]
      intro rest' heq
      exact hzero (congrArg some (List.cons.inj heq).1)

theorem readFraction_append {q : Rat} (h : SpellsFraction text q)
    (hrest : Stops isDigit rest) (hpoint : Stops (· = '.') rest) :
    readFraction (text ++ rest) = some (q, rest) := by
  cases h with
  | none =>
      rw [List.nil_append, readFraction]
      intro rest' heq
      exact absurd (hpoint '.' (by rw [heq]; rfl)) (by decide)
  | @digits text n h =>
      rw [List.cons_append, readFraction, readDigits_append h hrest,
        takeWhile_append_stops h.isDigit hrest]
      rfl

theorem readSign_append {s : Int} {n : Nat} {digits : List Char} (h : SpellsSign text s)
    (hdigits : SpellsDigits digits n) :
    readSign (text ++ (digits ++ rest)) = (s, digits ++ rest) := by
  cases h with
  | plus => rfl
  | minus => rfl
  | none =>
      obtain ⟨c, cs, rfl, hc⟩ := hdigits.exists_cons
      rw [List.nil_append, readSign]
      · intro rest' heq
        exact absurd ((List.cons.inj heq).1 ▸ hc) (by decide)
      · intro rest' heq
        exact absurd ((List.cons.inj heq).1 ▸ hc) (by decide)

theorem readExponent_append {e : Int} (h : SpellsExponent text e) (hrest : Stops isDigit rest)
    (hmark : Stops (fun c => c = 'e' || c = 'E') rest) :
    readExponent (text ++ rest) = some (e, rest) := by
  cases h with
  | none =>
      cases rest with
      | nil => rfl
      | cons c rest =>
          have hc : ¬ (c = 'e' ∨ c = 'E') := by simpa using hmark c rfl
          exact if_neg hc
  | digits hmark hsign h =>
      rw [List.cons_append, List.append_assoc, readExponent, if_pos hmark, readSign_append hsign h,
        readDigits_append h hrest]
      rfl

theorem SpellsFraction.stops {p : Char → Bool} {q : Rat} (h : SpellsFraction text q)
    (hpoint : p '.' = false) (hrest : Stops p rest) : Stops p (text ++ rest) := by
  cases h with
  | none => exact hrest
  | digits h => exact .cons hpoint _

theorem SpellsExponent.stops {p : Char → Bool} {e : Int} (h : SpellsExponent text e)
    (hmark : ∀ c, c = 'e' ∨ c = 'E' → p c = false) (hrest : Stops p rest) :
    Stops p (text ++ rest) := by
  cases h with
  | none => exact hrest
  | digits h => exact .cons (hmark _ h) _

theorem readMagnitude_append {q : Rat} (h : SpellsMagnitude text q)
    (hrest : Stops isNumberChar rest) : readMagnitude (text ++ rest) = some (q, rest) := by
  have hdigit : Stops isDigit rest := hrest.mono fun c hc => by
    simp only [isNumberChar, Bool.or_eq_false_iff] at hc
    exact hc.1.1.1
  have hpoint : Stops (· = '.') rest := hrest.mono fun c hc => by
    simp only [isNumberChar, Bool.or_eq_false_iff] at hc
    exact hc.1.1.2
  have hmark : Stops (fun c => c = 'e' || c = 'E') rest := hrest.mono fun c hc => by
    simp only [isNumberChar, Bool.or_eq_false_iff] at hc ⊢
    exact ⟨hc.1.2, hc.2⟩
  obtain ⟨hwhole, hfraction, hexponent⟩ := h
  have hdigit' := hexponent.stops (by rintro _ (rfl | rfl) <;> decide) hdigit
  have hpoint' := hexponent.stops (by rintro _ (rfl | rfl) <;> decide) hpoint
  simp only [readMagnitude, List.append_assoc, Option.bind_eq_bind, Option.bind_some,
    readWhole_append hwhole (hfraction.stops (by decide) hdigit'),
    readFraction_append hfraction hdigit' hpoint', readExponent_append hexponent hdigit hmark]
  rfl

theorem SpellsWhole.exists_cons {n : Nat} (h : SpellsWhole text n) :
    ∃ c cs, text = c :: cs ∧ isDigit c = true := by
  cases h with
  | zero => exact ⟨'0', [], rfl, by decide⟩
  | digits h => exact h.exists_cons

theorem SpellsMagnitude.exists_cons {q : Rat} (h : SpellsMagnitude text q) :
    ∃ c cs, text = c :: cs ∧ isDigit c = true := by
  obtain ⟨hwhole, -, -⟩ := h
  obtain ⟨c, cs, rfl, hc⟩ := hwhole.exists_cons
  exact ⟨c, _, rfl, hc⟩

theorem SpellsNumber.exists_cons {q : Rat} (h : SpellsNumber text q) :
    ∃ c cs, text = c :: cs ∧ (isDigit c = true ∨ c = '-') := by
  cases h with
  | positive h =>
      obtain ⟨c, cs, rfl, hc⟩ := h.exists_cons
      exact ⟨c, cs, rfl, .inl hc⟩
  | negative h => exact ⟨'-', _, rfl, .inr rfl⟩

theorem readNumber_append {q : Rat} (h : SpellsNumber text q) (hrest : Stops isNumberChar rest) :
    readNumber (text ++ rest) = some (q, rest) := by
  cases h with
  | positive h =>
      obtain ⟨c, cs, rfl, hc⟩ := h.exists_cons
      rw [readNumber, readMagnitude_append h hrest]
      intro rest' heq
      exact absurd ((List.cons.inj heq).1 ▸ hc) (by decide)
  | negative h =>
      rw [List.cons_append, readNumber, readMagnitude_append h hrest]
      rfl

end Numbers

/-! ## Strings -/

def readUnit : Reader Nat
  | '\\' :: 'u' :: c₁ :: c₂ :: c₃ :: c₄ :: rest => do
    let d₁ ← hexValue? c₁
    let d₂ ← hexValue? c₂
    let d₃ ← hexValue? c₃
    let d₄ ← hexValue? c₄
    return (((d₁ * 16 + d₂) * 16 + d₃) * 16 + d₄, rest)
  | _ => none

/-- Reads a character that is not escaped by a code unit. -/
def readSimple : Reader Char
  | '\\' :: e :: rest => (escaped? e).map fun c => (c, rest)
  | c :: rest => if c = '\\' ∨ c = '"' ∨ c.toNat < 32 then none else some (c, rest)
  | [] => none

/-- Reads the character of a unit, which is already read, and of another one if it needs it. -/
def readRest (n : Nat) : Reader Char := fun cs =>
  if IsHighSurrogate n then do
    let (m, rest) ← readUnit cs
    if IsLowSurrogate m then some (combined n m, rest) else none
  else if IsLowSurrogate n then none
  else some (Char.ofNat n, cs)

def readChar : Reader Char := fun cs =>
  match readUnit cs with
  | some (n, rest) => readRest n rest
  | none => readSimple cs

/-- Reads characters up to the closing quote, at most so many. -/
def readChars : Nat → Reader (List Char)
  | _, '"' :: rest => some ([], rest)
  | 0, _ => none
  | count + 1, cs => do
    let (c, cs) ← readChar cs
    let (s, rest) ← readChars count cs
    return (c :: s, rest)

def readString : Reader String
  | '"' :: cs => (readChars cs.length cs).map fun (s, rest) => (String.ofList s, rest)
  | _ => none

section Strings

variable {text rest : List Char}

theorem readUnit_append {n : Nat} (h : SpellsUnit text n) :
    readUnit (text ++ rest) = some (n, rest) := by
  obtain ⟨h₁, h₂, h₃, h₄⟩ := h
  simp only [List.cons_append, List.nil_append, readUnit, h₁, h₂, h₃, h₄, Option.bind_eq_bind,
    Option.bind_some]
  rfl

theorem readUnit_eq_none {c : Char} {cs : List Char} (h : c = '\\' → cs.head? ≠ some 'u') :
    readUnit (c :: cs) = none := by
  rw [readUnit]
  intro c₁ c₂ c₃ c₄ rest' heq
  obtain ⟨rfl, rfl⟩ := List.cons.inj heq
  exact h rfl rfl

theorem readChar_append {c : Char} (h : SpellsChar text c) :
    readChar (text ++ rest) = some (c, rest) := by
  cases h with
  | plain hquote hbackslash h =>
      rw [readChar, List.singleton_append, readUnit_eq_none fun hc => absurd hc hbackslash]
      dsimp only
      have hallowed : ¬ (c = '\\' ∨ c = '"' ∨ c.toNat < 32) := by
        rintro (hc | hc | hc)
        · exact hbackslash hc
        · exact hquote hc
        · omega
      rw [readSimple, if_neg hallowed]
      exact fun _ _ hc => absurd hc hbackslash
  | @short e c h =>
      have hu : e ≠ 'u' := by
        rintro rfl
        cases h
      rw [readChar, List.cons_append, List.cons_append,
        readUnit_eq_none fun _ => by simpa using hu]
      dsimp only
      rw [readSimple, h]
      rfl
  | unit h hhigh hlow =>
      rw [readChar, readUnit_append h]
      dsimp only
      rw [readRest, if_neg hhigh, if_neg hlow]
  | units h h' hhigh hlow =>
      rw [readChar, List.append_assoc, readUnit_append h]
      dsimp only
      rw [readRest, if_pos hhigh, readUnit_append h']
      exact if_pos hlow

/-- A character does not begin like the end of a string. -/
theorem SpellsChar.exists_cons {c : Char} (h : SpellsChar text c) :
    ∃ c' cs, text = c' :: cs ∧ c' ≠ '"' := by
  cases h with
  | plain hquote => exact ⟨c, [], rfl, hquote⟩
  | short => exact ⟨'\\', _, rfl, by decide⟩
  | unit h =>
      obtain ⟨_, _, _, _⟩ := h
      exact ⟨'\\', _, rfl, by decide⟩
  | units h =>
      obtain ⟨_, _, _, _⟩ := h
      exact ⟨'\\', _, rfl, by decide⟩

theorem readChars_append {cs : List Char} (h : SpellsChars text cs) {count : Nat}
    (hcount : text.length ≤ count) :
    readChars count (text ++ '"' :: rest) = some (cs, rest) := by
  induction h generalizing count with
  | nil => cases count <;> rfl
  | @cons piece text c cs h _ ih =>
      obtain ⟨c', piece', hpiece, hc'⟩ := h.exists_cons
      have hlength : piece.length = piece'.length + 1 := by rw [hpiece, List.length_cons]
      rw [List.length_append] at hcount
      obtain ⟨count, rfl⟩ : ∃ n, count = n + 1 := ⟨count - 1, by omega⟩
      rw [readChars, List.append_assoc, readChar_append h, Option.bind_eq_bind, Option.bind_some]
      · dsimp only
        rw [ih (by omega)]
        rfl
      · intro rest' heq
        rw [hpiece] at heq
        exact hc' (List.cons.inj heq).1

theorem SpellsString.exists_cons {s : String} (h : SpellsString text s) :
    ∃ cs, text = '"' :: cs := by
  obtain ⟨_⟩ := h
  exact ⟨_, rfl⟩

theorem readString_append {s : String} (h : SpellsString text s) :
    readString (text ++ rest) = some (s, rest) := by
  obtain ⟨h⟩ := h
  rw [List.cons_append, readString, List.append_assoc, List.singleton_append,
    readChars_append h (by rw [List.length_append]; omega), Option.map_some]
  exact congrArg (fun s => some (s, rest)) (String.ofList_toList)

end Strings

/-! ## Values -/

/-- Leaves out the white space at the front. -/
def skip (cs : List Char) : List Char :=
  cs.dropWhile isSpace

/-- Reads the value in a place. -/
def readSlot (read : Reader Json) : Reader Json := fun cs => do
  let (v, cs) ← read (skip cs)
  return (v, skip cs)

/-- Reads the entry in a place of an object. -/
def readMember (read : Reader Json) : Reader (String × Json) := fun cs => do
  let (name, cs) ← readString (skip cs)
  match skip cs with
  | ':' :: cs => do
    let (v, cs) ← readSlot read cs
    return ((name, v), cs)
  | _ => none

section Groups

variable {α : Type}

/-- Reads places with commas between them and a bracket behind them, at most so many. -/
def readSeparated (close : Char) (read : Reader α) : Nat → Reader (List α)
  | 0, _ => none
  | count + 1, cs => do
    let (a, cs) ← read cs
    match cs with
    | [] => none
    | c :: cs =>
      if c = close then some ([a], cs)
      else if c = ',' then do
        let (as, rest) ← readSeparated close read count cs
        return (a :: as, rest)
      else none

/-- Reads what is between brackets, from behind the opening one. -/
def readGroup (close : Char) (read : Reader α) : Reader (List α) := fun cs =>
  match skip cs with
  | [] => none
  | c :: rest => if c = close then some ([], rest) else readSeparated close read cs.length cs

end Groups

/-- Reads a value; `depth` bounds how deep arrays and objects are nested in it. -/
def readValue : Nat → Reader Json
  | 0, _ => none
  | _ + 1, 'n' :: 'u' :: 'l' :: 'l' :: rest => some (null, rest)
  | _ + 1, 't' :: 'r' :: 'u' :: 'e' :: rest => some (bool true, rest)
  | _ + 1, 'f' :: 'a' :: 'l' :: 's' :: 'e' :: rest => some (bool false, rest)
  | _ + 1, '"' :: cs => (readString ('"' :: cs)).map fun (s, rest) => (string s, rest)
  | depth + 1, '[' :: cs =>
    (readGroup ']' (readSlot (readValue depth)) cs).map fun (vs, rest) => (array vs, rest)
  | depth + 1, '{' :: cs =>
    (readGroup '}' (readMember (readValue depth)) cs).map fun (ms, rest) => (object ms, rest)
  | _ + 1, cs => (readNumber cs).map fun (q, rest) => (number q, rest)

/-- Reads a whole document. -/
def read? (text : List Char) : Option Json :=
  match readSlot (readValue text.length) text with
  | some (v, []) => some v
  | _ => none

section Groups

variable {α β : Type} {spelled : β → List Char} {value : β → α} {close : Char} {read : Reader α}
  {rest : List Char}

theorem length_le_separated (places : List (List Char)) :
    places.length ≤ (separated places).length + 1 := by
  induction places with
  | nil => exact Nat.zero_le _
  | cons place places ih =>
      cases places with
      | nil => exact Nat.le_add_left 1 _
      | cons place' places =>
          simp only [separated_cons_cons, List.length_append, List.length_cons] at ih ⊢
          omega

theorem length_le_of_mem_separated (spelled : β → List Char) {places : List β} {b : β}
    (h : b ∈ places) : (spelled b).length ≤ (separated (places.map spelled)).length := by
  induction places with
  | nil => cases h
  | cons first places ih =>
      cases places with
      | nil =>
          obtain rfl := List.mem_singleton.mp h
          exact Nat.le_of_eq (congrArg List.length (separated_singleton _).symm)
      | cons second places =>
          simp only [List.map_cons, separated_cons_cons, List.length_append,
            List.length_cons] at ih ⊢
          obtain rfl | h := List.mem_cons.mp h
          · omega
          · have := ih h
            omega

/-- Places are read if each of them is, before a comma and before the bracket. -/
theorem readSeparated_append (hclose : close ≠ ',') {places : List β} (hne : places ≠ [])
    (hread : ∀ b ∈ places, ∀ c rest, c = ',' ∨ c = close →
      read (spelled b ++ c :: rest) = some (value b, c :: rest))
    {count : Nat} (hcount : places.length ≤ count) :
    readSeparated close read count (separated (places.map spelled) ++ close :: rest) =
      some (places.map value, rest) := by
  induction places generalizing count with
  | nil => exact absurd rfl hne
  | cons b places ih =>
      obtain ⟨hb, hplaces⟩ := List.forall_mem_cons.mp hread
      cases count with
      | zero => cases hcount
      | succ count =>
          cases places with
          | nil =>
              have hlast := hb close rest (.inr rfl)
              rw [List.map_singleton, separated_singleton, readSeparated, hlast,
                Option.bind_eq_bind, Option.bind_some]
              exact if_pos rfl
          | cons b' places =>
              have htail := ih (List.cons_ne_nil _ _) hplaces (Nat.le_of_succ_le_succ hcount)
              rw [List.map_cons, List.map_cons, separated_cons_cons, List.append_assoc,
                List.cons_append, readSeparated, hb ',' _ (.inl rfl), Option.bind_eq_bind,
                Option.bind_some]
              dsimp only
              rw [if_neg hclose.symm, if_pos rfl, ← List.map_cons, htail]
              rfl

theorem readGroup_empty {space : List Char} (h : Space space) (hclose : isSpace close = false) :
    readGroup close read (space ++ close :: rest) = some ([], rest) := by
  rw [readGroup, skip, dropWhile_append_stops h (.cons hclose rest)]
  exact if_pos rfl

theorem readGroup_append (hclose : close ≠ ',') {places : List β} (hne : places ≠ [])
    (hread : ∀ b ∈ places, ∀ c rest, c = ',' ∨ c = close →
      read (spelled b ++ c :: rest) = some (value b, c :: rest))
    (hstart : ∀ b ∈ places, ∀ rest, ∃ c cs, skip (spelled b ++ rest) = c :: cs ∧ c ≠ close) :
    readGroup close read (separated (places.map spelled) ++ close :: rest) =
      some (places.map value, rest) := by
  have hskip : ∃ c cs, skip (separated (places.map spelled) ++ close :: rest) = c :: cs ∧
      c ≠ close := by
    obtain _ | ⟨b, _ | ⟨b', places⟩⟩ := places
    · exact absurd rfl hne
    · rw [List.map_singleton, separated_singleton]
      exact hstart b List.mem_cons_self _
    · rw [List.map_cons, List.map_cons, separated_cons_cons, List.append_assoc]
      exact hstart b List.mem_cons_self _
  obtain ⟨c, cs, hskip, hc⟩ := hskip
  have hlength := length_le_separated (places.map spelled)
  rw [List.length_map] at hlength
  rw [readGroup, hskip]
  dsimp only
  rw [if_neg hc]
  refine readSeparated_append hclose hne hread ?_
  rw [List.length_append, List.length_cons]
  omega

end Groups

section Values

variable {text rest : List Char}

theorem isSpace_eq_false {c : Char} (h : isDigit c = true ∨ c = '-') : isSpace c = false := by
  refine Bool.eq_false_iff.mpr fun hspace => ?_
  simp only [isSpace, Bool.or_eq_true, decide_eq_true_eq] at hspace
  obtain ((rfl | rfl) | rfl) | rfl := hspace <;> exact absurd h (by decide)

/-- A value is told from white space and closing brackets by its first character. -/
theorem Spells.exists_cons {v : Json} (h : Spells text v) :
    ∃ c cs, text = c :: cs ∧ isSpace c = false ∧ c ≠ ']' := by
  cases h with
  | number h =>
      obtain ⟨c, cs, rfl, hc⟩ := h.exists_cons
      refine ⟨c, cs, rfl, isSpace_eq_false hc, ?_⟩
      rintro rfl
      exact absurd hc (by decide)
  | string h =>
      obtain ⟨cs, rfl⟩ := h.exists_cons
      exact ⟨'"', cs, rfl, by decide, by decide⟩
  | _ => exact ⟨_, _, rfl, by decide, by decide⟩

theorem skip_append {space : List Char} (h : Space space) (hrest : Stops isSpace rest) :
    skip (space ++ rest) = rest :=
  dropWhile_append_stops h hrest

/-- Behind white space no number goes on, if none does behind that. -/
theorem stops_space_append {space : List Char} (h : Space space)
    (hrest : Stops isNumberChar rest) : Stops isNumberChar (space ++ rest) := by
  cases space with
  | nil => exact hrest
  | cons c space =>
      refine .cons (Bool.eq_false_iff.mpr fun hc => ?_) _
      have hspace := h c List.mem_cons_self
      simp only [isSpace, Bool.or_eq_true, decide_eq_true_eq] at hspace
      obtain ((rfl | rfl) | rfl) | rfl := hspace <;> exact absurd hc (by decide)

/-- The value is read off the front of every text, unless a number might go on behind it. -/
def Reads (read : Reader Json) (text : List Char) (v : Json) : Prop :=
  ∀ rest, Stops isNumberChar rest → read (text ++ rest) = some (v, rest)

section Places

variable {read : Reader Json}

theorem Slot.length_text_le (s : Slot) : s.text.length ≤ s.spelled.length := by
  rw [Slot.spelled, List.length_append, List.length_append]
  omega

theorem Slot.skip_spelled {s : Slot} (h : Spells s.text s.value) :
    skip (s.spelled ++ rest) = s.text ++ (s.after ++ rest) := by
  obtain ⟨c, cs, hc, hspace, -⟩ := h.exists_cons
  rw [Slot.spelled, List.append_assoc, List.append_assoc]
  exact skip_append s.space_before (by rw [hc]; exact .cons hspace _)

/-- A place is read if its value is. -/
theorem readSlot_append {s : Slot} (h : Spells s.text s.value) (hread : Reads read s.text s.value)
    (hspace : Stops isSpace rest) (hrest : Stops isNumberChar rest) :
    readSlot read (s.spelled ++ rest) = some (s.value, rest) := by
  rw [readSlot, Slot.skip_spelled h, hread _ (stops_space_append s.space_after hrest),
    Option.bind_eq_bind, Option.bind_some]
  exact congrArg (fun cs => some (s.value, cs)) (skip_append s.space_after hspace)

theorem Member.length_text_le (m : Member) : m.slot.text.length ≤ m.spelled.length := by
  have := m.slot.length_text_le
  rw [Member.spelled, List.length_append, List.length_append, List.length_append, List.length_cons]
  omega

theorem Member.skip_spelled (m : Member) (rest : List Char) : ∃ cs,
    m.key = '"' :: cs ∧
      skip (m.spelled ++ rest) = m.key ++ (m.after ++ ':' :: (m.slot.spelled ++ rest)) := by
  obtain ⟨cs, hcs⟩ := m.spells_key.exists_cons
  refine ⟨cs, hcs, ?_⟩
  rw [Member.spelled, List.append_assoc, List.append_assoc, List.append_assoc, List.cons_append]
  exact skip_append m.space_before (by rw [hcs]; exact .cons (by decide) _)

/-- A place of an object is read if its value is. -/
theorem readMember_append {m : Member} (h : Spells m.slot.text m.slot.value)
    (hread : Reads read m.slot.text m.slot.value) (hspace : Stops isSpace rest)
    (hrest : Stops isNumberChar rest) :
    readMember read (m.spelled ++ rest) = some (m.entry, rest) := by
  obtain ⟨-, -, hskip⟩ := m.skip_spelled rest
  rw [readMember, hskip, readString_append m.spells_key, Option.bind_eq_bind, Option.bind_some]
  dsimp only
  rw [skip_append m.space_after (.cons (by decide) _)]
  simp only [readSlot_append h hread hspace hrest]
  rfl

theorem stops_of_punctuation {c : Char} (h : c = ',' ∨ c = ']' ∨ c = '}') (rest : List Char) :
    Stops isSpace (c :: rest) ∧ Stops isNumberChar (c :: rest) := by
  obtain rfl | rfl | rfl := h <;> exact ⟨.cons (by decide) rest, .cons (by decide) rest⟩

theorem readItems_append {slots : List Slot} (hne : slots ≠ [])
    (h : ∀ s ∈ slots, Spells s.text s.value) (hread : ∀ s ∈ slots, Reads read s.text s.value) :
    readGroup ']' (readSlot read) (separated (slots.map Slot.spelled) ++ ']' :: rest) =
      some (slots.map Slot.value, rest) := by
  refine readGroup_append (by decide) hne ?_ ?_
  · intro s hs c rest hc
    obtain ⟨hspace, hnumber⟩ := stops_of_punctuation (hc.imp_right .inl) rest
    exact readSlot_append (h s hs) (hread s hs) hspace hnumber
  · intro s hs rest
    obtain ⟨c, cs, hc, -, hclose⟩ := (h s hs).exists_cons
    exact ⟨c, _, by rw [Slot.skip_spelled (h s hs), hc, List.cons_append], hclose⟩

theorem readEntries_append {members : List Member} (hne : members ≠ [])
    (h : ∀ m ∈ members, Spells m.slot.text m.slot.value)
    (hread : ∀ m ∈ members, Reads read m.slot.text m.slot.value) :
    readGroup '}' (readMember read) (separated (members.map Member.spelled) ++ '}' :: rest) =
      some (members.map Member.entry, rest) := by
  refine readGroup_append (by decide) hne ?_ ?_
  · intro m hm c rest hc
    obtain ⟨hspace, hnumber⟩ := stops_of_punctuation (hc.imp_right .inr) rest
    exact readMember_append (h m hm) (hread m hm) hspace hnumber
  · intro m hm rest
    obtain ⟨cs, hkey, hskip⟩ := m.skip_spelled rest
    exact ⟨'"', _, by rw [hskip, hkey, List.cons_append], by decide⟩

end Places

theorem readValue_number {q : Rat} (h : SpellsNumber text q) (hrest : Stops isNumberChar rest)
    (depth : Nat) : readValue (depth + 1) (text ++ rest) = some (number q, rest) := by
  have hread := readNumber_append h hrest
  obtain ⟨c, cs, rfl, hc⟩ := h.exists_cons
  have hne : ∀ c', ¬ (isDigit c' = true ∨ c' = '-') → c ≠ c' := by
    rintro c' hc' rfl
    exact hc' hc
  rw [readValue, hread]
  · rfl
  all_goals
    intros
    rename_i heq
    exact absurd (List.cons.inj heq).1 (hne _ (by decide))

/-- A value is read, if its text is no longer than the nesting may be deep. -/
theorem reads_of_spells {v : Json} (h : Spells text v) {depth : Nat}
    (hdepth : text.length ≤ depth) : Reads (readValue depth) text v := by
  intro rest hrest
  induction depth generalizing text v rest with
  | zero =>
      obtain ⟨c, cs, rfl, -⟩ := h.exists_cons
      cases hdepth
  | succ depth ih =>
      cases h with
      | nullWord => rfl
      | trueWord => rfl
      | falseWord => rfl
      | number h => exact readValue_number h hrest depth
      | string h =>
          obtain ⟨cs, rfl⟩ := h.exists_cons
          have hread : readString ('"' :: (cs ++ rest)) = some (_, rest) := readString_append h
          rw [List.cons_append, readValue, hread]
          rfl
      | emptyArray h =>
          rw [List.cons_append, List.append_assoc, readValue]
          exact congrArg (Option.map _) (readGroup_empty h (by decide))
      | @array slots hne h =>
          have hread : ∀ s ∈ slots, Reads (readValue depth) s.text s.value := by
            intro s hs
            have hplace := length_le_of_mem_separated Slot.spelled hs
            have htext := s.length_text_le
            rw [List.length_cons, List.length_append] at hdepth
            exact ih (h s hs) (by omega)
          rw [List.cons_append, List.append_assoc, readValue]
          exact congrArg (Option.map _) (readItems_append hne h hread)
      | emptyObject h =>
          rw [List.cons_append, List.append_assoc, readValue]
          exact congrArg (Option.map _) (readGroup_empty h (by decide))
      | @object members hne h =>
          have hread : ∀ m ∈ members, Reads (readValue depth) m.slot.text m.slot.value := by
            intro m hm
            have hplace := length_le_of_mem_separated Member.spelled hm
            have htext := m.length_text_le
            rw [List.length_cons, List.length_append] at hdepth
            exact ih (h m hm) (by omega)
          rw [List.cons_append, List.append_assoc, readValue]
          exact congrArg (Option.map _) (readEntries_append hne h hread)

/-- The value of a document is read. -/
theorem read?_of_document {v : Json} (h : Document text v) : read? text = some v := by
  cases h with
  | @mk s h =>
      have hread : readSlot (readValue s.spelled.length) (s.spelled ++ []) = some (s.value, []) :=
        readSlot_append h (reads_of_spells h s.length_text_le) (.nil _) (.nil _)
      rw [List.append_nil] at hread
      rw [read?, hread]

example : read? "[\"\\ud834\\udd1e\\n\", [ ], true] ".toList =
      some (array [string "𝄞\n", array [], bool true]) ∧
    read? "[true,]".toList = none :=
  ⟨rfl, rfl⟩

/-- **No document has two values.** -/
theorem Document.unique {v w : Json} (hv : Document text v) (hw : Document text w) : v = w := by
  have hread := read?_of_document hv
  rw [read?_of_document hw] at hread
  exact (Option.some.inj hread).symm

end Values

end CallForest.Json
