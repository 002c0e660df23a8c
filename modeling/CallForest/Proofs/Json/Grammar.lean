import CallForest.Text.Decimal

/-!
# The grammar of JSON

`Json.Spells text v` says that a text is a value, with nothing around it, and what its value is.
White space may stand around the members of arrays and objects, on both sides of the colon behind a
key, and around the value that is a whole document (`Json.Document`). In a string a character stands
for itself, or it is escaped, by a letter or by its UTF-16 code units in hexadecimal digits; those
of characters beyond U+FFFF are two. The members of an object are kept in the order of the text, and
so are those with the same key.
-/

namespace CallForest

/-- A JSON value. -/
inductive Json where
  | null
  | bool (b : Bool)
  | number (q : Rat)
  | string (s : String)
  | array (items : List Json)
  | object (members : List (String × Json))

namespace Json

/-- White space between the parts of a document. -/
def isSpace (c : Char) : Bool :=
  c = ' ' || c = '\t' || c = '\n' || c = '\r'

/-- A text of white space. -/
def Space (cs : List Char) : Prop :=
  ∀ c ∈ cs, isSpace c = true

instance (cs : List Char) : Decidable (Space cs) :=
  List.decidableBAll (fun c => isSpace c = true) cs

/-! ## Numbers -/

/-- A text of one or more digits. -/
structure SpellsDigits (text : List Char) (n : Nat) : Prop where
  ne_nil : text ≠ []
  value : Text.digitsValue? 0 text = some n

/-- The part of a number in front of its point. It begins with a zero only if it is zero. -/
inductive SpellsWhole : List Char → Nat → Prop
  | zero : SpellsWhole ['0'] 0
  | digits {text : List Char} {n : Nat} (h : SpellsDigits text n) (hzero : text.head? ≠ some '0') :
      SpellsWhole text n

/-- The part of a number from its point on, if it has one. -/
inductive SpellsFraction : List Char → Rat → Prop
  | none : SpellsFraction [] 0
  | digits {text : List Char} {n : Nat} (h : SpellsDigits text n) :
      SpellsFraction ('.' :: text) (n / 10 ^ text.length)

/-- The sign of an exponent. -/
inductive SpellsSign : List Char → Int → Prop
  | none : SpellsSign [] 1
  | plus : SpellsSign ['+'] 1
  | minus : SpellsSign ['-'] (-1)

/-- The exponent of a number, if it has one. -/
inductive SpellsExponent : List Char → Int → Prop
  | none : SpellsExponent [] 0
  | digits {mark : Char} {sign text : List Char} {s : Int} {n : Nat}
      (hmark : mark = 'e' ∨ mark = 'E') (hsign : SpellsSign sign s) (h : SpellsDigits text n) :
      SpellsExponent (mark :: (sign ++ text)) (s * n)

/-- A number without a sign. -/
inductive SpellsMagnitude : List Char → Rat → Prop
  | mk {whole fraction exponent : List Char} {n : Nat} {q : Rat} {e : Int}
      (hwhole : SpellsWhole whole n) (hfraction : SpellsFraction fraction q)
      (hexponent : SpellsExponent exponent e) :
      SpellsMagnitude (whole ++ (fraction ++ exponent)) ((n + q) * 10 ^ e)

/-- A number. -/
inductive SpellsNumber : List Char → Rat → Prop
  | positive {text : List Char} {q : Rat} (h : SpellsMagnitude text q) : SpellsNumber text q
  | negative {text : List Char} {q : Rat} (h : SpellsMagnitude text q) :
      SpellsNumber ('-' :: text) (-q)

/-! ## Strings -/

/-- The value of a hexadecimal digit. -/
def hexValue? (c : Char) : Option Nat :=
  if '0' ≤ c ∧ c ≤ '9' then some (c.toNat - '0'.toNat)
  else if 'a' ≤ c ∧ c ≤ 'f' then some (c.toNat - 'a'.toNat + 10)
  else if 'A' ≤ c ∧ c ≤ 'F' then some (c.toNat - 'A'.toNat + 10)
  else none

/-- What stands for a character behind a backslash. -/
def escaped? : Char → Option Char
  | '"' => some '"'
  | '\\' => some '\\'
  | '/' => some '/'
  | 'b' => some (Char.ofNat 8)
  | 'f' => some (Char.ofNat 12)
  | 'n' => some '\n'
  | 'r' => some '\r'
  | 't' => some '\t'
  | _ => none

/-- A UTF-16 code unit, escaped by its four hexadecimal digits. -/
inductive SpellsUnit : List Char → Nat → Prop
  | mk {c₁ c₂ c₃ c₄ : Char} {d₁ d₂ d₃ d₄ : Nat} (h₁ : hexValue? c₁ = some d₁)
      (h₂ : hexValue? c₂ = some d₂) (h₃ : hexValue? c₃ = some d₃) (h₄ : hexValue? c₄ = some d₄) :
      SpellsUnit ['\\', 'u', c₁, c₂, c₃, c₄] (((d₁ * 16 + d₂) * 16 + d₃) * 16 + d₄)

/-- The first unit of two. -/
def IsHighSurrogate (n : Nat) : Prop := 0xD800 ≤ n ∧ n < 0xDC00

/-- The second unit of two. -/
def IsLowSurrogate (n : Nat) : Prop := 0xDC00 ≤ n ∧ n < 0xE000

instance (n : Nat) : Decidable (IsHighSurrogate n) := inferInstanceAs (Decidable (_ ∧ _))

instance (n : Nat) : Decidable (IsLowSurrogate n) := inferInstanceAs (Decidable (_ ∧ _))

/-- The character of two units. -/
def combined (high low : Nat) : Char :=
  Char.ofNat (0x10000 + (high - 0xD800) * 0x400 + (low - 0xDC00))

/-- A character in a string. -/
inductive SpellsChar : List Char → Char → Prop
  | plain {c : Char} (hquote : c ≠ '"') (hbackslash : c ≠ '\\') (h : 32 ≤ c.toNat) :
      SpellsChar [c] c
  | short {e c : Char} (h : escaped? e = some c) : SpellsChar ['\\', e] c
  | unit {text : List Char} {n : Nat} (h : SpellsUnit text n) (hhigh : ¬ IsHighSurrogate n)
      (hlow : ¬ IsLowSurrogate n) : SpellsChar text (Char.ofNat n)
  | units {text text' : List Char} {high low : Nat} (h : SpellsUnit text high)
      (h' : SpellsUnit text' low) (hhigh : IsHighSurrogate high) (hlow : IsLowSurrogate low) :
      SpellsChar (text ++ text') (combined high low)

/-- The characters of a string, one after the other. -/
inductive SpellsChars : List Char → List Char → Prop
  | nil : SpellsChars [] []
  | cons {piece text : List Char} {c : Char} {cs : List Char} (h : SpellsChar piece c)
      (hs : SpellsChars text cs) : SpellsChars (piece ++ text) (c :: cs)

/-- A string, between quotes. -/
inductive SpellsString : List Char → String → Prop
  | mk {text : List Char} {s : String} (h : SpellsChars text s.toList) :
      SpellsString ('"' :: (text ++ ['"'])) s

/-! ## Values -/

/-- A place for a value, with white space around it. -/
structure Slot where
  before : List Char
  text : List Char
  after : List Char
  value : Json
  space_before : Space before
  space_after : Space after

/-- A place in an object: a key, also with white space around it, and the place behind its colon. -/
structure Member where
  before : List Char
  key : List Char
  after : List Char
  name : String
  slot : Slot
  space_before : Space before
  space_after : Space after
  spells_key : SpellsString key name

namespace Slot

/-- All that stands in the place. -/
def spelled (s : Slot) : List Char :=
  s.before ++ (s.text ++ s.after)

end Slot

namespace Member

/-- All that stands in the place. -/
def spelled (m : Member) : List Char :=
  m.before ++ (m.key ++ (m.after ++ ':' :: m.slot.spelled))

/-- What the object has there. -/
def entry (m : Member) : String × Json :=
  (m.name, m.slot.value)

end Member

/-- Places, with commas between them. -/
def separated (places : List (List Char)) : List Char :=
  [','].intercalate places

theorem separated_singleton (place : List Char) : separated [place] = place :=
  List.append_nil place

theorem separated_cons_cons (place place' : List Char) (places : List (List Char)) :
    separated (place :: place' :: places) = place ++ ',' :: separated (place' :: places) := by
  rw [separated, List.intercalate_cons_cons, List.append_assoc]
  rfl

/-- The text of a value, nothing around it. -/
inductive Spells : List Char → Json → Prop
  | nullWord : Spells ['n', 'u', 'l', 'l'] null
  | trueWord : Spells ['t', 'r', 'u', 'e'] (bool true)
  | falseWord : Spells ['f', 'a', 'l', 's', 'e'] (bool false)
  | number {text : List Char} {q : Rat} (h : SpellsNumber text q) : Spells text (number q)
  | string {text : List Char} {s : String} (h : SpellsString text s) : Spells text (string s)
  | emptyArray {space : List Char} (h : Space space) : Spells ('[' :: (space ++ [']'])) (array [])
  | array {slots : List Slot} (hne : slots ≠ []) (h : ∀ s ∈ slots, Spells s.text s.value) :
      Spells ('[' :: (separated (slots.map Slot.spelled) ++ [']'])) (array (slots.map Slot.value))
  | emptyObject {space : List Char} (h : Space space) : Spells ('{' :: (space ++ ['}'])) (object [])
  | object {members : List Member} (hne : members ≠ [])
      (h : ∀ m ∈ members, Spells m.slot.text m.slot.value) :
      Spells ('{' :: (separated (members.map Member.spelled) ++ ['}']))
        (object (members.map Member.entry))

/-- A text with one value in it and white space around it. -/
inductive Document : List Char → Json → Prop
  | mk {s : Slot} (h : Spells s.text s.value) : Document s.spelled s.value

end Json

end CallForest
