import CallForest.Bytes.Octets

/-!
# Patterns

A pattern is a text in which stars, question marks and brackets stand for others. Characters that
are quoted stand for themselves, so a pattern is read from characters with a mark each.
-/

namespace CallForest.Shell

/-- Text whose characters are marked as quoted or not. -/
abbrev Marked := List (Char × Bool)

/-- Text of which all characters have the same mark. -/
def Marked.ofText (s : Octets) (quoted : Bool) : Marked := s.map fun c => (c, quoted)

/-- Marked text without its marks. -/
def Marked.text (m : Marked) : Octets := m.map Prod.fst

/-- What a bracket holds: the characters between two, or a class of characters. -/
inductive BracketItem where
  | between (low high : Char)
  | className (name : String)
  deriving DecidableEq, Repr

/-- A part of a pattern. -/
inductive PatternPart where
  | char (c : Char)
  | anyChar
  | anyText
  | bracket (inverted : Bool) (items : List BracketItem)
  /-- Patterns one of which has to fit once, or as often as the character in front tells. -/
  | group (sign : Char) (alternatives : List (List PatternPart))

/-- Which patterns there are. -/
structure PatternStyle where
  /-- Whether a caret in a bracket stands for all other characters. -/
  caretInverts : Bool
  /-- Whether there are groups of patterns. -/
  hasGroups : Bool

/-- A pattern: its parts in order. -/
abbrev Pattern := List PatternPart

/-- Whether an octet is in a class of characters. -/
def inClass (name : String) (c : Char) : Bool :=
  match name with
  | "alpha" => c.isAlpha
  | "digit" => c.isDigit
  | "alnum" => c.isAlphanum
  | "upper" => c.isUpper
  | "lower" => c.isLower
  | "space" => c == ' ' || (9 ≤ c.toNat && c.toNat ≤ 13)
  | "blank" => c == ' ' || c == '\t'
  | "punct" => 33 ≤ c.toNat && c.toNat ≤ 126 && !c.isAlphanum
  | "print" => 32 ≤ c.toNat && c.toNat ≤ 126
  | "graph" => 33 ≤ c.toNat && c.toNat ≤ 126
  | "cntrl" => c.toNat < 32 || c.toNat == 127
  | "xdigit" => c.isDigit || ('a' ≤ c && c ≤ 'f') || ('A' ≤ c && c ≤ 'F')
  | _ => false

/-- Whether an item of a bracket holds an octet. -/
def BracketItem.holds (c : Char) : BracketItem → Bool
  | between low high => low ≤ c && c ≤ high
  | className name => inClass name c

namespace Pattern

/-- The name of a class of characters, up to the colon and the bracket that end it, and the rest. -/
def className? (m : Marked) : Option (String × Marked) :=
  let name := m.takeWhile fun c => c.1.isAlpha
  match m.drop name.length with
  | (':', _) :: (']', _) :: rest => some (String.ofList (Marked.text name), rest)
  | _ => none

/-- Reads the items of a bracket on; `first` tells that none has been read. None if the bracket is
never closed. The first argument bounds the number of steps. -/
def items? : Nat → Bool → Marked → Option (List BracketItem × Marked)
  | 0, _, _ => none
  | _ + 1, _, [] => none
  | steps + 1, first, (c, quoted) :: rest =>
    if c = ']' ∧ !quoted ∧ !first then some ([], rest)
    else
      match c, quoted, rest with
      | '[', false, (':', false) :: more =>
        match className? more with
        | some (name, rest) =>
          (items? steps false rest).map fun (items, rest) => (.className name :: items, rest)
        | none =>
          (items? steps false ((':', false) :: more)).map fun (items, rest) =>
            (.between '[' '[' :: items, rest)
      | c, _, ('-', false) :: (d, quotedEnd) :: more =>
        if d = ']' ∧ !quotedEnd then
          (items? steps false (('-', false) :: (d, quotedEnd) :: more)).map fun (items, rest) =>
            (.between c c :: items, rest)
        else
          (items? steps false more).map fun (items, rest) => (.between c d :: items, rest)
      | c, _, rest =>
        (items? steps false rest).map fun (items, rest) => (.between c c :: items, rest)

/-- Cuts a text behind the parenthesis that closes what is open, and its inside at bars; `depth`
counts the parentheses open within, and `done` is the alternative in progress, reversed. -/
def alternatives? : (depth : Nat) → (done : Marked) → Marked → Option (List Marked × Marked)
  | _, _, [] => none
  | depth, done, (c, quoted) :: rest =>
    if c = ')' ∧ !quoted ∧ depth = 0 then some ([done.reverse], rest)
    else if c = '|' ∧ !quoted ∧ depth = 0 then
      (alternatives? 0 [] rest).map fun (others, rest) => (done.reverse :: others, rest)
    else
      let depth := if quoted then depth
        else if c = '(' then depth + 1
        else if c = ')' then depth - 1
        else depth
      alternatives? depth ((c, quoted) :: done) rest

/-- The alternatives of a group that begins a text, with the character in front of it, and what is
behind. -/
def group? (style : PatternStyle) : Marked → Option (Char × List Marked × Marked)
  | (sign, false) :: ('(', false) :: rest =>
    if style.hasGroups && ['?', '*', '+', '@', '!'].contains sign then
      (alternatives? 0 [] rest).map fun (all, rest) => (sign, all, rest)
    else none
  | _ => none

/-- The parts of a pattern. The first argument bounds the number of steps. -/
def partsFrom (style : PatternStyle) : Nat → Marked → Pattern
  | 0, _ => []
  | _ + 1, [] => []
  | steps + 1, (c, true) :: rest => .char c :: partsFrom style steps rest
  | steps + 1, (c, false) :: rest =>
    match group? style ((c, false) :: rest) with
    | some (sign, all, behind) =>
      .group sign (all.map (partsFrom style steps)) :: partsFrom style steps behind
    | none =>
      match c, rest with
      | '*', rest => .anyText :: partsFrom style steps rest
      | '?', rest => .anyChar :: partsFrom style steps rest
      | '\\', (d, _) :: rest => .char d :: partsFrom style steps rest
      | '[', rest =>
        let (inverted, inside) :=
          match rest with
          | ('!', false) :: more => (true, more)
          | ('^', false) :: more => if style.caretInverts then (true, more) else (false, rest)
          | rest => (false, rest)
        match items? (inside.length + 1) true inside with
        | some (items, behind) => .bracket inverted items :: partsFrom style steps behind
        | none => .char '[' :: partsFrom style steps rest
      | c, rest => .char c :: partsFrom style steps rest

/-- The pattern of a marked text. -/
def ofMarked (style : PatternStyle) (m : Marked) : Pattern := partsFrom style (m.length + 1) m

/-- The pattern that a name of files is compared with by programs. -/
def ofName (s : Octets) : Pattern := ofMarked ⟨true, false⟩ (Marked.ofText s false)

/-- Whether a part stands for more than one character by itself. -/
def isWild : PatternPart → Bool
  | .char _ => false
  | .anyChar | .anyText | .bracket _ _ | .group _ _ => true

/-- Whether a part is a group. -/
def isGroup : PatternPart → Bool
  | .group _ _ => true
  | .char _ | .anyChar | .anyText | .bracket _ _ => false

/-- Whether a pattern begins with that character. -/
def beginsWith (c : Char) : Pattern → Bool
  | .char d :: _ => c == d
  | _ => false

/-- Whether a text fits a pattern. The first argument bounds the number of steps. -/
def fitsWithin : Nat → Pattern → Octets → Bool
  | 0, _, _ => false
  | _ + 1, [], s => s.isEmpty
  | steps + 1, .anyText :: p, s =>
    fitsWithin steps p s ||
      (match s with | [] => false | _ :: t => fitsWithin steps (.anyText :: p) t)
  | steps + 1, .group sign all :: p, s =>
    let fitsOne (t : Octets) : Bool := all.any fun a => fitsWithin steps a t
    let cuts := List.range (s.length + 1)
    let once := fun (p : Pattern) (least : Nat) => cuts.any fun n =>
      least ≤ n && fitsOne (s.take n) && fitsWithin steps p (s.drop n)
    match sign with
    | '?' => fitsWithin steps p s || once p 0
    | '*' => fitsWithin steps p s || once (.group '*' all :: p) 1
    | '+' => once (.group '*' all :: p) 0
    | '!' => cuts.any fun n => !fitsOne (s.take n) && fitsWithin steps p (s.drop n)
    | _ => once p 0
  | _ + 1, _ :: _, [] => false
  | steps + 1, .anyChar :: p, _ :: s => fitsWithin steps p s
  | steps + 1, .char c :: p, d :: s => c == d && fitsWithin steps p s
  | steps + 1, .bracket inverted items :: p, d :: s =>
    (items.any (·.holds d) != inverted) && fitsWithin steps p s

/-- Whether a text fits a pattern. -/
def fits (p : Pattern) (s : Octets) : Bool :=
  let bound := p.length + s.length + 2
  fitsWithin (if p.any isGroup then bound * (s.length + 16) else bound) p s

/-- The first of these lengths for which `matched` holds; zero if there is none. -/
def firstLength (matched : Nat → Bool) (lengths : List Nat) : Nat :=
  (lengths.find? matched).getD 0

/-- The lengths up to that of a value, the longest first if `longest`. -/
def lengths (longest : Bool) (value : Octets) : List Nat :=
  let all := List.range (value.length + 1)
  if longest then all.reverse else all

/-- A value without the beginning that fits a pattern. -/
def withoutFront (longest : Bool) (p : Pattern) (value : Octets) : Octets :=
  value.drop (firstLength (fun n => p.fits (value.take n)) (lengths longest value))

/-- A value without the end that fits a pattern. -/
def withoutEnd (longest : Bool) (p : Pattern) (value : Octets) : Octets :=
  let ending := fun n => value.drop (value.length - n)
  value.take (value.length - firstLength (fun n => p.fits (ending n)) (lengths longest value))

/-- Whether an end of a value fits a pattern. -/
def fitsEnd (p : Pattern) (value : Octets) : Bool :=
  (List.range (value.length + 1)).any fun n => p.fits (value.drop n)

/-- Values without the last end that fits a pattern, and without what comes behind it. -/
def withoutLastEnd? (p : Pattern) : List Octets → Option (List Octets)
  | [] => none
  | value :: values =>
    match withoutLastEnd? p values with
    | some values => some (value :: values)
    | none => if p.fitsEnd value then some [p.withoutEnd false value] else none

/-- Values without the beginning of the first that fits a pattern. If a pattern fits all of it and
as much as possible is to go, nothing is left of the others. -/
def withoutFrontOfAll (longest : Bool) (p : Pattern) : List Octets → List Octets
  | [] => [[]]
  | value :: values =>
    if longest && p.fits value then [[]] else p.withoutFront longest value :: values

/-- Values without an end that fits a pattern: the first if it is to be as long as possible, else
the last. What comes behind that end goes too. -/
def withoutEndOfAll (longest : Bool) (p : Pattern) : List Octets → List Octets
  | [] => [[]]
  | value :: values =>
    if longest then
      if p.fitsEnd value then [p.withoutEnd true value] else value :: values
    else (p.withoutLastEnd? (value :: values)).getD (value :: values)

end Pattern

end CallForest.Shell
