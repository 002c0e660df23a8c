/-!
# The order of versions

Names with numbers in them are in the order of the numbers: `f9` comes before `f10`. What stands
between the numbers is compared character by character: a tilde comes before the end of the name,
letters come next, and then all others. Endings such as `.tar.gz` are compared only if there is no
other difference.
-/

namespace CallForest.Text

namespace VersionOrder

/-- The rank of the first character where it is no digit; the end of the name has one as well. -/
def rank : List Char → Int
  | [] => -1
  | c :: _ =>
    if c.isDigit then 0
    else if c.isAlpha then c.toNat
    else if c = '~' then -2
    else c.toNat + 256

/-- Compares what stands in front of the next number of one of the names: the difference, or what is
left of both. The first argument bounds the number of characters. -/
def compareWords : Nat → List Char → List Char → Except Int (List Char × List Char)
  | 0, s, t => .ok (s, t)
  | steps + 1, s, t =>
    let goesOn (u : List Char) : Bool := u.head?.any fun c => !c.isDigit
    if goesOn s || goesOn t then
      if rank s ≠ rank t then .error (rank s - rank t)
      else compareWords steps s.tail t.tail
    else .ok (s, t)

/-- Compares the numbers in front of two texts: their difference, or what is left of both. -/
def compareNumbers (s t : List Char) : Except Int (List Char × List Char) :=
  let s := s.dropWhile (· = '0')
  let t := t.dropWhile (· = '0')
  let m := s.takeWhile Char.isDigit
  let n := t.takeWhile Char.isDigit
  if m.length ≠ n.length then .error (m.length - n.length)
  else
    match (m.zip n).find? fun p => p.1 ≠ p.2 with
    | some (a, b) => .error ((a.toNat : Int) - b.toNat)
    | none => .ok (s.drop m.length, t.drop n.length)

/-- Compares two texts: negative if the first one comes first. The first argument bounds the number
of their numbers. -/
def compareFrom : Nat → List Char → List Char → Int
  | 0, _, _ => 0
  | _ + 1, [], [] => 0
  | steps + 1, s, t =>
    match compareWords (s.length + t.length + 1) s t with
    | .error d => d
    | .ok (s, t) =>
      match compareNumbers s t with
      | .error d => d
      | .ok (s, t) => compareFrom steps s t

/-- Compares two texts: negative if the first one comes first. -/
def compareTexts (s t : List Char) : Int := compareFrom (s.length + t.length + 1) s t

/-- Whether a text is a row of endings: each is a dot, a letter or tilde, and more of these or
digits. -/
def areEndings : List Char → Bool
  | [] => true
  | '.' :: c :: cs => (c.isAlpha || c == '~') && inEnding cs
  | _ => false
where
  /-- Whether a text goes on with an ending that has begun. -/
  inEnding : List Char → Bool
    | [] => true
    | '.' :: c :: cs => (c.isAlpha || c == '~') && inEnding cs
    | c :: cs => (c.isAlphanum || c == '~') && inEnding cs

/-- A name without its endings; a name is more than an ending. -/
def stem : List Char → List Char
  | [] => []
  | c :: cs => c :: front cs
where
  /-- The beginning of a text up to its endings. -/
  front : List Char → List Char
    | [] => []
    | c :: cs => if areEndings (c :: cs) then [] else c :: front cs

/-- Where names that begin with a dot have their place: dots alone come first. -/
def dots : List Char → Nat
  | [] => 0
  | ['.'] => 1
  | ['.', '.'] => 2
  | '.' :: _ => 3
  | _ => 4

/-- Compares two names as versions: negative if the first one comes first. -/
def compare (a b : List Char) : Int :=
  if dots a ≠ dots b then (dots a : Int) - dots b
  else if dots a < 3 then 0
  else
    let first := compareTexts (stem a) (stem b)
    if first ≠ 0 then first else compareTexts a b

end VersionOrder

end CallForest.Text
