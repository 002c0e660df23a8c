import CallForest.Program.Awk.Grammar
import CallForest.Program.Awk.Value

/-!
# Records and fields

A content is cut into records, and a record into fields. Parts are found by blanks, by one
character, or by a pattern; where nothing is said of what separates, each character is a part of its
own.
-/

namespace CallForest.Awk

/-! ## Matches -/

/-- The place in a text at an offset. -/
def placeAt (text : Octets) (n : Nat) : Regex.Place :=
  ⟨if n = 0 then none else text[n - 1]?, n, text.drop n, []⟩

/-- The matches of a pattern in a text from a place on, each with where it begins and ends. An empty
match does not stand right behind another; `last` is where that ended. The first argument bounds
their number. -/
def matchesFrom (r : Regex) (text : Octets) (last : Option Nat) :
    Nat → Regex.Place → List (Nat × Nat)
  | 0, _ => []
  | count + 1, p =>
    match r.findFrom? false text (p.rest.length + 1) p with
    | none => []
    | some (a, q) =>
      if a < q.offset then (a, q.offset) :: matchesFrom r text (some q.offset) count q
      else
        let others :=
          if a < text.length then matchesFrom r text none count (placeAt text (a + 1)) else []
        if last == some a then others else (a, a) :: others

/-- The matches of a pattern in a text. -/
def matchesIn (r : Regex) (text : Octets) : List (Nat × Nat) :=
  matchesFrom r text none (text.length + 2) (.ofText text)

/-- A text without the parts between some places, which is cut there. -/
def cutAt (s : Octets) (places : List (Nat × Nat)) : List Octets :=
  let starts := 0 :: places.map Prod.snd
  let ends := places.map Prod.fst ++ [s.length]
  (starts.zip ends).map fun (a, b) => (s.drop a).take (b - a)

/-! ## Substitution -/

/-- What is put in the place of a match: an ampersand stands for the match, unless a backslash is in
front of it. -/
def replacement (matched : Octets) : Octets → Octets
  | '\\' :: '&' :: cs => '&' :: replacement matched cs
  | '\\' :: '\\' :: '&' :: cs => '\\' :: matched ++ replacement matched cs
  | '&' :: cs => matched ++ replacement matched cs
  | c :: cs => c :: replacement matched cs
  | [] => []

/-- A text with something put in the place of matches. -/
def substituted (s text : Octets) (places : List (Nat × Nat)) : Octets :=
  let (done, behind) := places.foldl (fun (done, behind) (a, b) =>
    (done ++ (s.drop behind).take (a - behind) ++ replacement ((s.drop a).take (b - a)) text, b))
    (([] : Octets), 0)
  done ++ s.drop behind

/-! ## Fields -/

/-- What separates parts. -/
inductive FieldSeparator where
  | blanks
  | character (c : Char)
  | nothing
  | pattern (r : Regex)

namespace FieldSeparator

/-- The separator that a text means. A pattern that cannot be read separates nothing. -/
def ofText (s : Octets) : FieldSeparator :=
  match s with
  | [] => .nothing
  | [' '] => .blanks
  | [c] => .character c
  | s => match readPattern s with
    | .ok r => .pattern r
    | .error _ => .pattern (.set false [])

/-- The parts of a text; an empty text has none. -/
def parts (separator : FieldSeparator) (s : Octets) : List Octets :=
  if s.isEmpty then []
  else
    match separator with
    | .blanks => (s.splitOnP fun c => c == ' ' || c == '\t' || c == '\n').filter (!·.isEmpty)
    | .character c => s.splitOn c
    | .nothing => s.map fun c => [c]
    | .pattern r => cutAt s ((matchesIn r s).filter fun p => p.1 < p.2)

end FieldSeparator

/-! ## Records -/

/-- A text without the first of what separates records in it: the record and the rest. None if there
is nothing left. -/
def takeRecord (separator : Octets) (s : Octets) : Option (Octets × Octets) :=
  match separator with
  | [] =>
    let s := s.dropWhile (· == '\n')
    if s.isEmpty then none
    else
      let rec upToBlank : Octets → Octets × Octets
        | '\n' :: '\n' :: cs => ([], cs.dropWhile (· == '\n'))
        | ['\n'] => ([], [])
        | c :: cs =>
          let (record, rest) := upToBlank cs
          (c :: record, rest)
        | [] => ([], [])
      some (upToBlank s)
  | [c] =>
    if s.isEmpty then none
    else
      let record := s.takeWhile (· ≠ c)
      some (record, s.drop (record.length + 1))
  | separator =>
    if s.isEmpty then none
    else
      match readPattern separator with
      | .error _ => some (s, [])
      | .ok r =>
        match (matchesIn r s).find? fun p => p.1 < p.2 with
        | some (a, b) => some (s.take a, s.drop b)
        | none => some (s, [])

end CallForest.Awk
