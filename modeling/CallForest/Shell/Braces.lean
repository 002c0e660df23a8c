import CallForest.Program.Numeral
import CallForest.Shell.Syntax

/-!
# Braces in words

In the extended language a word with braces around commas comes to several words, one for what
stands on each side of a comma; so does one with two dots between numbers or letters, which stand
for all that lie between them.
-/

namespace CallForest.Shell.Braces

/-- A character of a word that is not quoted, or another piece of it. -/
abbrev Part := Sum Char Piece

/-- A word in parts. -/
def parts (w : Word) : List Part :=
  w.flatMap fun p =>
    match p with
    | .text s false => s.map .inl
    | p => [.inr p]

/-- The word that parts make. -/
def word : List Part → Word
  | [] => []
  | .inr p :: rest => p :: word rest
  | .inl c :: rest =>
    match word rest with
    | .text s false :: w => .text (c :: s) false :: w
    | w => .text [c] false :: w

/-- Whether a part is a character. -/
def isChar (c : Char) (p : Part) : Bool :=
  match p with
  | .inl d => c == d
  | .inr _ => false

/-- The parts up to the brace that closes what is open, cut at the commas that no other braces are
around, and the parts behind it; `depth` counts the braces open within. -/
def inside? : (depth : Nat) → (done : List Part) → List Part → Option (List (List Part) × List Part)
  | _, _, [] => none
  | depth, done, p :: rest =>
    if isChar '\x7d' p && depth = 0 then some ([done.reverse], rest)
    else if isChar ',' p && depth = 0 then
      (inside? 0 [] rest).map fun (others, rest) => (done.reverse :: others, rest)
    else
      let depth := if isChar '\x7b' p then depth + 1
        else if isChar '\x7d' p then depth - 1
        else depth
      inside? depth (p :: done) rest

/-- The numbers from one to another by steps. The first argument bounds how many they are. -/
def numbers (step : Nat) : Nat → Int → Int → List Int
  | 0, _, _ => []
  | count + 1, first, last =>
    if first = last then [first]
    else if first < last then
      first :: (if last < first + step then [] else numbers step count (first + step) last)
    else first :: (if first - step < last then [] else numbers step count (first - step) last)

/-- The integer that a text shows. -/
def integer? (s : Octets) : Option Int :=
  let digits := match s with
    | '-' :: cs | '+' :: cs => cs
    | cs => cs
  if digits.isEmpty || !digits.all Char.isDigit then none else Numeral.decimal? s

/-- A number with zeros in front up to a width. -/
def padded (width : Nat) (n : Int) : Octets :=
  let digits := Text.decimal n.natAbs
  let sign : Octets := if n < 0 then ['-'] else []
  sign ++ List.replicate (width - digits.length - sign.length) '0' ++ digits

/-- Whether a number is shown with zeros in front. -/
def hasZeros (s : Octets) : Bool :=
  match s with
  | '-' :: '0' :: _ :: _ | '0' :: _ :: _ => true
  | _ => false

/-- A text cut at two dots. -/
def atDots : Octets → List Octets
  | [] => [[]]
  | '.' :: '.' :: cs => [] :: atDots cs
  | c :: cs =>
    match atDots cs with
    | [] => [[c]]
    | s :: ss => (c :: s) :: ss

/-- How many values may lie between two. -/
def maxValues : Nat := 100000

/-- The texts that a text with two dots in it stands for. -/
def between? (s : Octets) : Option (List Octets) :=
  let values (first last step : Octets) : Option (List Octets) := do
    let step := (← integer? step).natAbs
    let step := if step = 0 then 1 else step
    match integer? first, integer? last, first, last with
    | some a, some b, _, _ =>
      let width := if hasZeros first || hasZeros last then max first.length last.length else 0
      some ((numbers step maxValues a b).map (padded width))
    | none, none, [c], [d] =>
      if c.isAlpha && d.isAlpha then
        some ((numbers step maxValues c.toNat d.toNat).map fun n => [Char.ofNat n.toNat])
      else none
    | _, _, _, _ => none
  match atDots s with
  | [first, last] => values first last ['1']
  | [first, last, step] => values first last step
  | _ => none

/-- The characters of parts that are nothing else. -/
def characters? (ps : List Part) : Option Octets :=
  ps.mapM fun p =>
    match p with
    | .inl c => some c
    | .inr _ => none

/-- The words that a word in parts comes to. The first argument bounds the number of steps. -/
def expanded : Nat → List Part → List (List Part)
  | 0, ps => [ps]
  | _ + 1, [] => [[]]
  | steps + 1, p :: rest =>
    let plain := fun () => (expanded steps rest).map (p :: ·)
    if !isChar '\x7b' p then plain ()
    else
      match inside? 0 [] rest with
      | none => plain ()
      | some ([one], behind) =>
        match (characters? one).bind between? with
        | some texts =>
          let backs := expanded steps behind
          texts.flatMap fun t => backs.map fun b => t.map Sum.inl ++ b
        | none => plain ()
      | some (several, behind) =>
        let backs := expanded steps behind
        several.flatMap fun one =>
          (expanded steps one).flatMap fun front => backs.map fun b => front ++ b

/-- The words that a word comes to. -/
def words (w : Word) : List Word :=
  let ps := parts w
  if ps.any (isChar '\x7b') then (expanded (ps.length + 1) ps).map word else [w]

end CallForest.Shell.Braces
