/-!
# Words and lines

White space is the Unicode property `White_Space`. Trimming and cutting a text into words are stated
over lists of characters, so that each is a `dropWhile` or a split.

There are two ways to cut a text at its newlines. Both ignore the empty piece after a final newline,
so they number lines alike. `records` keeps a carriage return in front of the newline; `lines` takes
it as a part of the line ending, and keeps one at the end of a last line that no newline closes.
-/

namespace CallForest.Text

/-- The code points with the Unicode property `White_Space`. -/
def isBlank (c : Char) : Bool :=
  let n := c.toNat
  (9 ≤ n && n ≤ 13) || n == 0x20 || n == 0x85 || n == 0xA0 || n == 0x1680 ||
    (0x2000 ≤ n && n ≤ 0x200A) || n == 0x2028 || n == 0x2029 || n == 0x202F || n == 0x205F ||
    n == 0x3000

/-- Drops the white space in front. -/
def trimStart (cs : List Char) : List Char :=
  cs.dropWhile isBlank

/-- Drops the white space at the end. -/
def trimEnd (cs : List Char) : List Char :=
  (cs.reverse.dropWhile isBlank).reverse

/-- Drops the white space on both sides. -/
def trim (cs : List Char) : List Char :=
  trimEnd (trimStart cs)

/-- The maximal runs of characters that are not white space, in order. -/
def words (cs : List Char) : List (List Char) :=
  (cs.splitOnP isBlank).filter fun w => !w.isEmpty

/-- Joins words with one space between neighbours. -/
def joinWords : List (List Char) → List Char
  | [] => []
  | [w] => w
  | w :: v :: ws => w ++ ' ' :: joinWords (v :: ws)

/-- `trim` on strings. -/
def trimmed (s : String) : String :=
  String.ofList (trim s.toList)

/-! ## Lines -/

/-- Without one carriage return at the end. -/
def dropReturn (cs : List Char) : List Char :=
  if cs.getLast? = some '\r' then cs.dropLast else cs

/-- The pieces before the last one, and the last one unless it is empty. -/
def closePieces : List (List Char) → List (List Char)
  | [] => []
  | [last] => if last.isEmpty then [] else [last]
  | p :: q :: ps => p :: closePieces (q :: ps)

/-- The text between newlines. An empty piece after the last newline is no record. -/
def records (text : List Char) : List (List Char) :=
  closePieces (text.splitOn '\n')

/-- As `closePieces`, with the carriage return dropped from each piece that a newline ends. -/
def closeLines : List (List Char) → List (List Char)
  | [] => []
  | [last] => if last.isEmpty then [] else [last]
  | p :: q :: ps => dropReturn p :: closeLines (q :: ps)

/-- The lines of a text; a line ends in a newline, or in a carriage return and a newline. -/
def lines (text : List Char) : List (List Char) :=
  closeLines (text.splitOn '\n')

/-- Each element with its position, counted from `start`. -/
def numberedFrom {α : Type} (start : Nat) : List α → List (Nat × α)
  | [] => []
  | x :: xs => (start, x) :: numberedFrom (start + 1) xs

/-- Each element with its position, counted from 1. -/
def numbered {α : Type} (xs : List α) : List (Nat × α) :=
  numberedFrom 1 xs

end CallForest.Text
