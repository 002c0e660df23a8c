import CallForest.Bytes.Octets

/-!
# Aligning lines

Which lines of two texts have to be taken out and put in to get from the one to the other, as few as
possible. The search goes from both ends at once: after so many changes each side knows how far it
can come on every diagonal, and where the two meet the texts are split. In the end every run of
changed lines is moved as far down as it can be, unless it then no longer stands beside the run of
the other text that it stood beside.
-/

namespace CallForest

/-- The lines of two texts, as far as they count in a comparison. -/
structure LinePair where
  old : Array Octets
  new : Array Octets

/-- A part of two texts: from which line to which in each. -/
structure Window where
  oldFrom : Int
  oldTo : Int
  newFrom : Int
  newTo : Int

/-- Which lines of two texts are changed. -/
structure Changes where
  old : Array Bool
  new : Array Bool

namespace LinePair

/-- Whether two lines are the same. -/
def agree (p : LinePair) (x y : Int) : Bool := p.old[x.toNat]? == p.new[y.toNat]?

/-- How far down a diagonal goes on from a place. -/
def slideDown (p : LinePair) (w : Window) : Nat → Int → Int → Int
  | 0, x, _ => x
  | steps + 1, x, y =>
    if x < w.oldTo ∧ y < w.newTo ∧ p.agree x y then slideDown p w steps (x + 1) (y + 1) else x

/-- How far up a diagonal goes on from a place. -/
def slideUp (p : LinePair) (w : Window) : Nat → Int → Int → Int
  | 0, x, _ => x
  | steps + 1, x, y =>
    if w.oldFrom < x ∧ w.newFrom < y ∧ p.agree (x - 1) (y - 1) then
      slideUp p w steps (x - 1) (y - 1)
    else x

end LinePair

/-- How far a search has come: on each diagonal from `low` to `high` the line of the old text. The
array begins with the diagonal one below the least. -/
structure Front where
  reach : Array Int
  first : Int
  low : Int
  high : Int

namespace Front

/-- The front of a search that begins on a diagonal. -/
def start (size : Nat) (first diagonal place : Int) : Front :=
  ⟨(Array.replicate size (0 : Int)).setIfInBounds (diagonal - first).toNat place, first, diagonal,
    diagonal⟩

/-- How far the search has come on a diagonal. -/
def place (f : Front) (d : Int) : Int := (f.reach[(d - f.first).toNat]?).getD 0

/-- The front with a new place on a diagonal. -/
def put (f : Front) (d x : Int) : Front :=
  { f with reach := f.reach.setIfInBounds (d - f.first).toNat x }

/-- The front one change wider on both sides, as far as there are diagonals; the new ones are
`beyond` as yet. -/
def widen (f : Front) (least greatest beyond : Int) : Front :=
  let f :=
    if least < f.low then { f.put (f.low - 2) beyond with low := f.low - 1 }
    else { f with low := f.low + 1 }
  if f.high < greatest then { f.put (f.high + 2) beyond with high := f.high + 1 }
  else { f with high := f.high - 1 }

end Front

namespace LinePair

/-- One more change of the search from above, on every second diagonal from `d` on: the front it
comes to, and where it meets the other. -/
def stepDown (p : LinePair) (w : Window) (meets : Bool) (other : Front) (length : Nat) :
    Nat → Int → Front → Front × Option (Int × Int)
  | 0, _, f => (f, none)
  | steps + 1, d, f =>
    if d < f.low then (f, none)
    else
      let below := f.place (d - 1)
      let above := f.place (d + 1)
      let from' := if below < above then above else below + 1
      let x := p.slideDown w length from' (from' - d)
      let f := f.put d x
      if meets && other.low ≤ d && d ≤ other.high && other.place d ≤ x then (f, some (x, x - d))
      else stepDown p w meets other length steps (d - 2) f

/-- One more change of the search from below. -/
def stepUp (p : LinePair) (w : Window) (meets : Bool) (other : Front) (length : Nat) :
    Nat → Int → Front → Front × Option (Int × Int)
  | 0, _, f => (f, none)
  | steps + 1, d, f =>
    if d < f.low then (f, none)
    else
      let below := f.place (d - 1)
      let above := f.place (d + 1)
      let from' := if below < above then below else above - 1
      let x := p.slideUp w length from' (from' - d)
      let f := f.put d x
      if meets && other.low ≤ d && d ≤ other.high && x ≤ other.place d then (f, some (x, x - d))
      else stepUp p w meets other length steps (d - 2) f

/-- Searches from both ends until the fronts meet; the first argument bounds the number of
changes. -/
def meeting (p : LinePair) (w : Window) (odd : Bool) (length : Nat) :
    Nat → Front → Front → Int × Int
  | 0, _, _ => (w.oldTo, w.newFrom)
  | steps + 1, down, up =>
    let least := w.oldFrom - w.newTo
    let greatest := w.oldTo - w.newFrom
    let down := down.widen least greatest (-1)
    match p.stepDown w odd up length (length + 1) down.high down with
    | (_, some place) => place
    | (down, none) =>
      let up := up.widen least greatest (2 * length + w.oldTo + 1)
      match p.stepUp w (!odd) down length (length + 1) up.high up with
      | (_, some place) => place
      | (up, none) => meeting p w odd length steps down up

/-- Where a part of two texts is split. -/
def split (p : LinePair) (w : Window) : Int × Int :=
  let length := (w.oldTo - w.oldFrom + (w.newTo - w.newFrom)).toNat
  let first := w.oldFrom - w.newTo - 1
  let top := w.oldFrom - w.newFrom
  let bottom := w.oldTo - w.newTo
  p.meeting w ((top - bottom) % 2 ≠ 0) length (length + 1)
    (.start (length + 3) first top w.oldFrom) (.start (length + 3) first bottom w.oldTo)

/-- Marks the lines from one on. -/
def mark (marks : Array Bool) (from' : Int) (count : Nat) : Array Bool :=
  (List.range count).foldl (fun marks k => marks.setIfInBounds (from'.toNat + k) true) marks

/-- Marks the lines that are changed in a part of two texts. -/
def markWithin (p : LinePair) : Nat → Window → Changes → Changes
  | 0, _, c => c
  | steps + 1, w, c =>
    let length := (w.oldTo - w.oldFrom + (w.newTo - w.newFrom)).toNat
    let x := p.slideDown w length w.oldFrom w.newFrom
    let w := { w with oldFrom := x, newFrom := w.newFrom + (x - w.oldFrom) }
    let x := p.slideUp w length w.oldTo w.newTo
    let w := { w with oldTo := x, newTo := w.newTo - (w.oldTo - x) }
    if w.oldFrom = w.oldTo then
      { c with new := mark c.new w.newFrom (w.newTo - w.newFrom).toNat }
    else if w.newFrom = w.newTo then
      { c with old := mark c.old w.oldFrom (w.oldTo - w.oldFrom).toNat }
    else
      let (x, y) := p.split w
      let c := markWithin p steps { w with oldTo := x, newTo := y } c
      markWithin p steps { w with oldFrom := x, newFrom := y } c

/-- The numbers of the lines of a text that the other has too. -/
def sharedWith (lines other : Array Octets) : Array Nat :=
  (Array.range lines.size).filter fun k => (lines[k]?).any other.contains

/-- The changed lines of two texts. Lines that the other text does not have are changed anyway, and
the others are aligned without them. -/
def changes (p : LinePair) : Changes :=
  let old := sharedWith p.old p.new
  let new := sharedWith p.new p.old
  let q : LinePair :=
    ⟨old.filterMap fun k => p.old[k]?, new.filterMap fun k => p.new[k]?⟩
  let length := q.old.size + q.new.size
  let c := q.markWithin (length + 1) ⟨0, q.old.size, 0, q.new.size⟩
    ⟨Array.replicate q.old.size false, Array.replicate q.new.size false⟩
  let whole (size : Nat) (kept : Array Nat) (marks : Array Bool) : Array Bool :=
    (kept.zip marks).foldl (fun all (k, isChanged) => all.setIfInBounds k isChanged)
      (Array.replicate size true)
  ⟨whole p.old.size old c.old, whole p.new.size new c.new⟩

end LinePair

/-! ## Moving runs of changes -/

/-- A run of changed lines that is being moved: the lines from `first` to `next`, the line of the
other text beside its end, and the last end at which it stood beside changed lines there. -/
structure MovedRun where
  marks : Array Bool
  first : Nat
  next : Nat
  beside : Nat
  corresponding : Option Nat

namespace MovedRun

/-- Whether the line of a number is marked. -/
def isMarked (marks : Array Bool) (k : Nat) : Bool := (marks[k]?).getD false

/-- The first line from one on that is not marked. -/
def endOfMarks (marks : Array Bool) : Nat → Nat → Nat
  | 0, k => k
  | steps + 1, k => if isMarked marks k then endOfMarks marks steps (k + 1) else k

/-- The first of the marked lines in front of a place. -/
def startOfMarks (marks : Array Bool) : Nat → Nat
  | 0 => 0
  | k + 1 => if isMarked marks k then startOfMarks marks k else k + 1

/-- The last line in front of a place that is not marked. -/
def unmarkedBefore (marks : Array Bool) (k : Nat) : Nat := startOfMarks marks k - 1

/-- Moves a run up, as long as the line in front is the same as its last; it takes up the runs it
comes to. -/
def moveUp (lines : Array Octets) (other : Array Bool) : Nat → MovedRun → MovedRun
  | 0, r => r
  | steps + 1, r =>
    if 0 < r.first && lines[r.first - 1]? == lines[r.next - 1]? then
      let marks := (r.marks.setIfInBounds (r.first - 1) true).setIfInBounds (r.next - 1) false
      moveUp lines other steps
        { r with marks := marks, first := startOfMarks marks (r.first - 1), next := r.next - 1,
                 beside := unmarkedBefore other r.beside }
    else r

/-- Moves a run down, as long as the line behind is the same as its first; it takes up the runs it
comes to. -/
def moveDown (lines : Array Octets) (other : Array Bool) : Nat → MovedRun → MovedRun
  | 0, r => r
  | steps + 1, r =>
    if r.next < lines.size && lines[r.first]? == lines[r.next]? then
      let marks := (r.marks.setIfInBounds r.first false).setIfInBounds r.next true
      let next := endOfMarks marks lines.size (r.next + 1)
      let beside := r.beside + 1
      let behind := endOfMarks other other.size beside
      moveDown lines other steps
        { r with marks := marks, first := r.first + 1, next := next, beside := behind,
                 corresponding := if beside < behind then some next else r.corresponding }
    else r

/-- Moves a run up and down until it takes up no more runs. -/
def settle (lines : Array Octets) (other : Array Bool) : Nat → MovedRun → MovedRun
  | 0, r => r
  | steps + 1, r =>
    let length := r.next - r.first
    let r := moveUp lines other lines.size r
    let isBeside := 0 < r.beside && isMarked other (r.beside - 1)
    let r := { r with corresponding := if isBeside then some r.next else none }
    let r := moveDown lines other lines.size r
    if r.next - r.first = length then r else settle lines other steps r

/-- Moves a run back to where it stood beside changed lines of the other text. -/
def moveBack (other : Array Bool) : Nat → MovedRun → MovedRun
  | 0, r => r
  | steps + 1, r =>
    if r.corresponding.any (· < r.next) then
      let marks := (r.marks.setIfInBounds (r.first - 1) true).setIfInBounds (r.next - 1) false
      moveBack other steps
        { r with marks := marks, first := r.first - 1, next := r.next - 1,
                 beside := unmarkedBefore other r.beside }
    else r

/-- Moves the runs of a text from a line on; `beside` is the line of the other text beside it. -/
def moveAll (lines : Array Octets) (other : Array Bool) :
    Nat → Nat → Nat → Array Bool → Array Bool
  | 0, _, _, marks => marks
  | steps + 1, k, beside, marks =>
    if lines.size ≤ k then marks
    else if !isMarked marks k then
      moveAll lines other steps (k + 1) (endOfMarks other other.size beside + 1) marks
    else
      let next := endOfMarks marks lines.size (k + 1)
      let beside := endOfMarks other other.size beside
      let r := settle lines other lines.size ⟨marks, k, next, beside, none⟩
      let r := moveBack other lines.size r
      moveAll lines other steps r.next r.beside r.marks

end MovedRun

/-- The changes with every run of changed lines moved down as far as it goes. -/
def Changes.settled (c : Changes) (p : LinePair) : Changes :=
  let old := MovedRun.moveAll p.old c.new (p.old.size + 1) 0 0 c.old
  ⟨old, MovedRun.moveAll p.new old (p.new.size + 1) 0 0 c.new⟩

/-! ## Hunks -/

/-- A change: the lines taken out from a place in the old text on, and those put in from a place in
the new text on. -/
structure Hunk where
  oldStart : Nat
  oldCount : Nat
  newStart : Nat
  newCount : Nat
  deriving DecidableEq, Repr

/-- The hunks that changed lines make up, from a place in both texts on. -/
def Changes.hunks (c : Changes) : Nat → Nat → Nat → List Hunk
  | 0, _, _ => []
  | steps + 1, x, y =>
    if c.old.size ≤ x && c.new.size ≤ y then []
    else
      let x' := MovedRun.endOfMarks c.old c.old.size x
      let y' := MovedRun.endOfMarks c.new c.new.size y
      if x < x' ∨ y < y' then ⟨x, x' - x, y, y' - y⟩ :: c.hunks steps x' y'
      else c.hunks steps (x + 1) (y + 1)

/-- The hunks between two texts. Of the lines at both ends that are the same, only so many count as
`context`. -/
def LinePair.hunks (p : LinePair) (context : Nat) (old new : List Octets) : List Hunk :=
  let shared (a b : List Octets) : Nat := ((a.zip b).takeWhile fun l => l.1 == l.2).length
  let front := shared old new
  let back := shared (old.drop front).reverse (new.drop front).reverse
  let skipped := front - context
  let cut (lines : Array Octets) : Array Octets :=
    lines.extract skipped (lines.size - (back - context))
  let q : LinePair := ⟨cut p.old, cut p.new⟩
  let c := q.changes.settled q
  (c.hunks (q.old.size + q.new.size + 1) 0 0).map fun h =>
    { h with oldStart := h.oldStart + skipped, newStart := h.newStart + skipped }

end CallForest
