import CallForest.Graph.Store
import CallForest.Listing.Line

/-!
# Rebuilding calls from a listing

The lines of a listing are read in order while the frames that are still open, the innermost first,
are kept as a chain. A line that is indented further than the one before it is called by the last
frame; a line at the same indentation replaces the last frame; a line further out closes one frame
and one more for every level it goes back. A line that is no root is called by the innermost frame
left open, and if there is none, or fewer frames are open than are to be closed, the rest of the
listing is given up. The calls found up to there stand.
-/

namespace CallForest

/-- Why the rest of a listing is given up. -/
inductive ReconstructError where
  | malformedLine (error : LineError)
  /-- The line is nested, and no frame is open. -/
  | orphan (lineNo : Nat) (name : String)
  /-- The line goes back further than frames are open. -/
  | stackUnderflow (lineNo pops depth : Nat)
  deriving DecidableEq, Repr

/-- The text of a given-up listing's error. -/
def ReconstructError.message : ReconstructError → String
  | .malformedLine e => "malformed line: " ++ e.message
  | .orphan lineNo name => s!"line {lineNo}: '" ++ name ++ "' has no caller on the stack"
  | .stackUnderflow lineNo pops depth =>
    s!"line {lineNo}: returning {pops} levels but only {depth} are open"

namespace Reconstruction

/-- Counts over the lines of a listing. -/
structure Summary where
  lines : Nat
  edges : Nat
  unresolved : Nat
  skipped : Nat
  deriving DecidableEq, Repr

/-- The counts of no lines. -/
def Summary.zero : Summary := ⟨0, 0, 0, 0⟩

/-- What is known of the name of a frame. -/
inductive Standing where
  | registered
  | unresolved
  /-- Not registered, and among the names that make no edges. -/
  | skipped
  deriving DecidableEq, Repr

/-- An open function. A skipped one holds its place in the chain but is no end of any edge. -/
structure Frame where
  node : Node
  standing : Standing
  deriving DecidableEq, Repr

/-- Counts a frame by its standing. -/
def Summary.meet (s : Summary) : Standing → Summary
  | .registered => s
  | .unresolved => { s with unresolved := s.unresolved + 1 }
  | .skipped => { s with skipped := s.skipped + 1 }

/-- The frame of a name: the registered node, or else the unresolved one. -/
def frameOf (resolve : String → Option Node) (skip : List String) (name : String) : Frame :=
  match resolve name with
  | some node => ⟨node, .registered⟩
  | none => ⟨.unresolved name, if name ∈ skip then .skipped else .unresolved⟩

/-- The frames left open, the innermost first, and the indentation of the last line. -/
structure Chain where
  frames : List Frame
  indent : Nat
  deriving DecidableEq, Repr

/-- The chain before the first line. -/
def Chain.start : Chain := ⟨[], 0⟩

/-- Where a line finds itself: the frames above it, and whether the first of them calls it. -/
structure Place where
  callers : List Frame
  nested : Bool
  deriving DecidableEq, Repr

/-- Closes the frames that a line ends. -/
def Chain.place (c : Chain) (line : Listing.Line) : Except ReconstructError Place :=
  if c.indent < line.indent then .ok ⟨c.frames, true⟩
  else if line.indent = c.indent then
    if 0 < line.indent then .ok ⟨c.frames.tail, true⟩ else .ok ⟨[], false⟩
  else
    let pops := (c.indent - line.indent) / Listing.indentUnit + 1
    if c.frames.length < pops then .error (.stackUnderflow line.lineNo pops c.frames.length)
    else .ok ⟨c.frames.drop pops, decide (0 < line.indent)⟩

/-- The call from one frame to another, unless one of them is skipped. -/
def link (caller callee : Frame) : Option Edge :=
  if caller.standing = .skipped ∨ callee.standing = .skipped then none
  else some ⟨caller.node, callee.node⟩

/-- What came of a listing: the calls in the order of their lines, the counts, the frames that are
open at the end, and the error that ended it early, if one did. -/
structure Outcome where
  edges : List Edge
  summary : Summary
  frames : List Frame
  failure : Option ReconstructError
  deriving DecidableEq, Repr

/-- A listing given up with these frames open. -/
def Outcome.abandoned (frames : List Frame) (summary : Summary) (e : ReconstructError) : Outcome :=
  ⟨[], summary, frames, some e⟩

/-- Puts the call of a line in front of those of the lines behind it. -/
def Outcome.prepend (e : Option Edge) (o : Outcome) : Outcome :=
  { o with edges := e.toList ++ o.edges }

/-- Counts a finished line, and its call if it makes one. -/
def Summary.finish (s : Summary) (e : Option Edge) : Summary :=
  { s with lines := s.lines + 1, edges := s.edges + e.toList.length }

/-- Reads the lines of a listing on, the first of them having the number `lineNo`. -/
def run (resolve : String → Option Node) (skip : List String) :
    Chain → Summary → Nat → List (List Char) → Outcome
  | chain, summary, _, [] => ⟨[], summary, chain.frames, none⟩
  | chain, summary, lineNo, raw :: rest =>
    match Listing.Line.parse lineNo raw with
    | .error e => .abandoned chain.frames summary (.malformedLine e)
    | .ok line =>
      let frame := frameOf resolve skip line.name
      let met := summary.meet frame.standing
      match chain.place line with
      | .error e => .abandoned chain.frames met e
      | .ok ⟨callers, false⟩ =>
        run resolve skip ⟨frame :: callers, line.indent⟩ (met.finish none) (lineNo + 1) rest
      | .ok ⟨[], true⟩ => .abandoned [] met (.orphan line.lineNo line.name)
      | .ok ⟨caller :: callers, true⟩ =>
        let edge := link caller frame
        (run resolve skip ⟨frame :: caller :: callers, line.indent⟩ (met.finish edge) (lineNo + 1)
          rest).prepend edge

end Reconstruction

/-- Rebuilds the calls of a listing. -/
def reconstruct (resolve : String → Option Node) (skip : List String) (listing : String) :
    Reconstruction.Outcome :=
  Reconstruction.run resolve skip .start .zero 1 (Listing.records listing)

/-- Rebuilds the calls of a listing and records them, names being looked up in the same store. -/
def rebuild {σ : Type} [GraphStore σ] (skip : List String) (listing : String) (store : σ) :
    σ × Reconstruction.Outcome :=
  let outcome := reconstruct (resolveNode store) skip listing
  (recordEdges outcome.edges store, outcome)

namespace Reconstruction

/-- The chain that a listing leaves: the frames that are open, and the indentation of the last line
that was finished. -/
def Outcome.chain (listing : String) (o : Outcome) : Chain :=
  ⟨o.frames, match ((Listing.records listing).take o.summary.lines).getLast? with
    | none => 0
    | some raw => (Listing.splitIndent (Text.dropReturn raw)).1⟩

end Reconstruction

/-- Rebuilds listings one after another into a store. What a listing leaves open is closed only when
the next one is begun. -/
structure Rebuilder (σ : Type) where
  store : σ
  chain : Reconstruction.Chain

namespace Rebuilder

variable {σ : Type}

/-- A rebuilder that has read nothing. -/
def new (store : σ) : Rebuilder σ := ⟨store, .start⟩

/-- Closes what is open. -/
def reset (b : Rebuilder σ) : Rebuilder σ := { b with chain := .start }

/-- Rebuilds a listing and records its calls. -/
def read [GraphStore σ] (skip : List String) (listing : String) (b : Rebuilder σ) :
    Rebuilder σ × Reconstruction.Outcome :=
  let begun := b.reset
  let outcome := Reconstruction.run (resolveNode begun.store) skip begun.chain .zero 1
    (Listing.records listing)
  (⟨recordEdges outcome.edges begun.store, outcome.chain listing⟩, outcome)

end Rebuilder

end CallForest
