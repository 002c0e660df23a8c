import CallForest.Shell.Process

/-!
# Paths that fit patterns

What fields come to that are patterns: the paths that fit them, in order, or the pattern itself if
none does. A pattern is cut at its slashes, and each piece of it is compared with the names in a
directory.
-/

namespace CallForest.Shell

/-- Whether one text comes before another, byte by byte. -/
def octetsLe : Octets → Octets → Bool
  | [], _ => true
  | _ :: _, [] => false
  | a :: s, b :: t => a < b || (a == b && octetsLe s t)

/-- How paths are found that fit patterns. -/
structure Globbing where
  style : PatternStyle
  /-- Whether a directory itself and the one that it is in are among its names. -/
  hasDots : Bool
  /-- Whether names with a dot in front fit patterns without one. -/
  hasHidden : Bool
  /-- Whether two stars stand for all directories below. -/
  isDeep : Bool

/-- How a script finds paths. -/
def State.globbing (st : State) : Globbing :=
  let extended := st.isExtended
  ⟨⟨extended, extended && st.isOn "extglob"⟩, !extended, extended && st.isOn "dotglob",
    extended && st.isOn "globstar"⟩

/-- The patterns of a script where it does not look for paths. -/
def State.patternStyle (st : State) : PatternStyle := st.globbing.style

section

variable (g : Globbing)

/-- The names in a directory that fit a pattern. Names with a dot in front fit only patterns with a
dot in front. -/
def namesFitting (files : FileSystem) (directory : Octets) (p : Pattern) : List Octets :=
  let path := if directory.isEmpty then "." else Octets.toText directory
  match files.readDirectory path with
  | .error _ => []
  | .ok d =>
    let hidden := p.beginsWith '.'
    let names := d.names.map Octets.ofText
    let all := if hidden && g.hasDots then ['.'] :: ['.', '.'] :: names else names
    all.filter fun n => (hidden || g.hasHidden || n.head? != some '.') && p.fits n

/-- The directories below a path, with a slash behind each, and the path itself. The first argument
bounds how deep they are. -/
def directoriesBelow (files : FileSystem) : Nat → Octets → List Octets
  | 0, found => [found]
  | depth + 1, found =>
    let inner := (namesFitting g files found [.anyText]).filter fun n =>
      match files.named (Octets.toText (found ++ n)) with
      | .ok (.directory _ _) => true
      | _ => false
    found :: inner.flatMap fun n => directoriesBelow files depth (found ++ n ++ ['/'])

/-- Whether a piece of a path pattern stands for all directories below. -/
def Globbing.isDeepPiece (piece : Marked) : Bool :=
  g.isDeep && piece == [('*', false), ('*', false)]

/-- How many directories may be in each other for that. -/
def maxBelow : Nat := 64

/-- The paths that fit the pieces of a path pattern behind a path that is found already. -/
def pathsFitting (files : FileSystem) : Octets → List Marked → List Octets
  | found, [] => if files.exists? (Octets.toText found) then [found] else []
  | found, [last] =>
    let p := Pattern.ofMarked g.style last
    if g.isDeepPiece last then
      (directoriesBelow g files maxBelow found).flatMap fun d =>
        (if d = found then [] else [d.dropLast]) ++
          ((namesFitting g files d [.anyText]).filter fun n =>
            match files.named (Octets.toText (d ++ n)) with
            | .ok (.directory _ _) => false
            | _ => true).map (d ++ ·)
    else if p.any Pattern.isWild then (namesFitting g files found p).map (found ++ ·)
    else
      let path := found ++ Marked.text last
      if files.exists? (Octets.toText path) then [path] else []
  | found, piece :: rest =>
    if g.isDeepPiece piece then
      (directoriesBelow g files maxBelow found).flatMap fun d => pathsFitting files d rest
    else
      let p := Pattern.ofMarked g.style piece
      let heads := if p.any Pattern.isWild then namesFitting g files found p
        else [Marked.text piece]
      heads.flatMap fun n => pathsFitting files (found ++ n ++ ['/']) rest

end

/-- A marked text cut at its slashes. -/
def atSlashes (m : Marked) : List Marked :=
  m.splitOnP fun c => c.1 == '/'

/-- Whether a part of a pattern that stands for others begins with a character. -/
def startsWild (c : Char) : Bool := c == '*' || c == '?' || c == '['

/-- Whether a text may be a pattern, or have braces that stand for several words. -/
def State.mayBeWild (st : State) (s : Octets) : Bool :=
  s.any startsWild || (st.isExtended && s.any fun c => c == '(' || c == '\x7b')

/-- What a field comes to: the paths that fit it, if it is a pattern. Where none does the field
stays as it is unless something else is wanted; it is an error that `failglob` switches on. -/
def State.pathsOf (st : State) (field : Marked) : Except Octets (List Octets) :=
  let mayBegin (c : Char × Bool) : Bool :=
    !c.2 && (startsWild c.1 || (c.1 == '(' && st.isExtended))
  if st.has 'f' || !field.any mayBegin then .ok [Marked.text field]
  else
    let g := st.globbing
    let pieces := atSlashes field
    if !pieces.any fun p => (Pattern.ofMarked g.style p).any Pattern.isWild then
      .ok [Marked.text field]
    else
      match (pathsFitting g st.files [] pieces).mergeSort octetsLe with
      | [] =>
        if st.isOn "failglob" then .error (Marked.text field)
        else .ok (if st.isOn "nullglob" then [] else [Marked.text field])
      | paths => .ok paths

end CallForest.Shell
