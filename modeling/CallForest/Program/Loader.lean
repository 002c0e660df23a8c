import CallForest.Bytes.Octets
import CallForest.Files.FileSystem

/-!
# Starting programs

A file that is started is a program of the machine, or a script whose first line names what it is
started with. That line is looked for in the first bytes of the script; a script may itself be
started with a script, but only so many times.
-/

namespace CallForest

/-- What is started: a program of the machine, under a name and with arguments. -/
structure Image where
  program : String
  name : Octets
  args : List Octets

namespace Loader

/-- How many bytes of a script are looked at. -/
def headSize : Nat := 256

/-- Whether a byte separates the parts of the first line. -/
def isBlank (c : Char) : Bool := c == ' ' || c == '\t'

/-- Whether a byte ends the path in the first line. -/
def endsPath (c : Char) : Bool := isBlank c || c.toNat == 0

/-- Octets without the blanks at their end. -/
def trimmedEnd (s : Octets) : Octets := (s.reverse.dropWhile isBlank).reverse

/-- The first line of a script behind its mark, blanks at the end left out. None if it is not seen
where it ends, or at least where its path does. -/
def firstLine? (body : Octets) : Option Octets :=
  let text := body.takeWhile (·.toNat ≠ 0)
  if '\n' ∈ text then some (trimmedEnd (text.takeWhile (· ≠ '\n')))
  else
    let path := body.dropWhile isBlank
    if path.any endsPath then some (trimmedEnd body.dropLast) else none

/-- The path and the argument that the first line of a script names. None if the file is no
script. -/
def interpreter? (content : Octets) : Option (Octets × Option Octets) :=
  match content.take headSize with
  | '#' :: '!' :: body =>
    let padded := body ++ List.replicate (headSize - 2 - body.length) (Char.ofNat 0)
    match (firstLine? padded).map (List.dropWhile isBlank) with
    | none | some [] => none
    | some line =>
      let path := line.takeWhile fun c => !endsPath c
      match line.drop path.length with
      | separator :: rest =>
        if isBlank separator then
          some (path, some ((rest.dropWhile isBlank).takeWhile (·.toNat ≠ 0)))
        else some (path, none)
      | [] => some (path, none)
  | _ => none

/-- How often a script may be started with a script. -/
def maxDepth : Nat := 6

/-- Finds out what is started when the file at a path is, under a name and with arguments. The first
argument bounds how often a script is started with a script. -/
def load (files : FileSystem) : Nat → (path name : Octets) → List Octets → Except OsError Image
  | 0, _, _, _ => .error .tooManyLinks
  | depth + 1, path, name, args => do
    match ← files.entry (Octets.toText path) with
    | .program p => return ⟨p, name, args⟩
    | .file number =>
      if !files.isExecutable (.file number) then .error .permissionDenied
      else
        match interpreter? (Octets.ofBytes ((files.contentOf number).take headSize)) with
        | none => .error .badExecutable
        | some (interpreter, argument) =>
          load files depth interpreter interpreter (argument.toList ++ path :: args)
    | .device _ | .link _ | .directory _ _ => .error .permissionDenied

/-- Looks for a program in directories: its path, or why none can be started. -/
def search (files : FileSystem) (directories : List Octets) (name : Octets) :
    Except OsError Octets :=
  let look (path : Octets) : Except OsError Unit := do
    if files.isExecutable (← files.entry (Octets.toText path)) then return
    else .error .permissionDenied
  directories.foldr (fun directory found =>
    let path := if directory.isEmpty then name else directory ++ '/' :: name
    match look path with
    | .ok () => .ok path
    | .error .permissionDenied =>
      match found with
      | .ok p => .ok p
      | .error _ => .error .permissionDenied
    | .error _ => found) (.error .notFound)

end Loader

end CallForest
