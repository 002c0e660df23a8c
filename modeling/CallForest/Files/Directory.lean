import CallForest.Text.Utf8

/-!
# Directory trees

A directory lists its entries by name; an entry is a file, which is known by its number, a device, a
program of the machine, a link to whatever a path leads to, or again a directory. `insert` keeps the
names in increasing order, each of them once. Locations are lists of names.

What may be done to a file or a directory is said by twelve bits: three for each of its owner, its
group and all others, which allow reading, writing and running, and three in front with further
meanings.
-/

namespace CallForest

/-- Permissions, as twelve bits. -/
abbrev Mode := Nat

namespace Mode

/-- All twelve bits. -/
def all : Mode := 0o7777

/-- The bits that allow running. -/
def running : Mode := 0o111

/-- Whether one of those bits is set. -/
def hasAny (mode bits : Mode) : Bool := mode &&& bits != 0

/-- Permissions without those bits. -/
def without (mode bits : Mode) : Mode := mode &&& (all ^^^ (bits &&& all))

/-- Whether a file may be run. -/
def isExecutable (mode : Mode) : Bool := hasAny mode running

/-- What a new file may be asked to allow. -/
def ofFile : Mode := 0o666

/-- What a new file is asked to allow that is for its owner only. -/
def ofPrivateFile : Mode := 0o600

/-- What a new directory may be asked to allow. -/
def ofDirectory : Mode := 0o777

/-- The permissions that new files do not get if nothing else is said. -/
def usualMask : Mode := 0o022

end Mode

/-! ## Trees -/

/-- A file that keeps nothing. -/
inductive Device where
  /-- Empty; takes all that is written. -/
  | null
  /-- Zeros without end; takes all that is written. -/
  | zero
  /-- Zeros without end; takes nothing. -/
  | full
  /-- The screen of who runs a program; nobody does. -/
  | terminal
  deriving DecidableEq, Repr

mutual

/-- What a name in a directory stands for. -/
inductive Entry where
  /-- A file; files with several names have one number. -/
  | file (number : Nat)
  | device (d : Device)
  /-- A program of the machine, which is known by its name. -/
  | program (name : String)
  /-- What a path leads to from the directory in which the link stands. -/
  | link (path : String)
  | directory (mode : Mode) (entries : Directory)

/-- The entries of a directory. -/
inductive Directory where
  | nil
  | cons (name : String) (entry : Entry) (rest : Directory)

end

namespace Entry

/-- A directory that everybody may read and its owner may change. -/
def folder (entries : Directory) : Entry :=
  directory (Mode.without Mode.ofDirectory Mode.usualMask) entries

/-- Whether an entry is a directory. -/
def isDirectory : Entry → Bool
  | directory _ _ => true
  | file _ | device _ | program _ | link _ => false

/-- Whether an entry is a link. -/
def isLink : Entry → Bool
  | link _ => true
  | file _ | device _ | program _ | directory _ _ => false

/-- Whether an entry holds what programs take for a file. -/
def isRegular : Entry → Bool
  | file _ | program _ => true
  | device _ | link _ | directory _ _ => false

/-- The number of a file. -/
def number? : Entry → Option Nat
  | file n => some n
  | device _ | program _ | link _ | directory _ _ => none

end Entry

namespace Directory

/-- The entry of a name. -/
def find? (name : String) : Directory → Option Entry
  | nil => none
  | cons n e rest => if n = name then some e else rest.find? name

/-- Sets the entry of a name. -/
def insert (name : String) (entry : Entry) : Directory → Directory
  | nil => cons name entry nil
  | cons n e rest =>
    if n = name then cons name entry rest
    else if name < n then cons name entry (cons n e rest)
    else cons n e (rest.insert name entry)

/-- Removes the entry of a name. -/
def erase (name : String) : Directory → Directory
  | nil => nil
  | cons n e rest => if n = name then rest else cons n e (rest.erase name)

/-- The names in a directory, in order. -/
def names : Directory → List String
  | nil => []
  | cons n _ rest => n :: rest.names

/-- The entries of a directory with their names, in order. -/
def toList : Directory → List (String × Entry)
  | nil => []
  | cons n e rest => (n, e) :: rest.toList

/-- The directory of the given entries. -/
def ofList (entries : List (String × Entry)) : Directory :=
  entries.foldl (fun d e => d.insert e.1 e.2) nil

/-- Whether a directory has no entries. -/
def isEmpty : Directory → Bool
  | nil => true
  | cons _ _ _ => false

/-- The entry at a location below a directory. -/
def below? (d : Directory) : List String → Option Entry
  | [] => none
  | [name] => d.find? name
  | name :: n :: names =>
    match d.find? name with
    | some (.directory _ sub) => sub.below? (n :: names)
    | _ => none

/-- The entry at a location; at the root there is the directory itself. -/
def get? (d : Directory) (location : List String) : Option Entry :=
  if location.isEmpty then some (.folder d) else d.below? location

/-- Sets the entry at a location. Nothing changes unless its directory is there. -/
def put (d : Directory) (entry : Entry) : List String → Directory
  | [] => d
  | [name] => d.insert name entry
  | name :: n :: names =>
    match d.find? name with
    | some (.directory mode sub) => d.insert name (.directory mode (sub.put entry (n :: names)))
    | _ => d

/-- Removes the entry at a location. -/
def remove (d : Directory) : List String → Directory
  | [] => d
  | [name] => d.erase name
  | name :: n :: names =>
    match d.find? name with
    | some (.directory mode sub) => d.insert name (.directory mode (sub.remove (n :: names)))
    | _ => d

end Directory

mutual

/-- The entries within an entry, each directory before what it holds, with their locations. -/
def Entry.entries (here : List String) : Entry → List (List String × Entry)
  | .directory _ d => d.entries here
  | .file _ | .device _ | .program _ | .link _ => []

/-- The entries below a directory, each directory before what it holds, with their locations; `here`
is the directory's own. -/
def Directory.entries (here : List String) : Directory → List (List String × Entry)
  | .nil => []
  | .cons name entry rest =>
    (here ++ [name], entry) :: (entry.entries (here ++ [name]) ++ rest.entries here)

end

namespace Directory

/-- The numbers of the files below a directory, each directory's in its order, with their
locations. -/
def files (here : List String) (d : Directory) : List (List String × Nat) :=
  (d.entries here).filterMap fun (location, entry) => entry.number?.map fun n => (location, n)

/-- The directories without entries below a directory, with their locations. -/
def emptyDirectories (here : List String) (d : Directory) : List (List String) :=
  (d.entries here).filterMap fun (location, entry) =>
    match entry with
    | .directory _ .nil => some location
    | _ => none

end Directory

end CallForest
