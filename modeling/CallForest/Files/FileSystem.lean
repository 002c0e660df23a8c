import CallForest.Files.Directory
import CallForest.Files.OsError
import CallForest.Path

/-!
# A file system

The directory tree below the root, the files that it names, and what a process has of its own: the
location of its working directory, the permissions that its new files do not get, and the size that
no file may exceed. Every operation takes a path as text, finds its location by the rules of the
operating system, and either changes the state or says why it cannot.

Files are kept by their numbers, so that one may have several names, and one that has lost its names
can still be read by who has it open.

`changes` is what has to be done to a file system in one state so that it holds what it holds in
another.
-/

namespace CallForest

/-- A file: its bytes, what may be done to it, and when it was changed, in seconds. -/
structure StoredFile where
  content : Bytes
  mode : Mode
  modified : Int

/-- The state of a file system, as one process sees it. -/
structure FileSystem where
  root : Directory
  /-- The files, by their numbers. -/
  stored : Array StoredFile
  workingDirectory : List String
  /-- The permissions that new files do not get. -/
  mask : Mode
  sizeLimit : Option Nat
  /-- The time, in seconds. -/
  time : Int

namespace FileSystem

/-- The longest name of an entry, in bytes. -/
def maxName : Nat := 255

/-- The longest path, in bytes, with the byte that ends it. -/
def maxPath : Nat := 4096

/-- How many links one path may lead through. -/
def maxLinks : Nat := 40

/-- A tree without files in which a process works at a location. -/
def ofRoot (root : Directory) (workingDirectory : List String) : FileSystem :=
  ⟨root, #[], workingDirectory, Mode.usualMask, none, 1767225600⟩

/-- The state as the process sees it that sees another one so. -/
def asSeenBy (fs view : FileSystem) : FileSystem :=
  { fs with workingDirectory := view.workingDirectory, mask := view.mask }

/-! ## Where paths lead -/

/-- Where names lead up to the first link. -/
inductive Progress where
  | arrived (location : List String) (entry : Option Entry)
  /-- There is a link to a path in the directory `here`; those names are left. -/
  | linked (here : List String) (path : String) (names : List String)

/-- Follows names from the location `here` up to the first link. All but the last must lead to
directories; the last need not exist, and is followed as a link only if that is wanted. -/
def walk (root : Directory) (followsLast : Bool) (here : List String) :
    List String → Except OsError Progress
  | [] => .ok (.arrived here (root.get? here))
  | name :: names =>
    match root.get? here with
    | none => .error .notFound
    | some (.file _) | some (.device _) | some (.program _) | some (.link _) =>
      .error .notDirectory
    | some (.directory _ d) =>
      if maxName < Utf8.size name then .error .nameTooLong
      else if name = "." then walk root followsLast here names
      else if name = ".." then walk root followsLast here.dropLast names
      else
        match d.find? name with
        | some (.link path) =>
          if names.isEmpty && !followsLast then .ok (.arrived (here ++ [name]) (some (.link path)))
          else .ok (.linked here path names)
        | _ => walk root followsLast (here ++ [name]) names

/-- Follows names from the location `here`, through at most so many links less one. -/
def follow (root : Directory) (followsLast : Bool) :
    Nat → List String → List String → Except OsError (List String × Option Entry)
  | 0, _, _ => .error .tooManyLinks
  | links + 1, here, names => do
    match ← walk root followsLast here names with
    | .arrived location entry => return (location, entry)
    | .linked here path names =>
      if path.isEmpty then .error .notFound
      else
        follow root followsLast links (if Path.isAbsolute path then [] else here)
          (Path.pieces path ++ names)

/-- The absolute path of a location. -/
def pathOf (location : List String) : String :=
  "/" ++ String.intercalate "/" location

/-- The absolute form of a path. -/
def absolute (fs : FileSystem) (path : String) : String :=
  Path.join (pathOf fs.workingDirectory) path

/-- Where a path leads: the location, what is there, and whether the path asks for a directory by
the slash at its end. -/
structure Target where
  location : List String
  entry : Option Entry
  slash : Bool

/-- Finds where a path leads. If a link stands there, it is followed if that is wanted or if there
is a slash behind it. -/
def resolveBy (followsLast : Bool) (fs : FileSystem) (path : String) : Except OsError Target :=
  if path.isEmpty then .error .notFound
  else if '\x00' ∈ path.toList then .error .nulCharacter
  else if maxPath ≤ Utf8.size path then .error .nameTooLong
  else do
    let start := if Path.isAbsolute path then [] else fs.workingDirectory
    let slash := path.toList.getLast? == some '/'
    let (location, entry) ←
      follow fs.root (followsLast || slash) (maxLinks + 1) start (Path.pieces path)
    if slash && entry.any fun e => !e.isDirectory then .error .notDirectory
    else .ok ⟨location, entry, slash⟩

/-- Finds where a path leads. -/
def resolve (fs : FileSystem) (path : String) : Except OsError Target :=
  fs.resolveBy true path

/-- Finds what a path names, which may be a link. -/
def locate (fs : FileSystem) (path : String) : Except OsError Target :=
  fs.resolveBy false path

/-- What has been found. -/
def Target.found (target : Target) : Except OsError Entry :=
  match target.entry with
  | some e => .ok e
  | none => .error .notFound

/-- The entry that a path leads to. -/
def entry (fs : FileSystem) (path : String) : Except OsError Entry := do
  (← fs.resolve path).found

/-- The entry that a path names, which may be a link. -/
def named (fs : FileSystem) (path : String) : Except OsError Entry := do
  (← fs.locate path).found

/-- Whether there is anything at a path. -/
def exists? (fs : FileSystem) (path : String) : Bool :=
  (fs.entry path).isOk

/-- Whether there is a file at a path; a device is none. -/
def isFile (fs : FileSystem) (path : String) : Bool :=
  match fs.entry path with
  | .ok e => e.isRegular
  | .error _ => false

/-- Whether there is a directory at a path. -/
def isDirectory (fs : FileSystem) (path : String) : Bool :=
  match fs.entry path with
  | .ok e => e.isDirectory
  | .error _ => false

/-! ## Reading -/

/-- What can be read of a program: it is no text. -/
def programBytes : Bytes := [0x7F, 0x45, 0x4C, 0x46, 0xFF]

/-- How much is read of a device that never ends. -/
def deviceSize : Nat := 2097152

/-- What can be read of a device, of one that never ends so much. -/
def deviceFront (size : Nat) : Device → Bytes
  | .null | .terminal => []
  | .zero | .full => List.replicate size 0

/-- What can be read of a device. -/
def deviceBytes (d : Device) : Bytes := deviceFront deviceSize d

/-- The content of the file of a number. -/
def contentOf (fs : FileSystem) (number : Nat) : Bytes :=
  ((fs.stored[number]?).map StoredFile.content).getD []

/-- What can be read of an entry, or why nothing can. -/
def bytes (fs : FileSystem) : Entry → Except OsError Bytes
  | .file number => .ok (fs.contentOf number)
  | .device .terminal => .error .noDevice
  | .device d => .ok (deviceBytes d)
  | .program _ => .ok programBytes
  | .link _ => .error .tooManyLinks
  | .directory _ _ => .error .isDirectory

/-- The content of a file. -/
def read (fs : FileSystem) (path : String) : Except OsError Bytes := do
  fs.bytes (← fs.entry path)

/-- The front of a file, at least so much of it if there is that much. -/
def readFront (fs : FileSystem) (size : Nat) (path : String) : Except OsError Bytes := do
  match ← fs.entry path with
  | .device .terminal => .error .noDevice
  | .device d => .ok (deviceFront size d)
  | e => fs.bytes e

/-- The content of a text file. -/
def readText (fs : FileSystem) (path : String) : Except OsError String := do
  match Utf8.decode? (← fs.read path) with
  | some s => .ok s
  | none => .error .notText

/-- The entries of a directory. -/
def readDirectory (fs : FileSystem) (path : String) : Except OsError Directory := do
  match ← fs.entry path with
  | .directory _ d => .ok d
  | .file _ | .device _ | .program _ | .link _ => .error .notDirectory

/-- The path that a link leads to. -/
def readLink? (fs : FileSystem) (path : String) : Option String :=
  match fs.named path with
  | .ok (.link target) => some target
  | _ => none

/-- What may be done to an entry. -/
def modeOf (fs : FileSystem) : Entry → Mode
  | .file number => ((fs.stored[number]?).map StoredFile.mode).getD 0
  | .device _ => 0o666
  | .program _ => 0o755
  | .link _ => 0o777
  | .directory mode _ => mode

/-- Whether an entry is a file that may be run. -/
def isExecutable (fs : FileSystem) (e : Entry) : Bool :=
  e.isRegular && Mode.isExecutable (fs.modeOf e)

/-- The size of an entry. -/
def sizeOf (fs : FileSystem) : Entry → Nat
  | .file number => (fs.contentOf number).length
  | .device _ => 0
  | .program _ => 35000
  | .link path => Utf8.size path
  | .directory _ _ => 4096

/-- When an entry was changed, in seconds. -/
def modifiedAt (fs : FileSystem) : Entry → Int
  | .file number => ((fs.stored[number]?).map StoredFile.modified).getD fs.time
  | .device _ | .program _ | .link _ | .directory _ _ => fs.time

/-- How many names an entry has; every directory below one is a name of it. -/
def namesOf (fs : FileSystem) : Entry → Nat
  | .file number => ((fs.root.files []).filter fun f => f.2 == number).length
  | .device _ | .program _ | .link _ => 1
  | .directory _ d => (d.toList.filter fun e => e.2.isDirectory).length + 2

/-! ## Writing -/

/-- The tree with the entry at a location replaced. -/
def set (fs : FileSystem) (location : List String) (e : Entry) : FileSystem :=
  { fs with root := fs.root.put e location }

/-- A new file at a location. -/
def addFile (fs : FileSystem) (location : List String) (content : Bytes) (mode : Mode) :
    FileSystem :=
  { fs with
    root := fs.root.put (.file fs.stored.size) location
    stored := fs.stored.push ⟨content, mode, fs.time⟩ }

/-- What of a content fits into a file, and whether all of it does. -/
def fit (fs : FileSystem) (content : Bytes) : Bytes × Except OsError Unit :=
  match fs.sizeLimit with
  | none => (content, .ok ())
  | some limit =>
    if content.length ≤ limit then (content, .ok ()) else (content.take limit, .error .fileTooLarge)

/-- The state with the file of a number replaced. -/
def store (fs : FileSystem) (number : Nat) (file : StoredFile) : FileSystem :=
  { fs with stored := fs.stored.setIfInBounds number file }

/-- Changes the content of the file of a number, as far as the new one fits. Nothing changes if
there is no such file. -/
def change (fs : FileSystem) (number : Nat) (f : Bytes → Bytes) :
    FileSystem × Except OsError Unit :=
  match fs.stored[number]? with
  | some file =>
    let (content, result) := fs.fit (f file.content)
    (fs.store number { file with content := content, modified := fs.time }, result)
  | none => (fs, .ok ())

/-- Sets what may be done to what is at a location. -/
def setMode (fs : FileSystem) (location : List String) (mode : Mode) : FileSystem :=
  match fs.root.get? location with
  | some (.file number) =>
    match fs.stored[number]? with
    | some file => fs.store number { file with mode := mode }
    | none => fs
  | some (.directory _ d) => fs.set location (.directory mode d)
  | some (.device _) | some (.program _) | some (.link _) | none => fs

/-- Writes a file that a function makes of the content it had, making the file if it is missing. A
content that exceeds the size limit is written as far as it fits. -/
def update (fs : FileSystem) (path : String) (f : Bytes → Bytes) :
    FileSystem × Except OsError Unit :=
  match fs.resolve (Path.withoutSlashes path) with
  | .error e => (fs, .error e)
  | .ok target =>
    if path.endsWith "/" then (fs, .error .isDirectory) else
    match target.entry with
    | some (.directory _ _) => (fs, .error .isDirectory)
    | some (.file number) => fs.change number f
    | some (.device .terminal) => (fs, .error .noDevice)
    | some (.device d) =>
      (fs, if d = .full && !(f []).isEmpty then .error .noSpace else .ok ())
    | some (.program _) => (fs, .error .permissionDenied)
    | some (.link _) => (fs, .error .tooManyLinks)
    | none =>
      let (content, result) := fs.fit (f [])
      (fs.addFile target.location content (Mode.without Mode.ofFile fs.mask), result)

/-- Makes an empty file where nothing is, not even a link, with the permissions that the mask
leaves. -/
def createFile (fs : FileSystem) (path : String) (mode : Mode) :
    FileSystem × Except OsError Unit :=
  match fs.locate path with
  | .error e => (fs, .error e)
  | .ok place =>
    if place.entry.isSome then (fs, .error .fileExists)
    else if place.slash then (fs, .error .isDirectory)
    else (fs.addFile place.location [] (Mode.without mode fs.mask), .ok ())

/-- Writes a file anew. -/
def write (fs : FileSystem) (path : String) (content : Bytes) : FileSystem × Except OsError Unit :=
  fs.update path fun _ => content

/-- Writes at the end of a file. -/
def append (fs : FileSystem) (path : String) (content : Bytes) : FileSystem × Except OsError Unit :=
  fs.update path fun old => old ++ content

/-! ## Names -/

/-- Removes what is at a location. -/
def drop (fs : FileSystem) (location : List String) : FileSystem :=
  { fs with root := fs.root.remove location }

/-- Removes the name of a file, or a link. -/
def removeFile (fs : FileSystem) (path : String) : FileSystem × Except OsError Unit :=
  match fs.locate (Path.withoutSlashes path) with
  | .error e => (fs, .error e)
  | .ok target =>
    match target.entry with
    | none => (fs, .error .notFound)
    | some (.directory _ _) => (fs, .error .isDirectory)
    | some (.file _) | some (.device _) | some (.program _) | some (.link _) =>
      if path.endsWith "/" then (fs, .error .notDirectory)
      else (fs.drop target.location, .ok ())

/-- Removes a directory without entries. -/
def removeDirectory (fs : FileSystem) (path : String) : FileSystem × Except OsError Unit :=
  match fs.locate (Path.withoutSlashes path) with
  | .error e => (fs, .error e)
  | .ok target =>
    if Path.lastPiece (Path.withoutSlashes path) = "." then (fs, .error .invalid) else
    match target.entry with
    | none => (fs, .error .notFound)
    | some (.directory _ .nil) => (fs.drop target.location, .ok ())
    | some (.directory _ _) => (fs, .error .notEmpty)
    | some (.file _) | some (.device _) | some (.program _) | some (.link _) =>
      (fs, .error .notDirectory)

/-- Makes a directory whose parent exists, with the permissions that the mask leaves. -/
def createDirectory (fs : FileSystem) (path : String) : FileSystem × Except OsError Unit :=
  match fs.locate (Path.withoutSlashes path) with
  | .error e => (fs, .error e)
  | .ok target =>
    match target.entry with
    | some _ => (fs, .error .fileExists)
    | none =>
      let mode := Mode.without Mode.ofDirectory fs.mask
      (fs.set target.location (.directory mode .nil), .ok ())

/-- Makes a link to a path. -/
def createLink (fs : FileSystem) (path target : String) : FileSystem × Except OsError Unit :=
  match fs.locate (Path.withoutSlashes path) with
  | .error e => (fs, .error e)
  | .ok place =>
    if place.entry.isSome then (fs, .error .fileExists)
    else if path.endsWith "/" || target.isEmpty then (fs, .error .notFound)
    else (fs.set place.location (.link target), .ok ())

/-- Gives a file a further name. -/
def createName (fs : FileSystem) (path : String) (e : Entry) : FileSystem × Except OsError Unit :=
  match fs.locate (Path.withoutSlashes path) with
  | .error x => (fs, .error x)
  | .ok place =>
    if place.entry.isSome then (fs, .error .fileExists)
    else if path.endsWith "/" then (fs, .error .notFound)
    else if e.isDirectory then (fs, .error .notPermitted)
    else (fs.set place.location e, .ok ())

/-- Whether a directory may take the place of an entry, or a file. -/
def replaces? (isDirectory : Bool) : Option Entry → Except OsError Unit
  | none => .ok ()
  | some (.directory _ d) =>
    if !isDirectory then .error .isDirectory
    else if d.isEmpty then .ok ()
    else .error .notEmpty
  | some (.file _) | some (.device _) | some (.program _) | some (.link _) =>
    if isDirectory then .error .notDirectory else .ok ()

/-- Gives what a path names another path instead; what was there is gone. -/
def rename (fs : FileSystem) (source target : String) : FileSystem × Except OsError Unit :=
  let plain := Path.withoutSlashes
  match fs.locate (plain source), fs.locate (plain target) with
  | .error e, _ | _, .error e => (fs, .error e)
  | .ok old, .ok new =>
    match old.entry with
    | none => (fs, .error .notFound)
    | some e =>
      if Path.endsInDots source || Path.endsInDots target then (fs, .error .busy)
      else if (source.endsWith "/" || target.endsWith "/") && !e.isDirectory then
        (fs, .error .notDirectory)
      else if old.location = new.location then (fs, .ok ())
      else if e.isDirectory && old.location.isPrefixOf new.location then (fs, .error .invalid)
      else if e.number?.isSome && e.number? == new.entry.bind Entry.number? then (fs, .ok ())
      else
        match replaces? e.isDirectory new.entry with
        | .error x => (fs, .error x)
        | .ok () => ((fs.drop old.location).set new.location e, .ok ())

/-- Makes the first of these directories if it is not there. Each stands in the next; that one is
made first when it turns out to be missing. -/
def createAlong (fs : FileSystem) : List String → FileSystem × Except OsError Unit
  | [] => (fs, .error .noTree)
  | path :: above =>
    let unlessThere (fs : FileSystem) (e : OsError) : FileSystem × Except OsError Unit :=
      (fs, if fs.isDirectory path then .ok () else .error e)
    if path.isEmpty then (fs, .ok ())
    else
      match fs.createDirectory path with
      | (fs, .ok ()) => (fs, .ok ())
      | (fs, .error .notFound) =>
        match fs.createAlong above with
        | (fs, .error e) => (fs, .error e)
        | (fs, .ok ()) =>
          match fs.createDirectory path with
          | (fs, .ok ()) => (fs, .ok ())
          | (fs, .error e) => unlessThere fs e
      | (fs, .error e) => unlessThere fs e

/-- Makes a directory and those it stands in, as far as they are missing. -/
def createDirectories (fs : FileSystem) (path : String) : FileSystem × Except OsError Unit :=
  fs.createAlong (Path.ancestors path)

end FileSystem

/-! ## Changes -/

/-- A step from one state of a file system towards another. Locations are absolute. -/
inductive Change where
  | makeDirectory (location : List String)
  | write (location : List String) (content : Bytes)
  | remove (location : List String)
  deriving DecidableEq, Repr

namespace FileSystem

/-- The files of a state with their contents, by their locations. -/
def contents (fs : FileSystem) : List (List String × Bytes) :=
  (fs.root.files []).map fun (location, number) => (location, fs.contentOf number)

/-- The content of the file at a location. -/
def contentAt (fs : FileSystem) (location : List String) : Option Bytes :=
  ((fs.root.get? location).bind Entry.number?).map fs.contentOf

/-- The steps from one state to another: directories that are empty afterwards, files whose content
is new, and files that are gone. Directories that hold something are made with what they hold. -/
def changes (before after : FileSystem) : List Change :=
  ((after.root.emptyDirectories []).filter fun l => (before.root.get? l).isNone).map
      .makeDirectory ++
    (after.contents.filter fun f => before.contentAt f.1 ≠ some f.2).map
      (fun f => .write f.1 f.2) ++
    (before.contents.filter fun f => (after.contentAt f.1).isNone).map
      fun f => .remove f.1

end FileSystem

end CallForest
