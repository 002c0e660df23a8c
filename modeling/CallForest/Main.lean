import CallForest.Cli.Run
import CallForest.Files.FileSystem

/-!
# The command line program

Reads the files that a run can see, makes the run, and does to the files what the run did to them.
Those are the files below the working directory and at the paths that the arguments name. What
cannot be read is taken not to be there, links to directories are not followed, and a file counts as
a program if it begins as a script does.
-/

namespace CallForest.Cli

/-- Whether what is at a location is known without looking. -/
def isKnown (fs : FileSystem) (location : List String) : Bool :=
  match fs.root.get? location with
  | some (.device _) | some (.program _) => true
  | _ => false

/-- Reads what is at a location, with all that is below it, into a file system. -/
partial def readLocation (fs : FileSystem) (location : List String) : IO FileSystem := do
  if isKnown fs location then return fs
  try
    let path ← IO.FS.realPath (FileSystem.pathOf location)
    if ← path.isDir then
      let mut files := (fs.createDirectories (FileSystem.pathOf location)).1
      for entry in ← path.readDir do
        let status ← entry.path.symlinkMetadata
        let linked ← entry.path.isDir
        unless status.type == .symlink && linked do
          files ← readLocation files (location ++ [entry.fileName])
      return files
    else
      let content := (← IO.FS.readBinFile path).toList
      let files := (fs.createDirectories (FileSystem.pathOf location.dropLast)).1
      let isScript := "#!".toUTF8.toList.isPrefixOf content
      return files.addFile location content (if isScript then 0o755 else 0o644)
  catch _ => return fs

/-- Reads what is at a path into a file system. -/
def readPath (fs : FileSystem) (path : String) : IO FileSystem := do
  try
    let found ← IO.FS.realPath path
    readLocation fs (Path.pieces found.toString)
  catch _ => return fs

/-- Does a step to the real files. -/
def applyChange (change : Change) : IO Unit := do
  match change with
  | .makeDirectory location => IO.FS.createDirAll (FileSystem.pathOf location)
  | .write location content =>
    IO.FS.createDirAll (FileSystem.pathOf location.dropLast)
    IO.FS.writeBinFile (FileSystem.pathOf location) ⟨content.toArray⟩
  | .remove location => IO.FS.removeFile (FileSystem.pathOf location)

/-- The paths that a run with those arguments can see. -/
def visiblePaths (args : List String) : List String :=
  match Request.ofArguments args with
  | .run options => "." :: options.paths
  | .help | .version | .refused _ => []

/-- Makes the run that arguments ask for, and gives its exit code. -/
def program (args : List String) : IO UInt32 := do
  let here ← IO.FS.realPath "."
  let before ← (visiblePaths args).foldlM readPath
    (Machine.files (Path.pieces here.toString))
  let outcome := run .standard args before
  for change in before.changes outcome.files do
    applyChange change
  (← IO.getStdout).putStr outcome.output
  (← IO.getStderr).putStr outcome.errors
  return UInt32.ofNat outcome.code

end CallForest.Cli

/-- The entry point of the command line. -/
def main (args : List String) : IO UInt32 :=
  CallForest.Cli.program args
