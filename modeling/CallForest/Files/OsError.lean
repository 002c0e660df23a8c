/-!
# Errors of the operating system
-/

namespace CallForest

/-- Why the operating system refuses an operation. -/
inductive OsError where
  | notFound
  | tooManyArguments
  | badExecutable
  | permissionDenied
  | fileExists
  | notDirectory
  | isDirectory
  | fileTooLarge
  | noSpace
  | nameTooLong
  | notEmpty
  | tooManyLinks
  /-- An operation that nobody may do. -/
  | notPermitted
  /-- A device that is not there. -/
  | noDevice
  /-- An argument that makes no sense. -/
  | invalid
  /-- A directory that processes work in. -/
  | busy
  /-- A descriptor that stands for nothing, or for nothing that can be used that way. -/
  | badDescriptor
  /-- The file does not hold UTF-8 text. -/
  | notText
  /-- A path holds the character U+0000. -/
  | nulCharacter
  /-- The name or an argument of a program holds the character U+0000. -/
  | nulArgument
  /-- No part of a path could be made. -/
  | noTree
  /-- An error that is known by its text alone. -/
  | reported (text : String)
  deriving DecidableEq, Repr

namespace OsError

/-- What an error is called. -/
def reason : OsError → String
  | notFound => "No such file or directory"
  | tooManyArguments => "Argument list too long"
  | badExecutable => "Exec format error"
  | permissionDenied => "Permission denied"
  | fileExists => "File exists"
  | notDirectory => "Not a directory"
  | isDirectory => "Is a directory"
  | fileTooLarge => "File too large"
  | noSpace => "No space left on device"
  | nameTooLong => "File name too long"
  | notEmpty => "Directory not empty"
  | tooManyLinks => "Too many levels of symbolic links"
  | notPermitted => "Operation not permitted"
  | noDevice => "No such device or address"
  | invalid => "Invalid argument"
  | busy => "Device or resource busy"
  | badDescriptor => "Bad file descriptor"
  | notText => "stream did not contain valid UTF-8"
  | nulCharacter => "file name contained an unexpected NUL byte"
  | nulArgument => "nul byte found in provided data"
  | noTree => "failed to create whole tree"
  | reported text => text

/-- The number of an error, if the operating system numbers it. -/
def number? : OsError → Option Nat
  | notPermitted => some 1
  | noDevice => some 6
  | badDescriptor => some 9
  | busy => some 16
  | invalid => some 22
  | notFound => some 2
  | tooManyArguments => some 7
  | badExecutable => some 8
  | permissionDenied => some 13
  | fileExists => some 17
  | notDirectory => some 20
  | isDirectory => some 21
  | fileTooLarge => some 27
  | noSpace => some 28
  | nameTooLong => some 36
  | notEmpty => some 39
  | tooManyLinks => some 40
  | notText | nulCharacter | nulArgument | noTree | reported _ => none

/-- The text of an error: what it is called, and its number if it has one. -/
def message (e : OsError) : String :=
  match e.number? with
  | some n => s!"{e.reason} (os error {n})"
  | none => e.reason

end OsError

end CallForest
