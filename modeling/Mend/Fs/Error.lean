/-!
# Failures of the file system
-/

namespace Mend.Fs

/-- Why a file cannot be read, written, made or removed. -/
inductive Error where
  | notFound
  | denied
  | exists
  | notDirectory
  | isDirectory
  | nameTooLong
  | notEmpty
  /-- The last step of a path is no name. -/
  | busy
  | nulInName
  | nulInCommand
  /-- The system cannot run the bytes of a file. -/
  | notProgram
  /-- The bytes of a file that is read as text are not UTF-8. -/
  | notUtf8
  /-- A source of files that is not on disk has no such file. -/
  | absent
  deriving DecidableEq, Repr

namespace Error

/-- The words for a failure. -/
def words : Error → String
  | .notFound => "No such file or directory"
  | .denied => "Permission denied"
  | .exists => "File exists"
  | .notDirectory => "Not a directory"
  | .isDirectory => "Is a directory"
  | .nameTooLong => "File name too long"
  | .notEmpty => "Directory not empty"
  | .busy => "Device or resource busy"
  | .nulInName => "file name contained an unexpected NUL byte"
  | .notProgram => "Exec format error"
  | .nulInCommand => "nul byte found in provided data"
  | .notUtf8 => "stream did not contain valid UTF-8"
  | .absent => "entity not found"

/-- The number that the system has for a failure, if it comes from the system. -/
def number? : Error → Option Nat
  | .notFound => some 2
  | .notProgram => some 8
  | .denied => some 13
  | .busy => some 16
  | .exists => some 17
  | .notDirectory => some 20
  | .isDirectory => some 21
  | .nameTooLong => some 36
  | .notEmpty => some 39
  | _ => none

/-- The message of a failure: its words, and its number if it has one. -/
def message (e : Error) : String :=
  match e.number? with
  | some n => e.words ++ " (os error " ++ toString n ++ ")"
  | none => e.words

end Error
end Mend.Fs
