/-!
# Errors of the operating system

The ways in which an operation on files can be refused, each with its number and
its customary wording.
-/

namespace BlockExtension.Files

/-- Why the operating system refuses an operation. -/
inductive OsError where
  | notPermitted
  | notFound
  | noDevice
  | badExecutable
  | badDescriptor
  | permissionDenied
  | busy
  | alreadyExists
  | notDirectory
  | isDirectory
  | invalidArgument
  | noSpace
  | nameTooLong
  | notEmpty
  | tooManyLinks
  deriving DecidableEq, Repr

namespace OsError

/-- The number of an error. -/
def number : OsError → Nat
  | .notPermitted => 1
  | .notFound => 2
  | .noDevice => 6
  | .badExecutable => 8
  | .badDescriptor => 9
  | .permissionDenied => 13
  | .busy => 16
  | .alreadyExists => 17
  | .notDirectory => 20
  | .isDirectory => 21
  | .invalidArgument => 22
  | .noSpace => 28
  | .nameTooLong => 36
  | .notEmpty => 39
  | .tooManyLinks => 40

/-- The wording of an error. -/
def wording : OsError → String
  | .notPermitted => "Operation not permitted"
  | .notFound => "No such file or directory"
  | .noDevice => "No such device or address"
  | .badExecutable => "Exec format error"
  | .badDescriptor => "Bad file descriptor"
  | .permissionDenied => "Permission denied"
  | .busy => "Device or resource busy"
  | .alreadyExists => "File exists"
  | .notDirectory => "Not a directory"
  | .isDirectory => "Is a directory"
  | .invalidArgument => "Invalid argument"
  | .noSpace => "No space left on device"
  | .nameTooLong => "File name too long"
  | .notEmpty => "Directory not empty"
  | .tooManyLinks => "Too many levels of symbolic links"

def message (error : OsError) : String :=
  s!"{error.wording} (os error {error.number})"

end OsError

end BlockExtension.Files
