/-!
# Errors of the machine

`OsError.message` is the text that the machine gives for a file operation that fails.
-/

namespace CommandShell

/-- Why a file operation fails. -/
inductive OsError where
  /-- Nothing has this name. -/
  | notFound
  /-- The name is taken. -/
  | alreadyExists
  /-- A file stands where a directory has to be. -/
  | notDirectory
  /-- A directory stands where a file has to be. -/
  | isDirectory
  /-- The file may not be read, or the directory not be entered. -/
  | permissionDenied
  /-- A name of more than 255 bytes, or a path of 4096 bytes or more. -/
  | nameTooLong
  /-- A text file that is not UTF-8. -/
  | invalidText
  /-- A path with a NUL in it. -/
  | nulInPath
  deriving DecidableEq, Repr

/-- The text of an error. -/
def OsError.message : OsError → String
  | notFound => "No such file or directory (os error 2)"
  | alreadyExists => "File exists (os error 17)"
  | notDirectory => "Not a directory (os error 20)"
  | isDirectory => "Is a directory (os error 21)"
  | permissionDenied => "Permission denied (os error 13)"
  | nameTooLong => "File name too long (os error 36)"
  | invalidText => "stream did not contain valid UTF-8"
  | nulInPath => "file name contained an unexpected NUL byte"

end CommandShell
