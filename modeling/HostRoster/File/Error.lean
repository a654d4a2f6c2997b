/-!
# Errors of files
-/

namespace HostRoster

/-- Why a file cannot be read or written. -/
inductive FileError where
  /-- There is no such file, or no directory to put it in. -/
  | notFound
  /-- A part of the path before the last is no directory. -/
  | notDirectory
  /-- The path is that of a directory. -/
  | isDirectory
  /-- There is something else under the path. -/
  | exists
  /-- The path is that of a directory in use. -/
  | busy
  /-- A part of the path is too long. -/
  | nameTooLong
  /-- The path has a character that no path can have. -/
  | nulInPath
  /-- The content is no text. -/
  | notText
  /-- Anything else, with its number. -/
  | other (text : String) (code : Nat)
  deriving DecidableEq, Repr

/-- A message of the operating system with its number. -/
def FileError.numbered (text : String) (code : Nat) : String :=
  text ++ " (os error " ++ toString code ++ ")"

/-- The error as it is shown. -/
def FileError.message : FileError → String
  | .notFound => numbered "No such file or directory" 2
  | .notDirectory => numbered "Not a directory" 20
  | .isDirectory => numbered "Is a directory" 21
  | .exists => numbered "File exists" 17
  | .busy => numbered "Device or resource busy" 16
  | .nameTooLong => numbered "File name too long" 36
  | .nulInPath => "file name contained an unexpected NUL byte"
  | .notText => "stream did not contain valid UTF-8"
  | .other text code => numbered text code

end HostRoster
