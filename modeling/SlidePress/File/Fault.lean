/-!
What can go wrong between the program and the system: with files, with their content, and with the
starting of programs.
-/

namespace SlidePress

/-- A refusal of the system, or content that cannot be used. -/
inductive Fault where
  | notFound
  | denied
  | alreadyThere
  | notFolder
  | isFolder
  | badProgram
  | nameTooLong
  /-- An argument of a program that is longer than the system passes on. -/
  | argumentTooLong
  /-- A text file that is not UTF-8. -/
  | notText
  /-- A path with a NUL, which no system call takes. -/
  | nulInPath
  /-- A program or an argument with a NUL. -/
  | nulInCommand
  deriving DecidableEq, Repr

/-- The refusals of the system carry its number for them. -/
def Fault.message : Fault → String
  | .notFound => "No such file or directory (os error 2)"
  | .argumentTooLong => "Argument list too long (os error 7)"
  | .badProgram => "Exec format error (os error 8)"
  | .denied => "Permission denied (os error 13)"
  | .alreadyThere => "File exists (os error 17)"
  | .notFolder => "Not a directory (os error 20)"
  | .isFolder => "Is a directory (os error 21)"
  | .nameTooLong => "File name too long (os error 36)"
  | .notText => "stream did not contain valid UTF-8"
  | .nulInPath => "file name contained an unexpected NUL byte"
  | .nulInCommand => "nul byte found in provided data"

end SlidePress
