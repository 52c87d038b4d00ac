/-!
**What the file system refuses.**
-/

set_option autoImplicit false

namespace PageImages

/-- Why a file-system operation was refused. -/
inductive OsError where
  /-- There is no entry of that name. -/
  | notFound
  /-- The entry is in use as a place, not as a name. -/
  | busy
  /-- There is an entry of that name already. -/
  | alreadyExists
  /-- Something on the way is no directory. -/
  | notDirectory
  /-- The entry is a directory. -/
  | isDirectory
  /-- A directory would come to lie inside itself. -/
  | invalidArgument
  /-- A name or the whole path is too long. -/
  | nameTooLong
  /-- The directory has entries. -/
  | notEmpty
  /-- Too many links lie on the way. -/
  | tooManyLinks
  /-- The path has an octet zero in it. -/
  | zeroInPath
  /-- The file is no text. -/
  | notText
deriving DecidableEq, Repr

/-- A refusal with its number, in words. -/
def OsError.numbered (description : String) (number : Nat) : String :=
  description ++ " (os error " ++ toString number ++ ")"

/-- Why a file-system operation was refused, in words. -/
def OsError.message : OsError → String
  | .notFound => numbered "No such file or directory" 2
  | .busy => numbered "Device or resource busy" 16
  | .alreadyExists => numbered "File exists" 17
  | .notDirectory => numbered "Not a directory" 20
  | .isDirectory => numbered "Is a directory" 21
  | .invalidArgument => numbered "Invalid argument" 22
  | .nameTooLong => numbered "File name too long" 36
  | .notEmpty => numbered "Directory not empty" 39
  | .tooManyLinks => numbered "Too many levels of symbolic links" 40
  | .zeroInPath => "file name contained an unexpected NUL byte"
  | .notText => "stream did not contain valid UTF-8"

end PageImages
