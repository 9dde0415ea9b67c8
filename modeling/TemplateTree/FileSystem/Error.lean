import TemplateTree.Text.Quoted

/-!
# System errors

Why an operation on the file system fails: an error number with the path or paths it is about. A path
with a NUL character is refused before the system is asked.
-/

namespace TemplateTree

/-- The errors that file operations meet. -/
inductive Errno
  | notPermitted
  | noEntry
  | denied
  | busy
  | exists
  | notDirectory
  | isDirectory
  | invalid
  | nameTooLong
  | notEmpty
  | tooManyLinks
  deriving DecidableEq, Repr

namespace Errno

/-- The number of an error. -/
def code : Errno → Nat
  | .notPermitted => 1
  | .noEntry => 2
  | .denied => 13
  | .busy => 16
  | .exists => 17
  | .notDirectory => 20
  | .isDirectory => 21
  | .invalid => 22
  | .nameTooLong => 36
  | .notEmpty => 39
  | .tooManyLinks => 40

/-- The error in words. -/
def text : Errno → String
  | .notPermitted => "Operation not permitted"
  | .noEntry => "No such file or directory"
  | .denied => "Permission denied"
  | .busy => "Device or resource busy"
  | .exists => "File exists"
  | .notDirectory => "Not a directory"
  | .isDirectory => "Is a directory"
  | .invalid => "Invalid argument"
  | .nameTooLong => "File name too long"
  | .notEmpty => "Directory not empty"
  | .tooManyLinks => "Too many levels of symbolic links"

end Errno

/-- A failed operation on the file system. -/
inductive SystemError
  | failed (errno : Errno) (words : String) (path : Option String) (target : Option String)
  | nulByte
  deriving DecidableEq, Repr

namespace SystemError

/-- The error `errno` about one path. -/
def about (errno : Errno) (path : String) : SystemError :=
  .failed errno errno.text (some path) none

/-- The error in words. -/
def message : SystemError → String
  | .nulByte => "embedded null byte"
  | .failed errno words path target =>
    "[Errno " ++ toString errno.code ++ "] " ++ words
      ++ (path.map fun p => ": " ++ Text.quoted p).getD ""
      ++ (target.map fun p => " -> " ++ Text.quoted p).getD ""

/-- Whether the error says that nothing is at the path: an entry or a directory on the way is missing,
    or links lead nowhere. -/
def saysAbsent : SystemError → Bool
  | .nulByte => true
  | .failed errno _ _ _ => errno == .noEntry || errno == .notDirectory || errno == .tooManyLinks

end SystemError

end TemplateTree
