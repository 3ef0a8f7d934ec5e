/-!
# Files of a command

Why a file cannot be read, and where a log file may stand: its path must end in a name, and what leads there must be
directories, which are made where they do not exist.
-/

namespace ConditionLang

/-- Why a file cannot be read. -/
inductive FileError where
  | notFound
  | isDirectory
  | notDirectory
  | other (reason : String)
  deriving Repr, DecidableEq, Inhabited

/-- How messages give the reason. -/
def FileError.message : FileError → String
  | .notFound => "No such file or directory (os error 2)"
  | .isDirectory => "Is a directory (os error 21)"
  | .notDirectory => "Not a directory (os error 20)"
  | .other reason => reason

/-- Why a log file cannot be written where a configuration asks for it. -/
inductive LogFileError where
  | root
  | unnamed
  /-- A file stands where its directory would be. -/
  | occupied
  /-- A file stands where a directory above its directory would be. -/
  | blocked
  deriving Repr, DecidableEq, Inhabited

namespace LogFileError

/-- The message of an error. -/
def message : LogFileError → String
  | root => "log file path has no parent directory"
  | unnamed => "log file path has no file name"
  | occupied => "File exists (os error 17)"
  | blocked => FileError.notDirectory.message

end LogFileError

namespace LogFile

/-- The names that a path is made of, without those that lead nowhere. -/
def names (path : String) : List String :=
  ((path.toList.splitOn '/').map String.ofList).filter fun name => name != "" && name != "."

/-- The directory that a path leads to a file in. -/
def directory (path : String) : String :=
  (if path.toList.head? = some '/' then "/" else "") ++ "/".intercalate (names path).dropLast

/-- What stands in the way of a log file, given the contents of files. -/
def error? (read : String → Except FileError String) (path : String) : Option LogFileError :=
  if names path = [] ∧ path.toList.head? = some '/' then some .root
  else if (names path).getLast? = some ".." then some .unnamed
  else
    match read (directory path) with
    | .ok _ => some .occupied
    | .error .notDirectory => some .blocked
    | .error _ => none

end LogFile

end ConditionLang
