/-!
# What can go wrong with a file operation
-/

namespace Tidemark.Storage

/-- Why a file operation fails. -/
inductive IoFault where
  | notFound
  | alreadyExists
  | notADirectory
  | isADirectory
  | nameTooLong
  /-- The content of a file is no text. -/
  | notText
  /-- A path holds the character that ends a path. -/
  | nulInPath
  | other (reason : String)
  deriving DecidableEq, Repr

namespace IoFault

/-- The wording of a fault. -/
def message : IoFault → String
  | .notFound => "No such file or directory (os error 2)"
  | .alreadyExists => "File exists (os error 17)"
  | .notADirectory => "Not a directory (os error 20)"
  | .isADirectory => "Is a directory (os error 21)"
  | .nameTooLong => "File name too long (os error 36)"
  | .notText => "stream did not contain valid UTF-8"
  | .nulInPath => "file name contained an unexpected NUL byte"
  | .other reason => reason

end IoFault

end Tidemark.Storage
