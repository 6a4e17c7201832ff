import Tidemark.Storage.DocumentPath
import Tidemark.Storage.IoFault

/-!
# File systems

The operations on files that a directory of documents needs.  They are effects, so that a document
directory works on the files of a machine as well as on a tree of files held as a value.
-/

namespace Tidemark.Storage

/-- A file system whose operations are effects of `m`. -/
structure FileSystem (m : Type → Type) where
  /-- Makes a directory and the directories above it that are missing. -/
  makeDirectories : DocumentPath → m (Except IoFault Unit)
  /-- Makes or overwrites a file. -/
  write : DocumentPath → ByteArray → m (Except IoFault Unit)
  /-- Gives a file another path; a file that was there is replaced in the same step. -/
  rename : DocumentPath → DocumentPath → m (Except IoFault Unit)
  remove : DocumentPath → m (Except IoFault Unit)
  read : DocumentPath → m (Except IoFault ByteArray)
  /-- A name that no file has yet. -/
  freshName : m String

end Tidemark.Storage
