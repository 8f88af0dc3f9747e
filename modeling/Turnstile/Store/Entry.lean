import Turnstile.Json.Basic
import Turnstile.Text.Utf8

/-!
# Folders

What a folder holds: files and folders under names.  A name has at most 255 bytes, and
a file does not replace a folder.
-/

namespace Turnstile

/-- What a folder holds under a name. -/
inductive Entry where
  | file (text : String)
  | folder
  deriving DecidableEq, Repr

/-- Why a folder does not take or give an entry. -/
inductive FolderFault where
  | nameTooLong
  | isFolder
  /-- A document cannot be written to the end. -/
  | unwritable
  deriving DecidableEq, Repr

/-- The fault is one of the file system. -/
def FolderFault.isOfSystem : FolderFault → Bool
  | .unwritable => false
  | _ => true

namespace Entry

/-- The number of bytes that a name may have. -/
def maxNameBytes : Nat := 255

/-- A name has more bytes than names may have. -/
def isTooLong (name : String) : Bool := maxNameBytes < (Utf8.encode name.toList).length

end Entry

end Turnstile
