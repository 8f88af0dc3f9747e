import Turnstile.Store.Entry
import Turnstile.Text.Blank

/-!
# Disks

What a disk holds is told by place, which is the names that lead to an entry from the top
folder.  A path leads on part by part and only through folders: an empty part and a point
stay where they are, two points lead to the folder above, and anything else is the name of
an entry.  There are no links, so each entry has one place.
-/

namespace Turnstile

/-- What a disk holds at each place. -/
abbrev Disk := List String → Option Entry

/-- Why a path leads nowhere. -/
inductive PathFault where
  /-- A part names nothing, or something is asked for in what is no folder. -/
  | notFound
  | nameTooLong
  deriving DecidableEq, Repr

namespace Disk

/-- The place to which a part of a path leads on from a place. -/
def step (disk : Disk) (place : List String) (part : String) : Except PathFault (List String) :=
  if disk place ≠ some .folder then .error .notFound
  else if part = "" ∨ part = "." then .ok place
  else if part = ".." then .ok place.dropLast
  else if part.toList.contains (Char.ofNat 0) then .error .notFound
  else if Entry.isTooLong part then .error .nameTooLong
  else if (disk (place ++ [part])).isSome then .ok (place ++ [part])
  else .error .notFound

/-- The parts of a path. -/
def parts (path : String) : List String := (Text.pieces '/' path.toList).map String.ofList

/-- The place to which a path leads from the top. -/
def placeOf (disk : Disk) (path : String) : Except PathFault (List String) :=
  (parts path).foldlM disk.step []

/-- A path leads to a file; one that leads nowhere does not. -/
def isFile (disk : Disk) (path : String) : Except PathFault Bool :=
  match disk.placeOf path with
  | .ok place =>
    match disk place with
    | some (.file _) => .ok true
    | _ => .ok false
  | .error .notFound => .ok false
  | .error .nameTooLong => .error .nameTooLong

/-- The path of an entry of a folder with a path; a point is the folder itself. -/
def join (path name : String) : String :=
  if name = "" ∨ name = "." then path
  else if path.toList.getLast? = some '/' then path ++ name
  else path ++ "/" ++ name

end Disk

end Turnstile
