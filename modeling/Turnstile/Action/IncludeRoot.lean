import Turnstile.Store.Disk

/-!
# The include root

A folder whose files, but not those of folders in it, may be included in pages.  A file
is named by the last part of a path, so no path leads out of the root.
-/

namespace Turnstile

/-- The folder of the files that may be included, on the disk around it. -/
structure IncludeRoot where
  path : String
  disk : Disk
  /-- Where the folder is. -/
  place : List String
  leads : disk.placeOf path = .ok place
  isFolder : disk place = some .folder

namespace IncludeRoot

/-- The last part of a path. -/
def lastPart (path : String) : String :=
  String.ofList ((Text.pieces '/' path.toList).getLastD [])

/-- The name could be looked up, were it not too long. -/
def isTooLong (name : String) : Bool :=
  !name.toList.contains (Char.ofNat 0) && Entry.isTooLong name

/-- The path of the file that a text names. -/
def pathOf (root : IncludeRoot) (text : String) : String := Disk.join root.path (lastPart text)

/-- The folder to which a path leads on a disk. -/
def ofPath? (disk : Disk) (path : String) : Option IncludeRoot :=
  match leads : disk.placeOf path with
  | .ok place =>
    if isFolder : disk place = some .folder then some ⟨path, disk, place, leads, isFolder⟩ else none
  | .error _ => none

/-- The disk that holds files at some paths from a folder, the later of two at one path. -/
def diskOf (folder : String) (files : Members String) : Disk := fun place =>
  let texts := files.map fun (path, text) => (Disk.parts folder ++ Disk.parts path, text)
  match texts.reverse.find? (·.1 = place) with
  | some (_, text) => some (.file text)
  | none =>
    if place.isPrefixOf (Disk.parts folder) || texts.any (place.isPrefixOf ·.1) then some .folder
    else none

/-- The top folder of an empty disk. -/
def top : IncludeRoot where
  path := "/"
  disk := fun place => if place = [] then some .folder else none
  place := []
  leads := rfl
  isFolder := rfl

/-- The folder with a path that holds files at some paths from it. -/
def ofFiles (path : String) (files : Members String) : IncludeRoot :=
  (ofPath? (diskOf path files) path).getD top

end IncludeRoot

end Turnstile
