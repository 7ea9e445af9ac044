import SchemaDocs.Files.Path
import SchemaDocs.Text.Quoted
import SchemaDocs.Text.Utf8

/-!
# Files and folders

A disk holds files and folders at locations, which are lists of names from the
root down; the root itself is a folder. A path leads to a location by way of its
parts, starting at the root or at the folder one is in. Every part but the last
has to lead to a folder, so a path through something that is missing, or through
a file, leads nowhere.

Files are written in place of what they held before. Folders are made together
with those above them that are missing.
-/

namespace SchemaDocs

inductive Entry
  | file (octets : List UInt8)
  | folder
deriving DecidableEq, Repr

abbrev Location := List String

/-- The entries of a disk below its root, and the folder one is in. -/
structure Disk where
  entries : List (Location × Entry)
  here : Location
deriving DecidableEq, Repr

/-- Why a path cannot be used, and the path. -/
inductive FileFault
  | missing (path : String)
  | present (path : String)
  | notFolder (path : String)
  | isFolder (path : String)
  | nameTooLong (path : String)
  | nullCharacter
deriving DecidableEq, Repr

def FileFault.message : FileFault → String
  | .missing path => "[Errno 2] No such file or directory: " ++ Text.quoted path
  | .present path => "[Errno 17] File exists: " ++ Text.quoted path
  | .notFolder path => "[Errno 20] Not a directory: " ++ Text.quoted path
  | .isFolder path => "[Errno 21] Is a directory: " ++ Text.quoted path
  | .nameTooLong path => "[Errno 36] File name too long: " ++ Text.quoted path
  | .nullCharacter => "embedded null byte"

namespace Disk

def find? (disk : Disk) (location : Location) : Option Entry :=
  if location.isEmpty then some .folder else disk.entries.lookup location

def put (disk : Disk) (location : Location) (entry : Entry) : Disk :=
  { disk with entries := (location, entry) :: disk.entries.filter (·.1 != location) }

/-- The most octets that the name of a file or a folder may have. -/
def longestName : Nat := 255

/-- The most octets that a path may have. -/
def longestPath : Nat := 4095

/-- One part further on from a location on the way of a path. -/
def follow (disk : Disk) (path : String) (location : Location) (part : String) :
    Except FileFault Location :=
  match disk.find? location with
  | none => .error (.missing path)
  | some (.file _) => .error (.notFolder path)
  | some .folder =>
    if part = "" ∨ part = "." then .ok location
    else if part = ".." then .ok location.dropLast
    else if part.utf8ByteSize > longestName then .error (.nameTooLong path)
    else .ok (location ++ [part])

/-- Where a path leads; there need not be anything yet. -/
def locate (disk : Disk) (path : String) : Except FileFault Location :=
  if path.toList.contains '\x00' then .error .nullCharacter
  else if path = "" then .error (.missing path)
  else if path.utf8ByteSize > longestPath then .error (.nameTooLong path)
  else
    (Path.parts path).foldlM (disk.follow path)
      (if Path.isAbsolute path then [] else disk.here)

/-- What a path leads to, if it leads to anything. -/
def entry? (disk : Disk) (path : String) : Option Entry :=
  match disk.locate path with
  | .ok location => disk.find? location
  | .error _ => none

def isFile (disk : Disk) (path : String) : Bool := disk.entry? path matches some (.file _)

def isFolder (disk : Disk) (path : String) : Bool := disk.entry? path matches some .folder

def holds (disk : Disk) (path : String) : Bool := (disk.entry? path).isSome

def read (disk : Disk) (path : String) : Except FileFault (List UInt8) := do
  match disk.find? (← disk.locate path) with
  | none => .error (.missing path)
  | some .folder => .error (.isFolder path)
  | some (.file octets) => .ok octets

/-- Writes a file at the plain form of a path. -/
def write (disk : Disk) (path : String) (octets : List UInt8) :
    Except FileFault Disk := do
  let path := Path.plain path
  let location ← disk.locate path
  match disk.find? location with
  | some .folder => .error (.isFolder path)
  | _ => .ok (disk.put location (.file octets))

def makeFolder (disk : Disk) (path : String) : Except FileFault Disk := do
  let location ← disk.locate path
  match disk.find? location with
  | some _ => .error (.present path)
  | none => .ok (disk.put location .folder)

/-- The folder above a path and its last part; a slash at the end of the path
does not count. -/
def above (path : String) : String × String :=
  let (head, last) := Path.split path
  if last = "" then Path.split head else (head, last)

/-- Makes a folder that may be there already. -/
def ensureFolder (disk : Disk) (path : String) : Disk × Option FileFault :=
  match disk.makeFolder path with
  | .ok disk => (disk, none)
  | .error .nullCharacter => (disk, some .nullCharacter)
  | .error fault => (disk, if disk.isFolder path then none else some fault)

/-- Makes a folder and the folders above it that are missing. What was made
stays when something further on cannot be made. `fuel` bounds the length of the
path. -/
def makeFoldersFrom : (fuel : Nat) → Disk → String → Disk × Option FileFault
  | 0, disk, path => disk.ensureFolder path
  | fuel + 1, disk, path =>
    let (head, last) := above path
    if head = "" ∨ last = "" ∨ disk.holds head then disk.ensureFolder path
    else
      match makeFoldersFrom fuel disk head with
      | (disk, none) => if last = "." then (disk, none) else disk.ensureFolder path
      | (disk, some (.present _)) =>
        if last = "." then (disk, none) else disk.ensureFolder path
      | (disk, some fault) => (disk, some fault)

def makeFolders (disk : Disk) (path : String) : Disk × Option FileFault :=
  makeFoldersFrom path.toList.length disk path

end Disk

end SchemaDocs
