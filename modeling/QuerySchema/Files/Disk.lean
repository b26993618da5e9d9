import QuerySchema.Files.Tree
import QuerySchema.Text.Quoted

/-!
Paths, and the disk they lead through.

A path is read from its text: where it starts, and the names it goes through. `Disk.locate?` walks
it: each name is looked up in a folder, a dot stays, two dots go back, and a slash at the end asks
for a folder. `Disk.absolute` needs no such walk: it takes a path relative to the working folder and
drops the dots, whatever exists. A name has at most 255 bytes and a path fewer than 4096, and no
path holds the character that ends it.
-/

namespace QuerySchema.Files

/-- The pieces of a text between its slashes. -/
def pieces : List Char → List (List Char)
  | [] => [[]]
  | c :: rest =>
    if c = '/' then [] :: pieces rest
    else match pieces rest with
      | [] => [[c]]
      | piece :: further => (c :: piece) :: further

/-- A path as it is written. -/
structure Path where
  /-- Whether it starts at the top and not in the working folder. -/
  isAbsolute : Bool
  /-- The names between the slashes, dots included. -/
  names : List String
  /-- Whether it ends with a slash. -/
  endsOpen : Bool
  deriving DecidableEq, Repr

/-- Reads a path. -/
def Path.ofText (text : String) : Path :=
  let found := (pieces text.toList).map String.ofList
  ⟨text.toList.head? = some '/', found.filter (· ≠ ""), text.toList.getLast? = some '/'⟩

/-- The text of a place, from the top. -/
def placeText (place : List String) : String := "/" ++ "/".intercalate place

/-- The path of an entry of a folder. -/
def join (folder name : String) : String :=
  if folder.toList.getLast? = some '/' then folder ++ name else folder ++ "/" ++ name

/-- The last name of a path. -/
def baseName (path : String) : String :=
  String.ofList ((path.toList.reverse.takeWhile (· ≠ '/')).reverse)

/-- Whether a text holds the character that would end a path. -/
def holdsNul (text : String) : Bool := text.toList.contains '\x00'

/-- Whether a name has too many bytes. -/
def isLongName (name : String) : Bool := 255 < name.utf8ByteSize

/-- Whether a path has too many bytes. -/
def isLongPath (text : String) : Bool := 4096 ≤ text.utf8ByteSize

/-- All files and folders, and the place of the working folder. -/
structure Disk where
  root : Tree
  home : List String
  deriving Repr

/-- What is wrong with a path, or why a file cannot be written. -/
inductive DiskFault where
  /-- The path holds the character that would end it. -/
  | nulInPath
  /-- A file has the place of the folder. -/
  | fileExists (place : List String)
  /-- A file stands on the way to the folder. -/
  | notFolder (place : List String)
  /-- A folder has the place of the file. -/
  | isFolder (place : List String)
  /-- A name on the way to a folder or a file, or the way as a whole, is too long. -/
  | nameTooLong (place : List String)
  deriving DecidableEq, Repr

/-- What is said about a path, or when a file cannot be written. -/
def DiskFault.message : DiskFault → String
  | .nulInPath => "embedded null byte"
  | .fileExists place => "[Errno 17] File exists: " ++ Text.quoted (placeText place)
  | .notFolder place => "[Errno 20] Not a directory: " ++ Text.quoted (placeText place)
  | .isFolder place => "[Errno 21] Is a directory: " ++ Text.quoted (placeText place)
  | .nameTooLong place => "[Errno 36] File name too long: " ++ Text.quoted (placeText place)

namespace Disk

/-- Goes from a folder to the place that a name leads to. -/
def step (disk : Disk) (here : List String) (name : String) : Option (List String) :=
  match disk.root.find? here with
  | some (.folder entries) =>
    if name = "." then some here
    else if name = ".." then some here.dropLast
    else if Keyed.contains entries name then some (here ++ [name])
    else none
  | _ => none

/-- Where a path starts. -/
def start (disk : Disk) (path : Path) : List String :=
  if path.isAbsolute then [] else disk.home

/-- The place that a path leads to, if there is anything. The empty path leads nowhere, and neither
does one that is too long. -/
def locate? (disk : Disk) (text : String) : Option (List String) :=
  if text = "" || isLongPath text then none
  else
    let path := Path.ofText text
    (path.names.foldlM disk.step (disk.start path)).filter fun place =>
      !path.endsOpen || (disk.root.find? place).any Tree.isFolder

/-- What a path leads to. -/
def tree? (disk : Disk) (text : String) : Option Tree :=
  (disk.locate? text).bind disk.root.find?

/-- Goes on by a name, whatever exists. -/
def turn (here : List String) (name : String) : List String :=
  if name = "." then here else if name = ".." then here.dropLast else here ++ [name]

/-- The place that a path names, whether or not there is anything. -/
def absolute (disk : Disk) (text : String) : List String :=
  let path := Path.ofText text
  path.names.foldl turn (disk.start path)

/-- The places that a path goes through, from its start to the place that it names. -/
def wayPlaces (disk : Disk) (text : String) : List (List String) :=
  let path := Path.ofText text
  go (disk.start path) path.names
where
  /-- The places from one place on. -/
  go (here : List String) : List String → List (List String)
    | [] => [here]
    | name :: rest => here :: go (turn here name) rest

/-- Why a folder cannot be made at a place. Folders that are missing on the way are made as well, so
where some are missing only the part of the way up to the first long name is at fault. -/
def folderFault? (disk : Disk) (folder : List String) : Option DiskFault :=
  if isLongPath (placeText folder) then some (.nameTooLong folder)
  else match disk.root.find? folder with
    | some (.file _) => some (.fileExists folder)
    | some (.folder _) => none
    | none =>
      if disk.root.isBlocked folder then some (.notFolder folder)
      else match folder.findIdx? isLongName with
        | some index =>
          if (disk.root.find? (folder.take index)).isSome then some (.nameTooLong folder)
          else some (.nameTooLong (folder.take (index + 1)))
        | none => none

/-- Why no file can be written to a place. Folders that are missing on the way are no reason. -/
def writeFault? (disk : Disk) (place : List String) : Option DiskFault :=
  match disk.folderFault? place.dropLast with
  | some fault => some fault
  | none =>
    if isLongPath (placeText place) || place.getLast?.any isLongName then
      some (.nameTooLong place)
    else if (disk.root.find? place).any Tree.isFolder then some (.isFolder place)
    else none

end Disk

end QuerySchema.Files
