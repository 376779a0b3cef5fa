import PayloadModels.Disk.Path
import Std.Data.TreeMap

/-!
# Disks

A `Disk` holds files and directories, each at its `Location`, the names that lead to it from the
root, and knows which directory relative paths begin at. A path leads somewhere only through
directories that exist (`Disk.locate?`), so that `..` goes up from where the path has arrived.

Writing makes the directories that are missing on the way (`Disk.write`). It fails when a file is
in the way or the path names no file; the directories made until then stay.

Texts, octets and directories are all that lies on one. A link, the permissions of an entry and its
times are left out: no path leads through a link here, and every entry can be read and written. A
file is written in one step, so that there is never a part of one.
-/

namespace PayloadModels

/-- The names that lead from the root to a file or directory. -/
abbrev Location := List String

/-- What is at a location. -/
inductive Disk.Entry where
  | directory
  /-- A file that holds text. -/
  | text (contents : String)
  /-- A file whose bytes are no text. -/
  | binary (bytes : List UInt8)
  deriving DecidableEq, Repr

/-- The files and directories that a program sees. -/
structure Disk where
  entries : Std.TreeMap Location Disk.Entry
  /-- The directory that relative paths begin at. -/
  here : Location

namespace Disk

/-- Whether an entry is a file. -/
def Entry.isFile : Entry → Bool
  | directory => false
  | text _ | binary _ => true

/-- The locations that a location lies in, from the root's children on, and itself. -/
def way (location : Location) : List Location :=
  (List.range location.length).map fun n => location.take (n + 1)

/-- The disk without files whose relative paths begin at a directory. -/
def startingAt (here : Location) : Disk :=
  { entries := (way here).foldl (fun entries location => entries.insert location .directory) ∅
    here := here }

/-- What is at a location, if there is anything; the root is always there. -/
def entry? (disk : Disk) (location : Location) : Option Entry :=
  if location = [] then some .directory else disk.entries[location]?

/-- Whether there is a directory at a location. -/
def hasDirectory (disk : Disk) (location : Location) : Bool :=
  disk.entry? location = some .directory

/-- Whether a text can be the name of a file: it has no null character, and at most 255
bytes. -/
def isName (text : String) : Bool := !text.toList.contains '\x00' && text.utf8ByteSize ≤ 255

/-- The location that is one piece of a path farther; it need not exist. -/
def step? (location : Location) (piece : String) : Option Location :=
  match Path.Part.ofPiece? piece with
  | some (.name text) => if isName text then some (location ++ [text]) else none
  | some .up => some location.dropLast
  | _ => some location

/-- The location that pieces of a path lead to. Each piece is looked up in a directory. -/
def follow? (disk : Disk) (location : Location) : List String → Option Location
  | [] => some location
  | piece :: pieces =>
    if disk.hasDirectory location then
      (step? location piece).bind fun next => disk.follow? next pieces
    else
      none

/-- The location that a path begins at. -/
def start (disk : Disk) (path : Path) : Location := if path.isAbsolute then [] else disk.here

/-- The location that a path leads to, where nothing need be. The empty path leads nowhere. -/
def locate? (disk : Disk) (path : Path) : Option Location :=
  if path.text.isEmpty then none else disk.follow? (disk.start path) path.pieces

/-- What a path leads to. -/
def find? (disk : Disk) (path : Path) : Option Entry := (disk.locate? path).bind disk.entry?

/-- Whether a path leads to a file. -/
def isFile (disk : Disk) (path : Path) : Bool := (disk.find? path).any Entry.isFile

/-- Whether a path leads to a directory. -/
def isDirectory (disk : Disk) (path : Path) : Bool := disk.find? path = some .directory

/-- The text of the file that a path leads to. -/
def read? (disk : Disk) (path : Path) : Option String :=
  match disk.find? path with
  | some (.text contents) => some contents
  | _ => none

/-- The path from the root to what a path leads to. -/
def absolute? (disk : Disk) (path : Path) : Option Path := (disk.locate? path).map Path.ofNames

/-! ## Looking around -/

/-- The files with their locations, in the order of their locations. -/
def files (disk : Disk) : List Location :=
  (disk.entries.toList.filter fun (_, entry) => entry.isFile).map (·.1)

/-- The names that lead from a path to the files at it and below it: none at all when the path
itself leads to a file. -/
def filesBelow (disk : Disk) (path : Path) : List (List String) :=
  match disk.locate? path with
  | none => []
  | some location => disk.files.filterMap fun file => location.isPrefixOf? file

/-- The files directly inside a directory whose extension is one of those given, in order. A
directory that does not exist has none. -/
def filesWithExtensions (disk : Disk) (directory : Path) (extensions : List String) :
    List Path :=
  let names := (disk.filesBelow directory).filterMap fun
    | [name] => if (Path.extensionOf? name).any (· ∈ extensions) then some name else none
    | _ => none
  Path.sort (names.map fun name => directory.join ⟨name⟩)

/-! ## Changing -/

/-- The disk with an entry put at a location. -/
def put (disk : Disk) (location : Location) (entry : Entry) : Disk :=
  { disk with entries := disk.entries.insert location entry }

/-- The disk without what is at a location. -/
def erase (disk : Disk) (location : Location) : Disk :=
  { disk with entries := disk.entries.erase location }

/-- Makes the directories on the way through pieces of a path, and says where the way ends. A
file on the way stops it. -/
def makeWay (disk : Disk) (location : Location) : List String → Disk × Option Location
  | [] => (disk, if disk.hasDirectory location then some location else none)
  | piece :: pieces =>
    if disk.hasDirectory location then
      match step? location piece with
      | none => (disk, none)
      | some next =>
        if (disk.entry? next).isNone then (disk.put next .directory).makeWay next pieces
        else disk.makeWay next pieces
    else
      (disk, none)

/-- Makes a directory and those it lies in, and says where it is. -/
def makeDirectory (disk : Disk) (path : Path) : Disk × Option Location :=
  disk.makeWay (disk.start path) path.pieces

/-- The directory that a path's last piece is looked up in. -/
def directoryOf (path : Path) : Path :=
  match path.parent? with
  | some ⟨""⟩ | none => ⟨"."⟩
  | some directory => directory

/-- The name that a path's last piece is. -/
def lastName? (path : Path) : Option String :=
  match path.pieces.getLast?.bind Path.Part.ofPiece? with
  | some (.name text) => if isName text then some text else none
  | _ => none

/-- Writes a file, in the directories that its path names, and says whether that was
possible. -/
def write (disk : Disk) (path : Path) (entry : Entry) : Disk × Bool :=
  match disk.makeDirectory (directoryOf path) with
  | (disk, none) => (disk, false)
  | (disk, some directory) =>
    match lastName? path with
    | none => (disk, false)
    | some name =>
      if disk.hasDirectory (directory ++ [name]) then (disk, false)
      else (disk.put (directory ++ [name]) entry, true)

/-- Removes the file that a path leads to, if there is one. -/
def remove? (disk : Disk) (path : Path) : Option Disk :=
  (disk.locate? path).bind fun location =>
    if (disk.entry? location).any Entry.isFile then some (disk.erase location) else none

end Disk

/-!
## Changes of a disk

What has to be done to one disk so that it becomes another (`Disk.changes`): directories are made
before what lies in them.
-/

/-- A step from one disk to another. -/
inductive Disk.Change where
  | makeDirectory (location : Location)
  | writeText (location : Location) (text : String)
  | writeBytes (location : Location) (bytes : List UInt8)
  | remove (location : Location)
  deriving DecidableEq, Repr

namespace Disk

/-- The change that puts an entry at a location. -/
def Entry.change (location : Location) : Entry → Change
  | directory => .makeDirectory location
  | text contents => .writeText location contents
  | binary bytes => .writeBytes location bytes

/-- The changes from one disk to another. Locations are gone through in order, so a directory
comes before what lies in it. -/
def changes (old new : Disk) : List Change :=
  (new.entries.toList.filterMap fun (location, entry) =>
    if old.entries[location]? = some entry then none else some (entry.change location))
  ++ (old.entries.toList.filterMap fun (location, _) =>
    if new.entries.contains location then none else some (.remove location))

end Disk

end PayloadModels
