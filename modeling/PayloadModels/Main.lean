import Std.Time.Zoned
import PayloadModels.Command.Outcome
import PayloadModels.Command.Run
import PayloadModels.Disk.Basic
import PayloadModels.Header.Epoch

/-!
# The program

Copies the places that a command looks at from the machine into a `Disk`, runs the command on it,
and makes the changes of the disk on the machine.
-/

namespace PayloadModels.Machine

/-- The directory that relative paths begin at. -/
def here : IO Location := do
  let path : Path := ⟨(← IO.currentDir).toString⟩
  return path.pieces.filter fun piece => !piece.isEmpty

/-- The path of a location. -/
def pathOf (location : Location) : String := (Path.ofNames location).text

/-- Whether there is a directory at a location. -/
def isDirectory (location : Location) : IO Bool := do
  ((← IO.currentDir) / pathOf location).isDir

/-- The names in a directory, none if it cannot be read. -/
def namesIn (location : Location) : IO (List String) := do
  try
    let entries ← ((← IO.currentDir) / pathOf location).readDir
    return entries.toList.map (·.fileName)
  catch _ => return []

/-- What is at a location. A file that cannot be read counts as one whose bytes are no text. -/
def entryAt? (location : Location) : IO (Option Disk.Entry) := do
  if ← isDirectory location then return some .directory
  if !(← ((← IO.currentDir) / pathOf location).pathExists) then return none
  try
    let bytes ← IO.FS.readBinFile (pathOf location)
    return some ((String.fromUTF8? bytes).elim (.binary bytes.toList) .text)
  catch _ => return some (.binary [])

/-- Copies what is at a location, and what lies below it down to a level. A directory that is one
of those `above` it again, through a link, is left out. -/
def copy (disk : Disk) (above : List String) (location : Location) : Nat → IO Disk
  | 0 => return disk
  | levels + 1 => do
    match ← entryAt? location with
    | none => return disk
    | some .directory =>
      let real := (← IO.FS.realPath (pathOf location)).toString
      if real ∈ above then return disk
      let mut disk := disk.put location .directory
      for name in ← namesIn location do
        disk ← copy disk (real :: above) (location ++ [name]) levels
      return disk
    | some entry => return disk.put location entry

/-- Copies what the pieces of a path lead to, and the directories on the way. -/
def copyAlong (disk : Disk) (location : Location) (levels : Nat) : List String → IO Disk
  | [] => copy disk [] location levels
  | piece :: pieces => do
    let disk ← copy disk [] location 1
    match Disk.step? location piece with
    | none => return disk
    | some next =>
      if ← isDirectory location then copyAlong disk next levels pieces else return disk

/-- The levels of directories that are gone down into, more than a file system has. -/
def deepest : Nat := 64

/-- Copies a place. -/
def copyPlace (disk : Disk) (place : Place) : IO Disk :=
  copyAlong disk (disk.start place.path) (if place.isDeep then deepest else 2) place.path.pieces

/-- Makes a change. A file is written under another name first, so that nobody sees half of it. -/
def perform : Disk.Change → IO Unit
  | .makeDirectory location => IO.FS.createDirAll (pathOf location)
  | .writeText location text => do
    let draft := pathOf location ++ ".modelsync-draft"
    IO.FS.writeFile draft text
    IO.FS.rename draft (pathOf location)
  | .writeBytes location bytes => IO.FS.writeBinFile (pathOf location) ⟨bytes.toArray⟩
  | .remove location => IO.FS.removeFile (pathOf location)

/-- The location that a change is about. -/
def placeOf : Disk.Change → Location
  | .makeDirectory location | .writeText location _ | .writeBytes location _
  | .remove location => location

/-- Makes changes, up to the first that fails. -/
def performAll : List Disk.Change → IO (Except Error Unit)
  | [] => return .ok ()
  | change :: changes => do
    match ← (perform change).toBaseIO with
    | .ok () => performAll changes
    | .error cause => return .error (.fileUnwritable (pathOf (placeOf change)) (toString cause))

/-- Today's date, which the environment can fix. -/
def today : IO Date := do
  match (← IO.getEnv "SOURCE_DATE_EPOCH").bind Date.ofEpochText? with
  | some date => return date
  | none =>
    let now ← Std.Time.PlainDate.now
    return ⟨now.year.toInt, now.month.val.toNat, now.day.val.toNat⟩

/-- Runs a command, and says what it printed or why it failed. -/
def run (invocation : Invocation) : IO Printed := do
  let colored := (← (← IO.getStdout).isTty) && (← IO.getEnv "NO_COLOR").isNone
  let blank := Disk.startingAt (← here)
  let config := invocation.configPath?.toList.map fun path => ⟨path, false⟩
  let withConfig ← config.foldlM copyPlace blank
  let disk ← (invocation.scope withConfig).foldlM copyPlace withConfig
  let (after, printed) := invocation.run disk ⟨← today, colored⟩
  match ← performAll (disk.changes after) with
  | .ok () => return printed
  | .error error => return .error error

/-- The outcome of the program for the words of a command line. -/
def outcome (words : List String) : IO Outcome := do
  match CommandLine.parse (← IO.getEnv "MODELSYNC_CONFIG") words with
  | .error usage => return .ofUsage usage
  | .ok invocation => return .ofPrinted (← run invocation)

/-- Prints an outcome. -/
def report (outcome : Outcome) : IO Unit := do
  for line in outcome.output do IO.println line
  for line in outcome.complaints do IO.eprintln line

end PayloadModels.Machine

/-- The program: its arguments are the words of the command line. -/
def main (words : List String) : IO UInt32 := do
  let outcome ← PayloadModels.Machine.outcome words
  PayloadModels.Machine.report outcome
  return outcome.code.toUInt32
