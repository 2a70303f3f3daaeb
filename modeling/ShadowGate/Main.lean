import Std.Time.DateTime.Timestamp
import ShadowGate.CommandLine

/-!
# The program

Reads what a run needs, hands it to `CommandLine.run`, and writes what comes back. A store is kept
in one file of its directory.
-/

namespace ShadowGate.Program

/-- The text of a file, if it can be read. -/
def readText? (path : String) : IO (Option String) := do
  try
    return some (← IO.FS.readFile path)
  catch _ =>
    return none

/-- The disk with a file's text, if the file can be read. -/
def withFile (d : Disk) (path : String) : IO Disk := do
  match ← readText? path with
  | some text => return d.write path text
  | none => return d

/-- The paths that lead to a path, and the path itself. -/
def waysTo (path : String) : List String :=
  let parts := (Path.ofText path).parts
  (List.range parts.length).map fun n => String.intercalate "/" (parts.take (n + 1))

/-- The file in a store's directory that holds its records. -/
def recordsFile (store : String) : String := store ++ "/records.json"

/-- The disk with a store in a directory. -/
def keepStore (d : Disk) (path : String) (s : Store) : Disk :=
  match d.openStore path with
  | (.ok (place, _), d) => d.keep place s
  | (.error _, d) => d

/-- The disk with the store in a directory, if there is one. -/
def withStore (d : Disk) (path : String) : IO Disk := do
  match (← readText? (recordsFile path)).bind Json.read with
  | none => return d
  | some v =>
    match Store.ofJson? path v with
    | some s => return keepStore d path s
    | none => return d

/-- The variables of a block of names and values. -/
def variablesOf (block : String) : Environment :=
  (block.splitOn "\x00").filterMap fun entry =>
    match entry.splitOn "=" with
    | name :: value :: rest => some (name, String.intercalate "=" (value :: rest))
    | _ => none

/-- The environment of the process. -/
def readEnvironment : IO Environment := do
  return variablesOf ((← readText? "/proc/self/environ").getD "")

/-- A fresh id. -/
def freshId : IO ShadowId := do
  let bytes ← IO.getRandomBytes 16
  return ⟨BitVec.ofNat 128 (bytes.data.toList.foldl (fun n b => 256 * n + b.toNat) 0)⟩

/-- The clock's reading. -/
def readClock : IO Time := do
  return (← Std.Time.Timestamp.now).toMillisecondsSinceUnixEpoch.val

/-- The paths where the settings file may be. -/
def settingsPaths (env : Environment) : List String :=
  let path := (env.get? Settings.pathVariable).getD Settings.usualPath
  path :: (((Path.ofText path).withEnding? Settings.fileEnding).map Path.text).toList

/-- The directory of shadows that a run uses. -/
def shadowRoot (d : Disk) (env : Environment) : String :=
  match Settings.load d env with
  | .ok s => s.shadowRoot
  | .error _ => ""

/-- Everything on the disk that a run with these options looks at. -/
def readDisk (o : Options) (env : Environment) : IO Disk := do
  let d ← withFile Disk.fresh CommandLine.environmentFile
  let env := CommandLine.environment d env
  let d ← (o.proposal.toList ++ settingsPaths env).foldlM withFile d
  let d ← (waysTo o.store ++ waysTo (shadowRoot d env)).foldlM withFile d
  withStore d o.store

/-- Write the directories and the store of a run back. -/
def writeDisk (d : Disk) (path : String) : IO Unit := do
  for (place, entry) in d.entries.toList do
    if entry = .directory then
      IO.FS.createDirAll place.text
  match d.walk (Path.ofText path) with
  | .error _ => pure ()
  | .ok place =>
    match d.stores.get? place with
    | none => pure ()
    | some s => IO.FS.writeFile (recordsFile path) s.toJson.text

end ShadowGate.Program

open ShadowGate in
/-- Run the program with its arguments. -/
def main (arguments : List String) : IO UInt32 := do
  let env ← Program.readEnvironment
  let options := (({} : Options).parse arguments).toOption.getD {}
  let disk ← Program.readDisk options env
  let now ← Program.readClock
  let (outcome, disk) :=
    CommandLine.run disk env arguments (← Program.freshId) { forked := now, worked := now + 1 }
  Program.writeDisk disk options.store
  IO.eprint outcome.messages
  IO.print outcome.printed
  return UInt32.ofNat outcome.exitCode
