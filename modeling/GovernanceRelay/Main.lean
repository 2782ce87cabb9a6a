import GovernanceRelay.Console

/-!
# The program

The program reads the files that its invocation may touch, carries the invocation out on them, and
then writes the files that have changed and prints what was printed. It ends with zero if the
command did not fail, with one if it did, and with two if the words ask for nothing.
-/

set_option autoImplicit false

namespace GovernanceRelay.Program

/-- What is at a path of the machine. -/
def findNode (path : String) : IO (Option Node) := do
  try
    let content ← IO.FS.readBinFile path
    return some (.file content.toList)
  catch error =>
    match error with
    | .inappropriateType _ 21 _ => return some .directory
    | _ => return none

/-- Take what is at a path of the machine, and at the paths that lead to it, to a disk. -/
def takePath (disk : Disk) (path : String) : IO Disk := do
  let (top, start) : String × Location := if Disk.isAbsolute path then ("/", ["/"]) else ("", [])
  let parts := Disk.parts path
  (List.range parts.length).foldlM (fun disk count => do
    let names := parts.take (count + 1)
    match ← findNode (top ++ "/".intercalate names) with
    | some node => return disk.place (names.foldl Disk.follow start) node
    | none => return disk) disk

/-- The files on the machine that an invocation may touch. -/
def takeFiles (invocation : Invocation) : IO Disk := do
  let disk ← takePath Disk.empty invocation.settingsPath
  let settings := match (Console.loadSettings invocation.settingsPath (Desk.ofDisk disk)).1 with
    | .ok settings => settings
    | .error _ => Settings.default
  (invocation.files (invocation.override settings)).foldlM takePath disk

/-- Write the files to the machine that are new or have a new content. -/
def putFiles (before after : Disk) : IO Unit := do
  for (path, content) in after.files do
    unless before.files.contains (path, content) do
      IO.FS.writeBinFile path content.toByteArray

/-- Carry out the words of a command line, and tell the number to end with. -/
def carryOut (words : List String) : IO UInt32 := do
  let settingsPath := (← IO.getEnv "RELAYGATE_CONFIG").getD "relaygate.toml"
  match Invocation.parse settingsPath words with
  | none =>
    IO.eprintln "Usage: relaygate [OPTIONS] <COMMAND>"
    return 2
  | some invocation =>
    let disk ← takeFiles invocation
    let (result, desk) := invocation.run (Desk.ofDisk disk)
    putFiles disk desk.disk
    IO.print desk.output
    IO.eprint desk.complaints
    match result with
    | .ok _ => return 0
    | .error failure =>
      IO.eprintln ("✗ Error: " ++ failure.message)
      return 1

end GovernanceRelay.Program

/-- The program. -/
def main (words : List String) : IO UInt32 := GovernanceRelay.Program.carryOut words
