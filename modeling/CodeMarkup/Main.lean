import CodeMarkup.Command

/-!
The program. It looks at the files that its arguments name, carries out the request on what it found
and brings the outcome into the world.
-/

namespace CodeMarkup.Program

def seconds : IO Float := do
  return (← IO.monoNanosNow).toFloat / 1.0e9

def isDirectory (path : String) : IO Bool :=
  try (← IO.FS.realPath path).isDir
  catch _ => return false

/-- The bytes of a file, if there is one to be read. -/
def bytesOf? (path : String) : IO (Option (List UInt8)) :=
  try return some (← IO.FS.readBinFile path).toList
  catch _ => return none

/-- The workspace with all that is found on the way to a path. -/
def explore (w : Workspace) (p : Path) : IO Workspace := do
  let mut w := w
  for spot in Workspace.trail [] p.steps do
    let path := Path.text ⟨if spot.head? = some "/" then "/" else "", spot.filter (· ≠ "/")⟩
    if ← isDirectory path then
      w := { w with directories := w.directories ++ [spot] }
    else if let some bytes ← bytesOf? path then
      w := { w with files := w.files.put spot bytes }
  return w

def pathsOf (args : List String) : List Path :=
  match Arguments.read args with
  | .ok a => (a.others ++ (a.value? .output).toList).map .ofText
  | .error _ => []

/-- All that can be read from the standard input. -/
partial def readStdin (input : IO.FS.Stream) (read : List UInt8) : IO (List UInt8) := do
  let bytes ← input.read 65536
  if bytes.isEmpty then return read else readStdin input (read ++ bytes.toList)

def writeFiles (before after : Workspace) : IO Unit := do
  for (spot, bytes) in before.changes after do
    let path := Path.text ⟨if spot.head? = some "/" then "/" else "", spot.filter (· ≠ "/")⟩
    IO.FS.writeBinFile path ⟨bytes.toArray⟩

end CodeMarkup.Program

open CodeMarkup in
/-- Runs the command on the files and the standard input that there are. -/
def main (args : List String) : IO UInt32 := do
  let start ← Program.seconds
  let switch ← IO.getEnv "CODEMARKUP_DEBUG_TIMING"
  let mut workspace : Workspace := {}
  let readStart ← Program.seconds
  for path in Program.pathsOf args do
    workspace ← Program.explore workspace path
  let stdin ←
    if (Program.pathsOf args).any Command.isStdin then Program.readStdin (← IO.getStdin) []
    else pure []
  let setup : Command.Setup := { workspace, stdin }
  let readEnd ← Program.seconds
  let outcome := Command.run setup args
  IO.print outcome.stdout
  let renderEnd ← Program.seconds
  Program.writeFiles workspace outcome.workspace
  let printing : Command.Printing :=
    { debug := Command.asksForDebug setup args, timing := Timing.isEnabled switch }
  let clock : Clock := { readings := [start, readStart, readEnd, readEnd, renderEnd] }
  IO.eprint (outcome.stderr printing clock)
  return outcome.exitCode.toUInt32
