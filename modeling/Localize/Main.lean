import Localize.CommandLine.Lookups
import Localize.Shell.Execution

/-! The program itself: it captures the files that the command looks at, carries the command out on
them, and writes back what has changed. -/

namespace Localize.CommandLine

/-- A place that is there but is no file is a directory. -/
def capture (tree : FileTree) (p : Path) : IO FileTree := do
  let mut tree := tree
  for (location, station) in p.stations do
    if (tree.node? location).isNone then
      match ← (IO.FS.readBinFile (String.ofList station.spelled)).toBaseIO with
      | .ok bytes => tree := tree.put location (.file bytes)
      | .error (.inappropriateType ..) => tree := tree.put location .directory
      | .error (.permissionDenied ..) => return tree.close location .permissionDenied
      | .error _ => return tree
  return tree

partial def readAll (stream : IO.FS.Stream) (bytes : ByteArray) : IO ByteArray := do
  let more ← stream.read 65536
  if more.isEmpty then return bytes
  readAll stream (bytes ++ more)

def writeBack (old new : FileTree) : IO Unit := do
  for (location, bytes) in new.newFiles old do
    IO.FS.writeBinFile (String.ofList ('/' :: Path.joinSegments location)) bytes

/-- The expressions of a configuration are not as large as an engine allows them to be. -/
def engine : Engine := fun _ => .ok ()

def perform (arguments : List Text) : IO UInt32 := do
  let directory := Path.ofString (← IO.currentDir).toString
  let input ← if readsInput arguments then readAll (← IO.getStdin) .empty else pure .empty
  let start : Start := { arguments, directory, input }
  let mut tree ← capture .empty directory
  for _ in List.range lookupRounds do
    for p in lookups Shell.launch start tree do
      tree ← capture tree p
  match execute engine Shell.launch start tree with
  | .error e =>
    (← IO.getStderr).putStrLn (String.ofList ("error: ".toList ++ e.message))
    return 2
  | .ok completion =>
    writeBack tree completion.tree
    let asked := (← IO.getEnv "AUTOTRANSLATE_LOG").map String.toList
    let log := (Log.Filter.choose asked completion.verbose).text completion.events
    (← IO.getStderr).putStr (String.ofList (log ++ Console.paint false completion.errors))
    (← IO.getStdout).putStr (String.ofList (Console.paint false completion.output))
    return completion.status.code.toUInt32

end Localize.CommandLine

def main (arguments : List String) : IO UInt32 :=
  Localize.CommandLine.perform (arguments.map String.toList)
