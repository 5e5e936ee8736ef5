/-
The program: reads the project tree that the arguments name, runs the
command on it, writes the files that the command changed, and shows its
lines. Everything decided is decided by `Cli.run`.
-/
import Std.Time.DateTime.Timestamp
import SourceAtlas.Cli.Basic

namespace SourceAtlas.Program

/-- The tree below a path of the file system. -/
partial def readTree (path : String) : IO Node := do
  let place := (← IO.currentDir) / path
  if ← place.isDir then
    let found ← place.readDir
    let entries ← found.toList.mapM fun entry => do
      let node ← readTree (path ++ "/" ++ entry.fileName)
      return (entry.fileName.toList, node)
    return .directory entries
  else if ← place.pathExists then
    try
      let content ← IO.FS.readBinFile place
      return .file content.toList true
    catch _ => return .file [] false
  else return .dangling

/-- The absolute path of what a path leads to, if it leads anywhere. -/
def realPath? (path : String) : IO (Option String) := do
  let place := (← IO.currentDir) / path
  if ← place.pathExists then
    let real ← IO.FS.realPath place
    return some real.toString
  else return none

/-- The packages that the program is built with. -/
def packages : Cli.Packages := .standard

/-- The world as far as a request can see it: its project and the working
directory. -/
def readWorld (r : Cli.Request) : IO Cli.World := do
  let here := Node.names (← IO.currentDir).toString.toList
  let now ← Std.Time.Timestamp.now
  let bare := (Node.directory []).put here (.directory [])
  let tree ← match ← realPath? (String.ofList r.root) with
    | some root => do
      let project ← readTree root
      pure (bare.put (Node.names root.toList) project)
    | none => pure bare
  return ⟨tree, here, now.toSecondsSinceUnixEpoch.val, packages⟩

/-- Writes a file, making the directories above it. -/
def writeBack (names : List Name) (content : Utf8.Bytes) : IO Unit := do
  let top := String.ofList (Cli.showPlace names.dropLast)
  IO.FS.createDirAll top
  IO.FS.writeBinFile (String.ofList (Cli.showPlace names)) ⟨content.toArray⟩

/-- Shows lines on a stream. -/
def showLines (stream : IO.FS.Stream) (lines : List Text) : IO Unit :=
  lines.forM fun line => stream.putStrLn (String.ofList line)

/-- Runs the program. -/
def run (args : List Text) : IO UInt32 := do
  let world : Cli.World ← match packages.call args with
    | .run r => readWorld r
    | _ => pure ⟨.directory [], [], 0, packages⟩
  let outcome := Cli.run world args
  (Cli.changes world.tree outcome.tree).forM fun (names, content) =>
    writeBack names content
  showLines (← IO.getStdout) outcome.output
  showLines (← IO.getStderr) outcome.errors
  return outcome.exitCode.toUInt32

end SourceAtlas.Program

/-- The entry point. -/
def main (args : List String) : IO UInt32 :=
  SourceAtlas.Program.run (args.map String.toList)
