/-
The commands as functions of a file tree: given the tree, the working
directory, the clock and the arguments, they give the lines shown, the exit
code and the tree that is left.

What reads an argument list, what shows a markup text and what reads a
settings document are packages, and part of the world that a command runs in.
What is said of commands is said for any of them; `Packages.standard` has those
that the program is built with.

Consumed by the program, which reads and writes a real file system.
-/
import SourceAtlas.Artifact.Store
import SourceAtlas.Cli.Args
import SourceAtlas.Cli.Report
import SourceAtlas.Failure
import SourceAtlas.Index

namespace SourceAtlas.Cli

open Console (MarkupError)

/-- The packages that a command relies on. -/
structure Packages extends Host where
  /-- What an argument list asks for. -/
  call : List Text → Call
  /-- Shows a markup text. -/
  render : Renderer

/-- The packages that the program is built with. -/
def Packages.standard : Packages :=
  { Host.standard with call := Cli.call, render := Console.render }

/-- Where a command runs: the file system from its top, the working
directory, the time, and the packages. -/
structure World where
  tree : Node
  here : List Name
  clock : Int
  packages : Packages

/-- How a command ends: its exit code, the lines on the two output streams,
the failure that ended it without a line, and the tree that is left. -/
structure Outcome where
  exitCode : Nat
  output : List Text := []
  errors : List Text := []
  failure : Option Failure := none
  tree : Node

/-- The name of the index artifact. -/
def indexFile : Text := "code-index.json"

/-- The name of the snapshot artifact. -/
def snapshotFile : Text := "snapshot.json"

/-- The line of the version option. -/
def versionLine : Text := "codectx v0.1.0"

-- ======================================================== project roots

/-- The names that lead to a path given on the command line. -/
def World.names (w : World) (path : Text) : List Name :=
  (PlainPath.ofText path).fromTop w.here

/-- The project directory that a path leads to, with its place. -/
def World.project? (w : World) (root : Text) :
    Except Failure (List Name × Node) :=
  match w.tree.locate (w.names root) with
  | .ok place =>
    match w.tree.find? place with
    | some (.directory entries) => .ok (place, .directory entries)
    | _ => .error (.badRoot (PlainPath.ofText root).text)
  | .error _ => .error (.badRoot (PlainPath.ofText root).text)

/-- How a place is shown. -/
def showPlace (place : List Name) : Text := '/' :: Text.join ['/'] place

/-- The settings for a request. -/
def settingsFor (host : Host) (r : Request) (project : Node) :
    Except Failure Settings := do
  let loaded ← (Settings.load host project).mapError .settings
  return loaded.override r.outputDir r.conceptLimit r.workers

/-- Runs over the project of a request. -/
def runFor (w : World) (r : Request) (wantIndex wantGraph : Bool) :
    Except Failure (Settings × RunResult) := do
  let (place, project) ← w.project? r.root
  let settings ← settingsFor w.packages.toHost r project
  let plan ← (Run.plan w.packages.toHost project (some settings)).mapError
    (.ofRun (showPlace place))
  let result ← (Run.execute plan w.clock wantIndex wantGraph).mapError
    (.ofRun (showPlace place))
  return (settings, result)

-- =========================================================== artifacts

/-- An artifact to be written. -/
structure Artifact where
  name : Text
  content : Text
  deriving DecidableEq, Repr

/-- Writes artifacts one after the other until one fails. -/
def writeAll (s : Store) : List Artifact → Node → Except Failure Unit × Node
  | [], tree => (.ok (), tree)
  | a :: rest, tree =>
    match s.write tree a.name a.content with
    | (.ok _, left) => writeAll s rest left
    | (.error fault, left) => (.error (.fault fault), left)

/-- Writes the snapshot of the tree as it is by then. -/
def writeSnapshot (w : World) (s : Store) (root outputDir : Text)
    (tree : Node) : Except Failure Unit × Node :=
  match Snapshot.build (tree.stat (w.names root)) outputDir w.clock with
  | .error e => (.error (.snapshot e), tree)
  | .ok snapshot => writeAll s [⟨snapshotFile, snapshot.document.write⟩] tree

/-- How the path of an artifact is shown. -/
def shownPath (root outputDir name : Text) : Text :=
  (((PlainPath.ofText root).join (.ofText outputDir)).join (.ofText name)).text

/-- The outcome of a failure. A message that cannot be shown is a failure of
its own. -/
def failed (render : Renderer) (tree : Node) (f : Failure) : Outcome :=
  match f.message?.map (complaint render) with
  | some (.ok lines) => ⟨f.exitCode, [], lines, none, tree⟩
  | some (.error e) => ⟨1, [], [], some (.markup e), tree⟩
  | none => ⟨1, [], [], some f, tree⟩

/-- The outcome of a command that has done its work and shows its lines. -/
def shown (render : Renderer) (tree : Node) :
    Except MarkupError (List Text) → Outcome
  | .ok lines => ⟨0, lines, [], none, tree⟩
  | .error e => failed render tree (.markup e)

/-- Writes the artifacts of a finished run and then the snapshot. -/
def finish (w : World) (r : Request) (settings : Settings)
    (artifacts : List Artifact) (lines : Except MarkupError (List Text)) :
    Outcome :=
  let store := Store.ofProject (w.names r.root) settings.outputDir
  match writeAll store artifacts w.tree with
  | (.error f, left) => failed w.packages.render left f
  | (.ok _, left) =>
    match writeSnapshot w store r.root settings.outputDir left with
    | (.error f, left) => failed w.packages.render left f
    | (.ok _, left) => shown w.packages.render left lines

-- ============================================================ commands

/-- The artifact and the summary of an index. -/
def indexParts (render : Renderer) (r : Request) (s : Settings)
    (result : RunResult) : List Artifact × Except MarkupError (List Text) :=
  match result.index with
  | none => ([], .ok [])
  | some index =>
    ([⟨indexFile, index.render⟩],
      indexSummary render index (shownPath r.root s.outputDir indexFile))

/-- The artifact and the summary of a graph. -/
def graphParts (render : Renderer) (r : Request) (s : Settings)
    (format : GraphFormat) (result : RunResult) :
    List Artifact × Except MarkupError (List Text) :=
  match result.graph with
  | none => ([], .ok [])
  | some graph =>
    ([⟨format.fileName, graph.render format⟩],
      graphSummary render graph (shownPath r.root s.outputDir format.fileName))

/-- Writes what a run of the request gives. -/
def build (w : World) (r : Request) (wantIndex wantGraph : Bool)
    (format : GraphFormat) : Outcome :=
  match runFor w r wantIndex wantGraph with
  | .error f => failed w.packages.render w.tree f
  | .ok (settings, result) =>
    let (indexArtifacts, indexLines) :=
      indexParts w.packages.render r settings result
    let (graphArtifacts, graphLines) :=
      graphParts w.packages.render r settings format result
    finish w r settings (indexArtifacts ++ graphArtifacts) do
      return (← indexLines) ++ (← graphLines)

/-- Shows the profile of a project. -/
def showProfile (w : World) (r : Request) : Outcome :=
  let render := w.packages.render
  match w.project? r.root with
  | .error f => failed render w.tree f
  | .ok (_, project) =>
    match Project.detect w.packages.manifestDepth project with
    | .error e => failed render w.tree (.detect e)
    | .ok p => shown render w.tree (profileLines render p)

/-- Carries out a request. The format is looked at before the root. -/
def perform (w : World) (r : Request) : Outcome :=
  match r.command with
  | .detect => showProfile w r
  | .index => build w r true false .mermaid
  | command =>
    match GraphFormat.ofText? r.format with
    | none => failed w.packages.render w.tree (.unknownFormat r.format)
    | some format => build w r (command == .all) true format

/-- Runs the program on an argument list. -/
def run (w : World) (args : List Text) : Outcome :=
  match w.packages.call args with
  | .misuse => ⟨2, [], [], none, w.tree⟩
  | .help => ⟨0, [], [], none, w.tree⟩
  | .version => ⟨0, [versionLine], [], none, w.tree⟩
  | .run r => perform w r

/-- The files of a tree that another one does not have with the same
content. -/
def changes (before after : Node) : List (List Name × Utf8.Bytes) :=
  (after.walk fun _ _ => true).filterMap fun path =>
    let names := Path.components path
    match after.bytesAt? names with
    | some content =>
        if before.bytesAt? names = some content then none
        else some (names, content)
    | none => none

end SourceAtlas.Cli
