/-
The freshness snapshot: a digest of the names at the project root and one of
each configuration file, so that a reader can tell whether the artifacts are
out of date.

Consumed by the command line.
-/
import SourceAtlas.Digest
import SourceAtlas.Json.Writer
import SourceAtlas.Path
import SourceAtlas.Tree.Edit

namespace SourceAtlas

/-- A snapshot of a project. -/
structure Snapshot where
  generated : Int
  structureHash : Text
  configHashes : List (Text × Text)
  deriving DecidableEq, Repr

namespace Snapshot

/-- The configuration files that are recorded. -/
def configFiles : List String :=
  ["package.json", "tsconfig.json", "pyproject.toml", "setup.py", "setup.cfg",
    "requirements.txt", "Cargo.toml", "go.mod"]

/-- The names at the root in increasing order, one a line, directories with a
slash; ignored names are left out. -/
def listing (entries : List (Name × Node)) (ignore : List Name) : Text :=
  let kept :=
    entries.filter fun (name, _) => name != ".git".toList
      && !ignore.contains name
  let sorted := Ordered.sortBy (fun a b => Text.le a.1 b.1) kept
  Text.join ['\n'] (sorted.map fun (name, node) => if node.isDirectory
    then name ++ ['/'] else name)

/-- The digest of the names at the root. -/
def hashOfStructure (entries : List (Name × Node)) (ignore : List Name) :
    Text :=
  Digest.sha256 (Utf8.encode (listing entries ignore))

/-- The digests of the configuration files that can be opened. -/
def hashesOfConfig (root : Node) : List (Text × Text) :=
  configFiles.filterMap fun name =>
    (root.bytesAt? [name.toList]).map fun content =>
      (name.toList, Digest.sha256 content)

/-- Why there is no snapshot. -/
inductive BuildError where
  /-- The output directory is a relative path without parts. -/
  | noOutputName
  /-- The root is no directory. -/
  | fault (f : Fault)
  deriving DecidableEq, Repr

/-- What the digest of the root ignores: the first part of a relative output
directory. -/
def ignored (outputDir : Text) : Except BuildError (List Name) :=
  let path := PlainPath.ofText outputDir
  if outputDir.isEmpty || path.isAbsolute then .ok []
  else match path.parts with
    | [] => .error .noOutputName
    | first :: _ => .ok [first]

/-- The entries of a root that has to be a directory. -/
def rootEntries : Except Fault Node → Except BuildError (List (Name × Node))
  | .ok (.directory entries) => .ok entries
  | .ok (.file _ _) => .error (.fault .notDirectory)
  | .ok .dangling => .error (.fault .notFound)
  | .error fault => .error (.fault fault)

/-- The snapshot of a project. -/
def build (root : Except Fault Node) (outputDir : Text) (generated : Int) :
    Except BuildError Snapshot := do
  let ignore ← ignored outputDir
  let entries ← rootEntries root
  return ⟨generated, hashOfStructure entries ignore,
    hashesOfConfig (.directory entries)⟩

/-- The snapshot as a document. -/
def document (s : Snapshot) : Json :=
  .object [
    ("generated", .integer s.generated),
    ("structure_hash", .string s.structureHash),
    ("config_hashes", .object
      (s.configHashes.map fun (name, hash) => (name, .string hash)))]

end Snapshot

end SourceAtlas
