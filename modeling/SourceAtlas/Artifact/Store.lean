/-
The artifact store: named texts in one directory, replaced whole. A write
makes the directory, makes a temporary file in it, fills that, and moves it
over the artifact:

- a failure to make the directory or the temporary file changes no file;
- a failure after that removes the temporary file again;
- success leaves the artifact with the new content and nothing else.

What can go wrong besides the state of the tree is given by an interruption:
the stage that it strikes and how far that stage had got.

Consumed by the command line.
-/
import SourceAtlas.Path
import SourceAtlas.Tree.Edit

namespace SourceAtlas

open Utf8 (Bytes)

/-- The stages of a write. -/
inductive Stage where
  | makeDirectory
  | createTemporary
  | fillTemporary
  | replaceArtifact
  deriving DecidableEq, Repr

/-- A failure from outside: the stage that it strikes, the fault, and how many
directories or bytes of that stage were done before. -/
structure Interruption where
  stage : Stage
  fault : Fault
  progress : Nat
  deriving DecidableEq, Repr

/-- A store: the names that lead to its directory from the top of the file
system. -/
structure Store where
  directory : List Name
  deriving DecidableEq, Repr

namespace Store

/-- The store in the output directory of a project at `root`. -/
def ofProject (root : List Name) (outputDir : Text) : Store :=
  ⟨(PlainPath.ofText outputDir).fromTop root⟩

/-- The path of an artifact. -/
def artifactPath (s : Store) (name : Text) : List Name :=
  (PlainPath.ofText name).fromTop s.directory

/-- The name of the temporary file with a number. -/
def temporaryName (name : Text) (n : Nat) : Text :=
  '.' :: name ++ '.' :: Text.ofNat n ++ ".tmp".toList

/-- The path of a temporary file. -/
def temporaryPath (s : Store) (name : Text) (n : Nat) : List Name :=
  s.directory ++ Node.names (temporaryName name n)

/-- Whether nothing is at a path. -/
def isFree (tree : Node) (path : List Name) : Bool :=
  match tree.stat path with
  | .error .notFound => true
  | _ => false

/-- How many entries the directory of a temporary file holds. -/
def crowd (tree : Node) (path : List Name) : Nat :=
  match tree.stat path.dropLast with
  | .ok node => node.entries.length
  | .error _ => 0

/-- The path of a temporary file that is not there yet: among one more number
than there are entries, one is free. -/
def freshPath (s : Store) (tree : Node) (name : Text) : List Name :=
  let tries :=
    (List.range (crowd tree (s.temporaryPath name 0) + 1)).map
      (s.temporaryPath name)
  (tries.find? (isFree tree)).getD (s.temporaryPath name 0)

/-- The interruption, if it strikes a stage. -/
def strikes (i : Option Interruption) (stage : Stage) : Option Interruption :=
  i.filter (·.stage == stage)

/-- Fills a temporary file and moves it over the artifact. On failure the
temporary file is removed. -/
def replace (s : Store) (tree : Node) (name : Text) (content : Bytes)
    (temporary : List Name) (i : Option Interruption) :
    Except Fault (List Name) × Node :=
  match strikes i .fillTemporary with
  | some struck =>
    let half := tree.put temporary (.file (content.take struck.progress) true)
    (.error struck.fault, half.erase temporary)
  | none =>
    let filled := tree.put temporary (.file content true)
    match strikes i .replaceArtifact with
    | some struck => (.error struck.fault, filled.erase temporary)
    | none =>
      match filled.rename temporary (s.artifactPath name) with
      | .ok (place, done) => (.ok place, done)
      | .error fault => (.error fault, filled.erase temporary)

/-- Replaces an artifact, with an interruption or without. Gives the place of
the artifact, or the fault, and the tree that is left. -/
def writeWith (i : Option Interruption) (s : Store) (tree : Node)
    (name content : Text) : Except Fault (List Name) × Node :=
  match strikes i .makeDirectory with
  | some struck =>
      (.error struck.fault,
        (tree.makeDirectories (s.directory.take struck.progress)).2)
  | none =>
    match tree.makeDirectories s.directory with
    | (.error fault, left) => (.error fault, left)
    | (.ok _, made) =>
      match strikes i .createTemporary with
      | some struck => (.error struck.fault, made)
      | none =>
        match made.createFile (s.freshPath made name) with
        | .error fault => (.error fault, made)
        | .ok (temporary, created) =>
          s.replace created name (Utf8.encode content) temporary i

/-- Replaces an artifact. -/
def write (s : Store) (tree : Node) (name content : Text) :
    Except Fault (List Name) × Node :=
  s.writeWith none tree name content

end Store

end SourceAtlas
