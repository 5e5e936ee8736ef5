/-
File trees: a directory holds named entries, each a file, a dangling entry
that leads nowhere, or a directory again. Paths inside a tree are lists of
entry names.

Not everything that a file system can hold is such a tree. Left out are links
to directories, so that no path leads into a directory twice; directories that
cannot be listed or searched; and names that are no Unicode text or that are
too long for a file system. What is said of every tree is said of none of
those.

Consumed by everything that looks at or changes files.
-/
import SourceAtlas.Table
import SourceAtlas.Text.Utf8

namespace SourceAtlas

open Utf8 (Bytes)

/-- The name of a directory entry. -/
abbrev Name := Text

/-- An entry of a file tree. -/
inductive Node where
  /-- A regular file, with its content and whether it can be opened. -/
  | file (content : Bytes) (readable : Bool)
  /-- An entry that leads nowhere: neither a file nor a directory. -/
  | dangling
  /-- A directory. -/
  | directory (entries : List (Name × Node))

namespace Node

instance : Inhabited Node := ⟨.directory []⟩

/-- Whether the entry is a regular file. -/
def isFile : Node → Bool
  | file .. => true
  | _ => false

/-- Whether the entry is a directory. -/
def isDirectory : Node → Bool
  | directory _ => true
  | _ => false

/-- The entries of a directory; other nodes have none. -/
def entries : Node → List (Name × Node)
  | directory entries => entries
  | _ => []

/-- The node at a path. -/
def find? : Node → List Name → Option Node
  | node, [] => some node
  | directory entries, name :: rest => (entries.lookup name).bind (·.find? rest)
  | _, _ :: _ => none

/-- Whether there is a regular file at a path. -/
def fileAt (tree : Node) (path : List Name) : Bool :=
  (tree.find? path).any isFile

/-- Whether there is a directory at a path. -/
def directoryAt (tree : Node) (path : List Name) : Bool :=
  (tree.find? path).any isDirectory

/-- The names of a path that is written with slashes; empty names and dots
name nothing. -/
def names (path : Text) : List Name :=
  (Text.split '/' path).filter fun part => !part.isEmpty && part != ['.']

-- ============================================================= reading

/-- The bytes of a file that can be opened. -/
def bytes? : Node → Option Bytes
  | file content true => some content
  | _ => none

/-- The bytes of the file at a path, if it can be opened. -/
def bytesAt? (tree : Node) (path : List Name) : Option Bytes :=
  (tree.find? path).bind bytes?

/-- The text of some bytes as source files are read: invalid bytes dropped,
every line end a line feed. -/
def sourceText (content : Bytes) : Text :=
  Text.normalizeNewlines (Utf8.decodeLenient content)

/-- The text of the file at a path, if it can be opened. -/
def textAt? (tree : Node) (path : List Name) : Option Text :=
  (tree.bytesAt? path).map sourceText

-- ============================================================= walking

/-- The path of an entry of a directory; the top directory has an empty
path. -/
def entryPath (dir : Text) (name : Name) : Text :=
  if dir.isEmpty then name else dir ++ '/' :: name

mutual

/-- The paths of the entries that are no directories in the node called
`name` below `dir`. A directory is entered if `enter` says so of its path
and its name. -/
def walkNode (enter : Text → Name → Bool) (dir : Text) (name : Name) :
    Node → List Text
  | directory inner =>
    if enter (entryPath dir name) name
      then walkEntries enter (entryPath dir name) inner else []
  | file _ _ => [entryPath dir name]
  | dangling => [entryPath dir name]

/-- The paths that `walkNode` gives for each of the entries below `dir`. -/
def walkEntries (enter : Text → Name → Bool) (dir : Text) :
    List (Name × Node) → List Text
  | [] => []
  | (name, node) :: rest =>
      walkNode enter dir name node ++ walkEntries enter dir rest

end

/-- The paths of all entries below a directory that are no directories
themselves and can be reached through the directories entered. -/
def walk (enter : Text → Name → Bool) (tree : Node) : List Text :=
  walkEntries enter [] tree.entries

end Node

end SourceAtlas
