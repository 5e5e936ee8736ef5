/-
Changing a file tree the way a file system does: paths may hold double dots,
every operation can fail, and a failure says why. Operations on the tree
return it, so that what a failed operation leaves behind is part of its
result.

Consumed by the artifact store and the command line.
-/
import SourceAtlas.Tree.Basic

namespace SourceAtlas

open Utf8 (Bytes)

/-- Why an operation on a file tree fails. -/
inductive Fault where
  | notFound
  | alreadyExists
  | notDirectory
  | isDirectory
  | denied
  | busy
  /-- A name holds a null character. -/
  | badName
  deriving DecidableEq, Repr

namespace Node

/-- The name that leads one directory up. -/
def upward : Name := ['.', '.']

-- =========================================================== replacing

/-- Puts a node at a path; directories on the way are made if need be. -/
def put : Node → List Name → Node → Node
  | _, [], node => node
  | directory entries, name :: rest, node =>
    let inner := (entries.lookup name).getD (directory [])
    directory (Table.putEntry name (inner.put rest node) entries)
  | other, _ :: _, _ => other

/-- Removes the node at a path. -/
def erase : Node → List Name → Node
  | directory entries, [name] =>
      directory (entries.filter fun entry => entry.1 != name)
  | directory entries, name :: rest =>
    match entries.lookup name with
    | some inner => directory (Table.putEntry name (inner.erase rest) entries)
    | none => directory entries
  | other, _ => other

-- ============================================================ locating

/-- Follows names from the node at `here`, double dots upwards; at the top
they lead nowhere else. -/
def locateFrom (tree : Node) : List Name → List Name → Except Fault (List Name)
  | here, [] => .ok here
  | here, name :: rest =>
    match tree.find? here with
    | some (directory entries) =>
      if name = upward then locateFrom tree here.dropLast rest
      else if (entries.lookup name).isSome
        then locateFrom tree (here ++ [name]) rest
      else .error .notFound
    | some (file _ _) => .error .notDirectory
    | some dangling => .error .notFound
    | none => .error .notFound

/-- Whether all names of a path can be names. -/
def areNames (path : List Name) : Bool :=
  path.all fun name => !name.contains '\x00'

/-- The path without double dots of an existing node. -/
def locate (tree : Node) (path : List Name) : Except Fault (List Name) :=
  if areNames path then tree.locateFrom [] path else .error .badName

/-- The node that a path leads to. -/
def stat (tree : Node) (path : List Name) : Except Fault Node := do
  let place ← tree.locate path
  match tree.find? place with
  | some node => return node
  | none => .error .notFound

/-- Whether a path leads to a directory. -/
def leadsToDirectory (tree : Node) (path : List Name) : Bool :=
  match tree.stat path with
  | .ok node => node.isDirectory
  | .error _ => false

/-- The place of the directory that holds the last name of a path, and that
name. -/
def parentPlace (tree : Node) (path : List Name) :
    Except Fault (List Name × Name) :=
  match path.getLast? with
  | none => .error .isDirectory
  | some name => do
    if !areNames path then .error .badName
    let place ← tree.locate path.dropLast
    match tree.find? place with
    | some (directory _) => return (place, name)
    | some (file _ _) => .error .notDirectory
    | _ => .error .notFound

/-- The bytes of the file that a path leads to. -/
def readBytes (tree : Node) (path : List Name) : Except Fault Bytes := do
  match ← tree.stat path with
  | file content true => return content
  | file _ false => .error .denied
  | dangling => .error .notFound
  | directory _ => .error .isDirectory

-- ========================================================= directories

/-- Makes one directory. -/
def makeDirectory (tree : Node) (path : List Name) : Except Fault Node :=
  if path.isEmpty then .error .alreadyExists
  else do
    let (place, name) ← tree.parentPlace path
    if name = upward || (tree.find? (place ++ [name])).isSome
      then .error .alreadyExists
    else return tree.put (place ++ [name]) (directory [])

/-- A failure to make a directory does not count if it is there. -/
def tolerate (tree : Node) (path : List Name) (fault : Fault) :
    Except Fault Unit :=
  if tree.leadsToDirectory path then .ok () else .error fault

/-- Makes a directory, given by its names from the last to the first, and
those above it that are missing. -/
def makeDirectoriesUp (tree : Node) : List Name → Except Fault Unit × Node
  | [] => (.ok (), tree)
  | name :: above =>
    let path := (name :: above).reverse
    match tree.makeDirectory path with
    | .ok made => (.ok (), made)
    | .error .notFound =>
      match tree.makeDirectoriesUp above with
      | (.ok _, between) =>
        match between.makeDirectory path with
        | .ok made => (.ok (), made)
        | .error fault => (between.tolerate path fault, between)
      | (.error fault, between) => (.error fault, between)
    | .error fault => (tree.tolerate path fault, tree)

/-- Makes a directory and those above it that are missing. -/
def makeDirectories (tree : Node) (path : List Name) :
    Except Fault Unit × Node :=
  tree.makeDirectoriesUp path.reverse

-- =============================================================== files

/-- Makes an empty file where nothing is. -/
def createFile (tree : Node) (path : List Name) :
    Except Fault (List Name × Node) := do
  let (place, name) ← tree.parentPlace path
  if name = upward || (tree.find? (place ++ [name])).isSome
    then .error .alreadyExists
  else return (place ++ [name], tree.put (place ++ [name]) (file [] true))

/-- Moves the file at `place` to a path, over a file that is there. -/
def rename (tree : Node) (place path : List Name) :
    Except Fault (List Name × Node) := do
  let (above, name) ← tree.parentPlace path
  if name = upward then .error .busy
  else
    let target := above ++ [name]
    match tree.find? place, tree.find? target with
    | _, some (directory _) => .error .isDirectory
    | some node, _ =>
      if place = target then return (target, tree)
      else return (target, (tree.erase place).put target node)
    | none, _ => .error .notFound

/-- Writes a file, making the directories above it. -/
def writeFile (tree : Node) (path : List Name) (node : Node) :
    Except Fault Node :=
  match tree.makeDirectories path.dropLast with
  | (.error fault, _) => .error fault
  | (.ok _, made) => do
    let (place, name) ← made.parentPlace path
    match made.find? (place ++ [name]) with
    | some (directory _) => .error .isDirectory
    | _ => return made.put (place ++ [name]) node

/-- Removes a file or a directory with everything below it. -/
def remove (tree : Node) (path : List Name) : Except Fault Node := do
  let place ← tree.locate path
  return tree.erase place

end Node

end SourceAtlas
