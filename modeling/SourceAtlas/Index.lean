/-
The code index of a run and its document. Four maps are collected: concepts with
the files that show them, entry points with the places that declare them, files
with the names they export, and types with the places that declare them. They
share the order of `Table`: a key keeps the place where it first appeared. The
document lists the concepts in their order and the other three by key.

Consumed by extraction, which fills the maps, by the run, which prunes them to
the files surveyed, and by the command line.
-/
import SourceAtlas.Json.Writer
import SourceAtlas.Project.Profile
import SourceAtlas.SourceFile
import SourceAtlas.Table

namespace SourceAtlas

-- ============================================================ concepts

-- For every concept the files in order of discovery, without duplicates and no
-- more than a limit.

/-- Concept names with their files, at most `limit` each. -/
structure ConceptMap where
  limit : Int
  files : Table (List Text)
  deriving DecidableEq, Repr

namespace ConceptMap

/-- No concepts yet. -/
def empty (limit : Int) : ConceptMap := ⟨limit, .empty⟩

/-- One more file for a list of at most `limit` distinct files. -/
def addFile (limit : Int) (files : List Text) (file : Text) : List Text :=
  if files.contains file || limit ≤ files.length then files else files ++ [file]

/-- Records that a file shows a concept. The concept gets its place in the
order even if the limit leaves no room for the file. -/
def add (m : ConceptMap) (concept file : Text) : ConceptMap :=
  { m with files :=
      m.files.put concept (addFile m.limit
        ((m.files.get? concept).getD []) file) }

/-- Records everything that `other` holds, in its order. -/
def merge (m other : ConceptMap) : ConceptMap :=
  other.files.entries.foldl
    (fun acc (concept, files) =>
      files.foldl (fun acc file => acc.add concept file) acc) m

/-- The concepts that have a file. -/
def shown (m : ConceptMap) : Table (List Text) :=
  m.files.filter fun _ files => !files.isEmpty

/-- How many concepts have a file. -/
def size (m : ConceptMap) : Nat := m.shown.size

/-- Drops the files outside `known`; the concepts keep their places. -/
def prune (m : ConceptMap) (known : List Text) : ConceptMap :=
  { m with files := m.files.map fun files => files.filter known.contains }

end ConceptMap

-- ======================================================== entry points

-- Request method and route with the place that declares them; the last
-- declaration of a key wins.

/-- A request method and a route, declared at a location. -/
structure EntryPoint where
  method : Text
  route : Text
  location : Location
  deriving DecidableEq, Repr

/-- Method and route with a space between them. -/
def EntryPoint.key (e : EntryPoint) : Text := e.method ++ ' ' :: e.route

/-- Route keys with their locations. -/
structure EntryPointMap where
  locations : Table Location
  deriving DecidableEq, Repr

namespace EntryPointMap

/-- No entry points yet. -/
def empty : EntryPointMap := ⟨.empty⟩

/-- Records an entry point over an earlier one of the same key. -/
def add (m : EntryPointMap) (e : EntryPoint) : EntryPointMap :=
  ⟨m.locations.put e.key e.location⟩

/-- The entry points of a list, in order. -/
def ofList (entries : List EntryPoint) : EntryPointMap :=
  entries.foldl add empty

/-- Records everything that `other` holds. -/
def merge (m other : EntryPointMap) : EntryPointMap :=
  ⟨m.locations.merge other.locations⟩

/-- How many keys there are. -/
def size (m : EntryPointMap) : Nat := m.locations.size

/-- Drops what lies outside the `known` files. -/
def prune (m : EntryPointMap) (known : List Text) : EntryPointMap :=
  ⟨m.locations.filter fun _ location => known.contains location.file⟩

end EntryPointMap

-- ============================================================= exports

-- For every file the sorted set of the names that it makes public. A file
-- without symbols has no entry.

/-- Files with the strictly increasing list of their symbols. -/
structure ExportMap where
  symbols : Table (List Text)
  deriving DecidableEq, Repr

namespace ExportMap

/-- No exports yet. -/
def empty : ExportMap := ⟨.empty⟩

/-- Adds the non-empty symbols to those of a file. -/
def add (m : ExportMap) (file : Text) (symbols : List Text) : ExportMap :=
  match Ordered.insertAll (symbols.filter fun s => !s.isEmpty)
      (Ordered.ofList ((m.symbols.get? file).getD [])) with
  | [] => m
  | merged => ⟨m.symbols.put file merged⟩

/-- Adds everything that `other` holds. -/
def merge (m other : ExportMap) : ExportMap :=
  other.symbols.entries.foldl
    (fun acc (file, symbols) => acc.add file symbols) m

/-- How many files have symbols. -/
def size (m : ExportMap) : Nat := m.symbols.size

/-- Drops what lies outside the `known` files. -/
def prune (m : ExportMap) (known : List Text) : ExportMap :=
  ⟨m.symbols.filter fun file _ => known.contains file⟩

end ExportMap

-- =============================================================== types

-- The name of a type with the place that declares it; the last declaration of a
-- name wins.

/-- Type names with their locations. -/
structure TypeMap where
  locations : Table Location
  deriving DecidableEq, Repr

namespace TypeMap

/-- No types yet. -/
def empty : TypeMap := ⟨.empty⟩

/-- Records a declaration over an earlier one of the same name. -/
def add (m : TypeMap) (name : Text) (location : Location) : TypeMap :=
  ⟨m.locations.put name location⟩

/-- Records everything that `other` holds. -/
def merge (m other : TypeMap) : TypeMap := ⟨m.locations.merge other.locations⟩

/-- How many names there are. -/
def size (m : TypeMap) : Nat := m.locations.size

/-- Drops what lies outside the `known` files. -/
def prune (m : TypeMap) (known : List Text) : TypeMap :=
  ⟨m.locations.filter fun _ location => known.contains location.file⟩

end TypeMap

-- =========================================================== the index

/-- What one run collects over a project. -/
structure CodeIndex where
  project : Project
  generated : Int
  concepts : ConceptMap
  entryPoints : EntryPointMap := .empty
  exports : ExportMap := .empty
  types : TypeMap := .empty
  deriving DecidableEq, Repr

/-- Drops every reference to a file outside `known`. -/
def CodeIndex.prune (index : CodeIndex) (known : List Text) : CodeIndex :=
  { index with
    concepts := index.concepts.prune known
    entryPoints := index.entryPoints.prune known
    exports := index.exports.prune known
    types := index.types.prune known }

-- ======================================================== the document

/-- The version of the document's layout. -/
def indexVersion : Text := "1.0"

/-- A list of texts. -/
def Json.texts (items : List Text) : Json := .array (items.map .string)

/-- Locations by key. -/
def locationsByKey (t : Table Location) : Json :=
  .object (t.sorted.map fun (key, location) => (key, .string location.text))

/-- The document of an index. -/
def CodeIndex.document (index : CodeIndex) : Json :=
  .object [
    ("version", .string indexVersion),
    ("generated", .integer index.generated),
    ("project_type", .string index.project.kind),
    ("profile", .string index.project.profile.text),
    ("framework", .string index.project.framework.text),
    ("concepts", .object
      (index.concepts.shown.entries.map fun (c, files) => (c, .texts files))),
    ("entry_points", locationsByKey index.entryPoints.locations),
    ("exports", .object (index.exports.symbols.sorted.map fun (f, names) =>
      (f, .texts names))),
    ("types", locationsByKey index.types.locations)]

/-- The text of the index document. -/
def CodeIndex.render (index : CodeIndex) : Text := index.document.write

end SourceAtlas
