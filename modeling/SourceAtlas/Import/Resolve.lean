/-
Resolving import specifiers to files of the project, or to package
directories in Go. Resolution tries an ordered list of candidate paths; a
candidate counts if its clean form names a regular file. What resolves to
nothing is external.

Consumed by extraction.
-/
import SourceAtlas.Import.Alias
import SourceAtlas.Import.Specifier
import SourceAtlas.SourceFile
import SourceAtlas.Tree.Basic

namespace SourceAtlas.Import

/-- The first candidate whose clean form names a regular file. -/
def firstExisting (root : Node) (candidates : List Text) : Option Text :=
  candidates.findSome? fun candidate =>
    (Path.clean? candidate).filter fun path =>
      root.fileAt (Path.components path)

-- ============================================================= scripts

/-- Extensions tried after a path without one. -/
def triedExtensions : List Text :=
  [".ts", ".tsx", ".js", ".jsx", ".mjs", ".cjs"].map String.toList

/-- Extensions that a typed source may stand behind. -/
def runtimeExtensions : List Text :=
  [".js", ".jsx", ".mjs", ".cjs"].map String.toList

/-- The paths tried for a base: itself, with each extension, as a directory
with an index file, and with a typed extension in place of a run-time one. -/
def candidates (base : Text) : List Text :=
  let (stem, ext) := Path.splitExtension base
  base :: triedExtensions.map (base ++ ·)
    ++ triedExtensions.map (fun e => base ++ "/index".toList ++ e)
    ++ if runtimeExtensions.contains ext
      then Language.typedExtensions.map (stem ++ ·) else []

/-- The bases of a specifier: relative to the file if it starts with a dot,
otherwise the expansions of the first alias that has any. -/
def bases (aliases : List Alias) (f : SourceFile) (specifier : Text) :
    List Text :=
  if ['.'].isPrefixOf specifier then [Path.join f.directory specifier]
  else ((aliases.map (·.expand specifier)).find? fun expanded =>
    !expanded.isEmpty).getD []

/-- The file that a script specifier names. -/
def resolveScript (root : Node) (aliases : List Alias) (f : SourceFile)
    (specifier : Text) : Option Text :=
  (bases aliases f specifier).findSome? fun base =>
    firstExisting root (candidates base)

-- ============================================================== Python

/-- Directories that absolute modules are looked up in. -/
def pythonRoots (root : Node) : List Text :=
  if root.directoryAt ["src".toList] then [[], "src/".toList] else [[]]

/-- A dotted module as a path. -/
def modulePath (name : Text) : Text := Text.replaceChar '.' ['/'] name

/-- The module file and the package file of a path. -/
def moduleFiles (path : Text) : List Text :=
  [path ++ ".py".toList, path ++ "/__init__.py".toList]

/-- The directory `n` levels up, if there is one. -/
def levelsUp : Nat → Text → Option Text
  | 0, dir => some dir
  | n + 1, dir => if dir.isEmpty then none else levelsUp n (Path.parent dir)

/-- The file that a relative module names: the module, the package, or else
the package that the dots name. -/
def resolveRelative (root : Node) (f : SourceFile) (specifier : Text) :
    Option Text :=
  let dots := specifier.takeWhile (· == '.')
  let name := specifier.dropWhile (· == '.')
  match levelsUp (dots.length - 1) f.directory with
  | none => none
  | some package =>
    let above := if package.isEmpty then [] else package ++ ['/']
    let initializer := above ++ "__init__.py".toList
    if name.isEmpty then firstExisting root [initializer]
    else firstExisting root
      (moduleFiles (above ++ modulePath name) ++ [initializer])

/-- The file that a Python specifier names. -/
def resolvePython (root : Node) (f : SourceFile) (specifier : Text) :
    Option Text :=
  if ['.'].isPrefixOf specifier then resolveRelative root f specifier
  else (pythonRoots root).findSome? fun top =>
    firstExisting root (moduleFiles (top ++ modulePath specifier))

-- ================================================================== Go

/-- The package directory, with a closing slash, that a Go specifier names
below the module. -/
def resolveGo (root : Node) (moduleName specifier : Text) : Option Text :=
  let name := Text.trimEnd (· == '/') moduleName
  if name.isEmpty || !(name ++ ['/']).isPrefixOf specifier then none
  else ((Path.clean? (specifier.drop (name.length + 1))).filter fun package =>
    root.directoryAt (Path.components package)).map (· ++ ['/'])

-- ================================================================ Rust

/-- Files that hold the root module of a crate. -/
def crateRoots : List Text := ["lib.rs".toList, "main.rs".toList]

/-- The source directory of the crate that a path lies in, and the module
path of the file there. -/
def crateLocation (path : Text) : Option (Text × List Text) :=
  let parts := Path.components path
  if parts.dropLast.contains "src" then
    let source := parts.takeWhile (· != "src".toList) ++ ["src".toList]
    let inner := (parts.dropWhile (· != "src".toList)).drop 1
    let dir := Text.join ['/'] source
    match inner.getLast? with
    | none => some (dir, [])
    | some name =>
      if crateRoots.contains name && inner.length == 1 then some (dir, [])
      else if name = "mod.rs".toList then some (dir, inner.dropLast)
      else some (dir, inner.dropLast ++ [name.take (name.length - 3)])
  else none

/-- Goes up one module for every leading `super`. -/
def climb : List Text → List Text → List Text × List Text
  | here, [] => (here, [])
  | here, segment :: rest =>
    if segment = "super".toList then climb here.dropLast rest
    else (here, segment :: rest)

/-- The module path that a specifier names, seen from a module. -/
def targetModule (here : List Text) (specifier : Text) : List Text :=
  match Text.splitSeq "::" specifier with
  | [] => here
  | head :: segments =>
    let (start, rest) :=
      if head = "crate".toList then ([], segments)
      else
        climb (if head = "super".toList then here.dropLast else here) segments
    start ++ rest.filter fun s => !s.isEmpty

/-- The longest initial parts of a list first, down to one item. -/
def initialParts (items : List Text) : List (List Text) :=
  ((List.range items.length).map fun n => items.take (n + 1)).reverse

/-- The file that a Rust specifier names: that of the longest module path
that has one. -/
def resolveRust (root : Node) (f : SourceFile) (specifier : Text) :
    Option Text :=
  match crateLocation f.path with
  | none => none
  | some (dir, here) =>
    (initialParts (targetModule here specifier)).findSome? fun part =>
      let base := dir ++ '/' :: Text.join ['/'] part
      firstExisting root [base ++ ".rs".toList, base ++ "/mod.rs".toList]

-- =========================================================== resolvers

/-- How imports of a project are resolved. -/
inductive Resolver where
  | script (aliases : List Alias)
  | python
  | go (moduleName : Text)
  | rust
  deriving DecidableEq, Repr

namespace Resolver

/-- The language whose imports are resolved. -/
def language : Resolver → Language
  | script _ => .script
  | python => .python
  | go _ => .go
  | rust => .rust

/-- Whether imports of test files are left out. -/
def skipsTests : Resolver → Bool
  | rust => false
  | _ => true

/-- Whether imports of declaration files are left out. -/
def skipsDeclarations : Resolver → Bool
  | script _ => true
  | _ => false

/-- The target of a specifier, or none if it is external. -/
def resolve (root : Node) (f : SourceFile) (specifier : Text) :
    Resolver → Option Text
  | script aliases => resolveScript root aliases f specifier
  | python => resolvePython root f specifier
  | go moduleName => resolveGo root moduleName specifier
  | rust => resolveRust root f specifier

/-- The targets of a source text, each at its first occurrence. -/
def targets (root : Node) (f : SourceFile) (text : Text) (r : Resolver) :
    List Text :=
  Text.dedupe ((specifiers text r.language).filterMap fun specifier =>
    r.resolve root f specifier)

end Resolver

end SourceAtlas.Import
