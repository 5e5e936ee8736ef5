/-
Source files: the language families with their extensions, the files of a
survey, named by their path from the project root, and locations in them.

Consumed by the survey, the scanners, the resolvers, the accumulators and the
choice of rules.
-/
import SourceAtlas.Path
import SourceAtlas.Text.Basic

namespace SourceAtlas

-- =========================================================== languages

/-- A language family. -/
inductive Language where
  /-- TypeScript and JavaScript. -/
  | script
  | python
  | go
  | rust
  deriving DecidableEq, Repr

namespace Language

/-- Extensions of typed script sources. -/
def typedExtensions : List Text := [".ts".toList, ".tsx".toList]

/-- The extensions of a family's sources. -/
def extensions : Language → List Text
  | script => typedExtensions ++ [".js".toList, ".jsx".toList]
  | python => [".py".toList]
  | go => [".go".toList]
  | rust => [".rs".toList]

/-- The extensions of the sources that can declare types. -/
def typeExtensions : Language → List Text
  | script => typedExtensions
  | other => other.extensions

/-- The extensions of all families. -/
def allExtensions : List Text :=
  script.extensions ++ python.extensions ++ go.extensions ++ rust.extensions

end Language

-- ================================================= files and locations

/-- A file of the survey: its path from the project root and its extension. -/
structure SourceFile where
  path : Text
  extension : Text
  deriving DecidableEq, Repr

/-- The source file at a path, with the extension that the path shows. -/
def SourceFile.ofPath (path : Text) : SourceFile := ⟨path, Path.extension path⟩

/-- The last component of the path. -/
def SourceFile.name (f : SourceFile) : Text := Path.base f.path

/-- The directory of the file, empty at the root. -/
def SourceFile.directory (f : SourceFile) : Text := Path.parent f.path

/-- Order by path, then by extension. -/
instance : LT SourceFile :=
  ⟨fun a b => a.path < b.path ∨ (a.path = b.path ∧ a.extension < b.extension)⟩

instance : DecidableLT SourceFile := fun a b =>
  inferInstanceAs (Decidable
    (a.path < b.path ∨ (a.path = b.path ∧ a.extension < b.extension)))

/-- A line of a file. -/
structure Location where
  file : Text
  line : Int
  deriving DecidableEq, Repr

/-- Written as file, colon, line. -/
def Location.text (l : Location) : Text := l.file ++ ':' :: Text.ofInt l.line

end SourceAtlas
