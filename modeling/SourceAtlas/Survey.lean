/-
The survey of a project: which files there are, by extension, without
skipped directories, excluded paths and, on request, tests and declaration
files. A survey remembers the answer to each question it was asked.

Consumed by extraction and by the run, whose index and graph mention no
other files.
-/
import SourceAtlas.Glob
import SourceAtlas.SourceFile
import SourceAtlas.Project.Profile
import SourceAtlas.Tree.Basic

namespace SourceAtlas

-- ========================================================== test files

/-- Globs of the names of test files. -/
def testGlobs : List String :=
  ["*.spec.*", "*.test.*", "test_*.py", "*_test.py", "*_test.go"]

/-- Whether a name is that of a test file. -/
def isTestFile (name : Text) : Bool :=
  testGlobs.any fun glob => Glob.accepts glob.toList name

-- =============================================================== scope

/-- Directories that no survey enters by default. -/
def baseSkips : List String :=
  ["node_modules", ".next", "dist", "build", ".git"]

/-- Further directories that the survey of a profile does not enter. -/
def Profile.skips : Profile → List String
  | .node => [".turbo", "coverage", "out"]
  | .python =>
      ["__pycache__", "venv", ".venv", "site-packages", ".tox", ".mypy_cache",
        ".pytest_cache", ".ruff_cache", ".eggs"]
  | .go => ["vendor"]
  | .rust => ["target"]
  | .unknown => []

/-- What a survey leaves out: directories by name, one directory by path, and
whatever a glob matches. -/
structure Scope where
  skips : List Text
  exclude : List Text
  outputDir : Text
  deriving DecidableEq, Repr

namespace Scope

/-- A scope; slashes around the output directory do not count. -/
def make (skips exclude : List Text) (outputDir : Text) : Scope :=
  { skips := Ordered.ofList (".git".toList :: skips)
    exclude := Ordered.sortBy Text.le exclude
    outputDir := Text.trimBoth (· == '/') outputDir }

/-- The default scope. -/
def base (exclude : List Text) (outputDir : Text) : Scope :=
  make (baseSkips.map String.toList) exclude outputDir

/-- The scope of a profile; a text that names none has the default scope. -/
def ofProfileName (profile : Text) (exclude : List Text) (outputDir : Text) :
    Scope :=
  let more := ((Profile.ofText? profile).map Profile.skips).getD []
  make ((baseSkips ++ more).map String.toList) exclude outputDir

/-- The scope of a profile. -/
def ofProfile (profile : Profile) (exclude : List Text) (outputDir : Text) :
    Scope :=
  make ((baseSkips ++ profile.skips).map String.toList) exclude outputDir

/-- The scope of the search for concepts, which does not depend on the
profile. -/
def ofConcepts (exclude : List Text) (outputDir : Text) : Scope :=
  make ((baseSkips ++ Profile.all.flatMap Profile.skips).map String.toList)
    exclude outputDir

/-- Whether a glob excludes a text. -/
def excludes (s : Scope) (t : Text) : Bool :=
  s.exclude.any fun glob => Glob.accepts glob t

/-- Whether a directory is entered, by its path and its name. -/
def enters (s : Scope) (path : Text) (name : Name) : Bool :=
  !(s.skips.contains name
    || (!s.outputDir.isEmpty && path == s.outputDir)
    || Glob.accepts "*.egg-info".toList name
    || s.excludes path || s.excludes name)

end Scope

-- ============================================================== survey

/-- Which files to list. -/
structure Filter where
  /-- Extensions, strictly increasing. -/
  extensions : List Text
  skipTests : Bool := false
  skipDeclarations : Bool := false
  deriving DecidableEq, Repr

/-- A filter; order and repetition of the extensions do not count. -/
def Filter.make (extensions : List Text) (skipTests skipDeclarations : Bool) :
    Filter :=
  ⟨Ordered.ofList extensions, skipTests, skipDeclarations⟩

/-- Whether a filter admits a file name. -/
def Filter.admits (f : Filter) (name : Name) : Bool :=
  f.extensions.contains (Path.extension name)
    && !(f.skipTests && isTestFile name)
    && !(f.skipDeclarations && ".d.ts".toList.isSuffixOf name)

/-- A survey: its scope, and the answers so far. -/
structure Survey where
  scope : Scope
  answers : List (Filter × List SourceFile) := []
  deriving DecidableEq, Repr

namespace Survey

/-- The files of a tree that the scope reaches and the filter admits, in
increasing order. -/
def list (scope : Scope) (filter : Filter) (root : Node) : List SourceFile :=
  let paths := (root.walk scope.enters).filter fun path =>
    filter.admits (Path.base path) && !scope.excludes path
  Ordered.ofList (paths.map fun path => ⟨path, Path.extension (Path.base path)⟩)

/-- The files for a filter: the remembered answer if there is one. -/
def enumerate (s : Survey) (root : Node) (filter : Filter) :
    List SourceFile × Survey :=
  match s.answers.lookup filter with
  | some files => (files, s)
  | none =>
    let files := list s.scope filter root
    (files, { s with answers := s.answers ++ [(filter, files)] })

/-- The paths of all answers so far, strictly increasing. -/
def allPaths (s : Survey) : List Text :=
  Ordered.ofList (s.answers.flatMap fun (_, files) => files.map (·.path))

end Survey

/-- The text of a source file of a project, if it can be opened. -/
def SourceFile.read (root : Node) (f : SourceFile) : Option Text :=
  root.textAt? (Path.components f.path)

end SourceAtlas
