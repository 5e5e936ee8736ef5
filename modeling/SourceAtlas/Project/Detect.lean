/-
Classifying a project by the marker files at its root: a package manifest
first, then Python's project files, then those of Rust and of Go. How deep a
manifest may be nested is a bound from outside.

Consumed by the run and the command line.
-/
import SourceAtlas.Json.Reader
import SourceAtlas.Pattern.Search
import SourceAtlas.Project.Profile
import SourceAtlas.Tree.Basic

namespace SourceAtlas.Project

open Pattern

/-- Why a project cannot be classified. -/
inductive DetectError where
  /-- The manifest is nested too deep. -/
  | tooDeep
  /-- The manifest holds an integer of too many digits. -/
  | numeralTooLong
  deriving DecidableEq, Repr

/-- The sections of a manifest that name dependencies. -/
def dependencySections : List String :=
  ["dependencies", "devDependencies", "peerDependencies"]

/-- The names of the declared dependencies, if the manifest is an object. -/
def dependencies? : Json → Option (List Text)
  | .object members => some (dependencySections.flatMap fun key =>
      match members.lookup key.toList with
      | some (.object entries) => entries.map (·.1)
      | _ => [])
  | _ => none

/-- The framework that a test for names finds. -/
def frameworkBy (mentions : Text → Bool) : Framework :=
  if mentions "next" then .nextjs
  else if mentions "express" then .express
  else .none

/-- The framework by the text of a manifest that is no JSON object: a name in
double quotes anywhere counts. -/
def frameworkOfRaw (raw : Text) : Framework :=
  frameworkBy fun name => Text.holds ('\x22' :: name ++ ['\x22']) raw

/-- The framework of a manifest. -/
def frameworkOfManifest (depth : Nat) (raw : Text) :
    Except DetectError Framework :=
  if depth < Json.nesting raw then .error .tooDeep
  else
    match Json.read raw with
    | .error .tooManyDigits => .error .numeralTooLong
    | .error .malformed => .ok (frameworkOfRaw raw)
    | .ok document =>
      match dependencies? document with
      | some names => .ok (frameworkBy names.contains)
      | none => .ok (frameworkOfRaw raw)

/-- A module line. -/
def moduleLine : Pattern :=
  anchor .lineStart ++ lit "module" ++ blanks1
    ++ group .name (many1 fun c => !Text.isBlank c)

/-- The module name that a module file declares. -/
def moduleNameOf (raw : Text) : Text :=
  ((moduleLine.find? raw).map (·.get .name)).getD []

/-- Whether a marker file stands at the root. -/
def marked (root : Node) (name : String) : Bool := root.fileAt [name.toList]

/-- The text of a marker file, if it can be opened. -/
def markerText? (root : Node) (name : String) : Option Text :=
  root.textAt? [name.toList]

/-- The classification of a project. -/
def detect (depth : Nat) (root : Node) : Except DetectError Project :=
  if marked root "package.json" then
    match markerText? root "package.json" with
    | some raw => do
      let framework ← frameworkOfManifest depth raw
      return ⟨.node, framework, []⟩
    | none => .ok ⟨.node, .none, []⟩
  else if marked root "pyproject.toml" || marked root "setup.py"
    then .ok ⟨.python, .none, []⟩
  else if marked root "Cargo.toml" then .ok ⟨.rust, .none, []⟩
  else if marked root "go.mod" then
    .ok ⟨.go, .none, ((markerText? root "go.mod").map moduleNameOf).getD []⟩
  else .ok ⟨.unknown, .none, []⟩

end SourceAtlas.Project
