/-
Everything that can end a command early, with the line that is shown and the
exit code. Failures of the program's own kind say what is wrong with the
request; all others come from the tree or from what is to be shown, and end
the command with exit code 1 and no line.

Consumed by the command line.
-/
import SourceAtlas.Artifact.Snapshot
import SourceAtlas.Console.Markup
import SourceAtlas.Graph.Render
import SourceAtlas.Run

namespace SourceAtlas

/-- Why a command ends early. -/
inductive Failure where
  /-- The project root is no directory. -/
  | badRoot (path : Text)
  /-- No graph format has this name. -/
  | unknownFormat (value : Text)
  /-- There is nothing to index under the root. -/
  | noSources (root : Text)
  | settings (e : Settings.LoadError)
  | detect (e : Project.DetectError)
  | config (e : Alias.ConfigError)
  | place (e : Route.PlaceError)
  | snapshot (e : Snapshot.BuildError)
  | fault (f : Fault)
  /-- What is to be shown cannot be shown. -/
  | markup (e : Console.MarkupError)
  deriving DecidableEq, Repr

namespace Failure

/-- The line for a failure of the program's own kind. -/
def message? : Failure → Option Text
  | badRoot path =>
      some ("Project root is not a readable directory: ".toList ++ path)
  | unknownFormat value =>
    some ("Unknown format '".toList ++ value ++ "'. Choose one of: ".toList
      ++ Text.join ", ".toList (GraphFormat.all.map GraphFormat.text) ++ ['.'])
  | noSources root => some ("No supported source files under ".toList ++ root)
  | _ => none

/-- The exit code. -/
def exitCode : Failure → Nat
  | badRoot _ => 2
  | unknownFormat _ => 2
  | noSources _ => 3
  | _ => 1

/-- The failure of a run over the project shown as `root`. -/
def ofRun (root : Text) : RunError → Failure
  | .noSources => noSources root
  | .settings e => settings e
  | .detect e => detect e
  | .config e => config e
  | .place e => place e

end Failure

end SourceAtlas
