/-
What kind of project a tree holds: its ecosystem, the web framework of a
node project, and the module name of a Go project.

Consumed by detection, the choice of rules and every report.
-/
import SourceAtlas.Text.Basic

namespace SourceAtlas

/-- The ecosystem of a project. -/
inductive Profile where
  | node
  | python
  | go
  | rust
  | unknown
  deriving DecidableEq, Repr

/-- All profiles. -/
def Profile.all : List Profile := [.node, .python, .go, .rust, .unknown]

/-- How a profile is written. -/
def Profile.text : Profile → Text
  | .node => "node"
  | .python => "python"
  | .go => "go"
  | .rust => "rust"
  | .unknown => "unknown"

/-- The profile that a text names. -/
def Profile.ofText? (t : Text) : Option Profile :=
  Profile.all.find? (·.text == t)

/-- The web framework of a node project. -/
inductive Framework where
  | nextjs
  | express
  | none
  deriving DecidableEq, Repr

/-- All frameworks. -/
def Framework.all : List Framework := [.nextjs, .express, .none]

/-- How a framework is written. -/
def Framework.text : Framework → Text
  | .nextjs => "nextjs"
  | .express => "express"
  | .none => "none"

/-- The framework that a text names. -/
def Framework.ofText? (t : Text) : Option Framework :=
  Framework.all.find? (·.text == t)

/-- A classified project. -/
structure Project where
  profile : Profile
  framework : Framework := .none
  moduleName : Text := []
  deriving DecidableEq, Repr

/-- The framework of a node project that has one, and the profile otherwise. -/
def Project.kind (p : Project) : Text :=
  if p.profile = .node ∧ p.framework ≠ .none then p.framework.text
  else p.profile.text

end SourceAtlas
