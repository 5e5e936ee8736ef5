/-
One run over a project: classify it, choose its rules, survey it, extract,
merge, and drop whatever lies outside the files surveyed. The rules are the
entry-point strategies of the project's framework, and the language of its
exports, types and imports. The host is what a
run is given from outside: the reader of its settings file, and how deep the
documents may be nested that it reads.

Consumed by the command line.
-/
import SourceAtlas.Concept
import SourceAtlas.Extract
import SourceAtlas.Graph.Basic
import SourceAtlas.Import.Config
import SourceAtlas.Import.Resolve
import SourceAtlas.Index
import SourceAtlas.Project.Detect
import SourceAtlas.Project.Profile
import SourceAtlas.Route
import SourceAtlas.Settings

namespace SourceAtlas

-- =============================================================== rules

/-- The rules of a project. -/
structure Rules where
  strategies : List Route.Strategy := []
  /-- The language of exports and types. -/
  language : Option Language := none
  resolver : Option Import.Resolver := none
  deriving DecidableEq, Repr

/-- The rules for a project; an unknown one has none. -/
def Rules.ofProject (depth : Nat) (project : Project) (root : Node)
    (aliases : List (Text × List Text)) : Except Alias.ConfigError Rules :=
  match project.profile with
  | .node => do
    let strategies := match project.framework with
      | .nextjs => [.appDirectory, .pagesDirectory]
      | _ => [.call]
    let found ← Alias.ofProject depth root aliases
    return ⟨strategies, some .script, some (.script found)⟩
  | .python => .ok ⟨[.decorator], some .python, some .python⟩
  | .go => .ok ⟨[.goCall], some .go, some (.go project.moduleName)⟩
  | .rust => .ok ⟨[], some .rust, some .rust⟩
  | .unknown => .ok {}

-- ============================================================= the run

/-- Why a run gives no result. -/
inductive RunError where
  /-- No file with a supported extension. -/
  | noSources
  | settings (e : Settings.LoadError)
  | detect (e : Project.DetectError)
  | config (e : Alias.ConfigError)
  | place (e : Route.PlaceError)
  deriving DecidableEq, Repr

/-- What a run gives: the index and the graph as far as they were asked for,
and the files surveyed, strictly increasing. -/
structure RunResult where
  index : Option CodeIndex
  graph : Option DependencyGraph
  known : List Text
  deriving DecidableEq, Repr

namespace Run

/-- A run that is set up: the project tree, its settings, classification and
rules, and the two surveys. -/
structure Plan where
  root : Node
  settings : Settings
  project : Project
  rules : Rules
  survey : Survey
  conceptSurvey : Survey

/-- Sets up a run; settings that are not given are loaded. -/
def plan (host : Host) (root : Node) (settings : Option Settings) :
    Except RunError Plan := do
  let settings ← match settings with
    | some s => .ok s
    | none => (Settings.load host root).mapError .settings
  let project ← (Project.detect host.manifestDepth root).mapError .detect
  let rules ← (Rules.ofProject host.configDepth project root
    settings.aliases.entries).mapError .config
  return {
    root, settings, project, rules
    survey := ⟨.ofProfile project.profile settings.exclude settings.outputDir,
      []⟩
    conceptSurvey := ⟨.ofConcepts settings.exclude settings.outputDir, []⟩ }

/-- The files that concepts are looked for in. -/
def conceptFilter : Filter := .make Language.allExtensions false false

/-- The filters that extraction for the index will ask for. -/
def indexFilters (rules : Rules) : List Filter :=
  rules.strategies.map Extract.strategyFilter
    ++ (rules.language.map Extract.exportFilter).toList
    ++ (rules.language.map Extract.typeFilter).toList

/-- The filters that extraction for the graph will ask for. -/
def graphFilters (rules : Rules) : List Filter :=
  (rules.resolver.map Extract.importFilter).toList

/-- The four maps of the index before pruning. -/
def buildIndex (p : Plan) (clock : Int) (conceptFiles : List SourceFile)
    (survey : Survey) : Except RunError CodeIndex := do
  let limit := p.settings.conceptLimit
  let concepts := Concept.extract limit (conceptFiles.map (·.path))
  let (entries, survey) ←
    (Extract.entryPoints p.root p.rules.strategies survey).mapError .place
  let (exports, survey) := Extract.exports p.root p.rules.language survey
  let (types, _) := Extract.types p.root p.rules.language survey
  return {
    project := p.project
    generated := clock
    concepts := (ConceptMap.empty limit).merge concepts
    entryPoints := EntryPointMap.empty.merge entries
    exports := ExportMap.empty.merge exports
    types := TypeMap.empty.merge types }

/-- The graph before pruning. -/
def buildGraph (p : Plan) (clock : Int) (survey : Survey) : DependencyGraph :=
  let (found, _) := Extract.edges p.root p.rules.resolver survey
  { project := p.project, generated := clock,
    edges := EdgeSet.empty.merge found }

/-- Runs a plan. The surveys answer every question before extraction starts,
and what they list is what the result may mention. -/
def execute (p : Plan) (clock : Int) (wantIndex wantGraph : Bool) :
    Except RunError RunResult := do
  let (conceptFiles, conceptSurvey) :=
    p.conceptSurvey.enumerate p.root conceptFilter
  if conceptFiles.isEmpty then throw .noSources
  let filters := (if wantIndex then indexFilters p.rules else [])
    ++ if wantGraph then graphFilters p.rules else []
  let survey := Extract.prepare p.root filters p.survey
  let known := Ordered.insertAll conceptSurvey.allPaths survey.allPaths
  let index ← if wantIndex then
      (buildIndex p clock conceptFiles survey).map fun index =>
        some (index.prune known)
    else .ok none
  let graph :=
    if wantGraph then some ((buildGraph p clock survey).prune known) else none
  return { index, graph, known }

end Run

end SourceAtlas
