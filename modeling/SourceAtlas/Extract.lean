/-
Extraction: applies the rules to the files of a survey, one partial result
per file, and merges the partial results in order. Files that cannot be
opened contribute nothing. A survey that has answered before is not asked to
walk the tree again, so extraction returns it.

Consumed by the run.
-/
import SourceAtlas.Export
import SourceAtlas.Graph.Basic
import SourceAtlas.Import.Resolve
import SourceAtlas.Index
import SourceAtlas.Route
import SourceAtlas.Survey
import SourceAtlas.TypeDeclaration

namespace SourceAtlas.Extract

-- ============================================================= filters

/-- The files of an entry-point strategy. -/
def strategyFilter (s : Route.Strategy) : Filter :=
  .make s.language.extensions true false

/-- The files whose exports are read. -/
def exportFilter (l : Language) : Filter :=
  .make l.extensions (Export.skipsTests l) false

/-- The files whose types are read. -/
def typeFilter (l : Language) : Filter := .make l.typeExtensions false false

/-- The files whose imports are read. -/
def importFilter (r : Import.Resolver) : Filter :=
  .make r.language.extensions r.skipsTests r.skipsDeclarations

/-- The survey after it has answered some filters. -/
def prepare (root : Node) (filters : List Filter) (s : Survey) : Survey :=
  filters.foldl (fun s f => (s.enumerate root f).2) s

/-- The source texts of a list of files, without those that cannot be
opened. -/
def texts (root : Node) (files : List SourceFile) : List (SourceFile × Text) :=
  files.filterMap fun f => (f.read root).map fun text => (f, text)

-- ======================================================== entry points

/-- The entry points of each accepted file of one strategy. -/
def strategyPartials (root : Node) (files : List SourceFile)
    (s : Route.Strategy) :
    Except Route.PlaceError (List (SourceFile × EntryPointMap)) :=
  (texts root (files.filter (s.accepts ·))).mapM fun (f, text) => do
    let found ← s.scan f text
    return (f, EntryPointMap.ofList found)

/-- The entry points of each file, strategies in order. -/
def entryPartials (root : Node) : List Route.Strategy → Survey →
    Except Route.PlaceError (List (SourceFile × EntryPointMap) × Survey)
  | [], survey => .ok ([], survey)
  | s :: rest, survey => do
    let (files, survey) := survey.enumerate root (strategyFilter s)
    let here ← strategyPartials root files s
    let (there, survey) ← entryPartials root rest survey
    return (here ++ there, survey)

/-- All entry points; the last declaration of a key wins. -/
def mergeEntries (partials : List (SourceFile × EntryPointMap)) :
    EntryPointMap :=
  partials.foldl (fun m (_, p) => m.merge p) .empty

/-- All entry points that some strategies find. -/
def entryPoints (root : Node) (strategies : List Route.Strategy)
    (survey : Survey) : Except Route.PlaceError (EntryPointMap × Survey) := do
  let (partials, survey) ← entryPartials root strategies survey
  return (mergeEntries partials, survey)

-- ============================================================= exports

/-- The exports of one file. -/
def fileExports (l : Language) (f : SourceFile) (text : Text) : ExportMap :=
  ExportMap.empty.add f.path (Export.symbols text l)

/-- The exports of all files of a language. -/
def exports (root : Node) (language : Option Language) (survey : Survey) :
    ExportMap × Survey :=
  match language with
  | none => (.empty, survey)
  | some l =>
    let (files, survey) := survey.enumerate root (exportFilter l)
    ((texts root files).foldl
      (fun m (f, text) => m.merge (fileExports l f text)) .empty, survey)

-- =============================================================== types

/-- The types of one file. -/
def fileTypes (l : Language) (f : SourceFile) (text : Text) : TypeMap :=
  (TypeDeclaration.declarations l text).foldl
    (fun m (name, line) => m.add name ⟨f.path, line⟩) .empty

/-- The types of all files of a language; the last file that declares a name
wins. -/
def types (root : Node) (language : Option Language) (survey : Survey) :
    TypeMap × Survey :=
  match language with
  | none => (.empty, survey)
  | some l =>
    let (files, survey) := survey.enumerate root (typeFilter l)
    ((texts root files).foldl (fun m (f, text) => m.merge (fileTypes l f text))
      .empty, survey)

-- ============================================================= imports

/-- The dependencies of one file. -/
def fileEdges (root : Node) (r : Import.Resolver) (f : SourceFile)
    (text : Text) : EdgeSet :=
  EdgeSet.ofList ((r.targets root f text).map fun target => ⟨f.path, target⟩)

/-- The dependencies of all files that a resolver reads. -/
def edges (root : Node) (resolver : Option Import.Resolver) (survey : Survey) :
    EdgeSet × Survey :=
  match resolver with
  | none => (.empty, survey)
  | some r =>
    let (files, survey) := survey.enumerate root (importFilter r)
    ((texts root files).foldl
      (fun s (f, text) => s.merge (fileEdges root r f text)) .empty, survey)

end SourceAtlas.Extract
