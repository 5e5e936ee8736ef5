/-
The three written forms of a dependency graph: a mermaid diagram, a dot
diagram and a JSON document with edges and adjacency. Diagrams group the
files by cluster and list the edges in increasing order.

Consumed by the run and the command line.
-/
import SourceAtlas.Graph.Basic
import SourceAtlas.Json.Writer

namespace SourceAtlas

/-- A written form of a graph. -/
inductive GraphFormat where
  | mermaid
  | dot
  | json
  deriving DecidableEq, Repr

namespace GraphFormat

/-- All forms. -/
def all : List GraphFormat := [.mermaid, .dot, .json]

/-- How a form is called. -/
def text : GraphFormat → Text
  | mermaid => "mermaid"
  | dot => "dot"
  | json => "json"

/-- The form that a text names, in any case. No letter beyond ASCII has one
of the names' letters as its lower case. -/
def ofText? (t : Text) : Option GraphFormat :=
  all.find? (·.text == t.map Char.toLower)

/-- The name of the artifact. -/
def fileName (f : GraphFormat) : Text := "deps.".toList ++ f.text

end GraphFormat

namespace DependencyGraph

-- =============================================================== nodes

/-- The identifier of a file in a diagram: an underscore for everything but
ASCII letters and digits. -/
def nodeId (path : Text) : Text :=
  path.map fun c => if c.isAlphanum then c else '_'

/-- The identifier of a cluster. -/
def clusterId (cluster : Text) : Text :=
  if cluster = ['.'] then "root" else nodeId cluster

/-- The last name of a path whose closing slashes do not count. -/
def lastName (path : Text) : Text := Path.base (Text.trimEnd (· == '/') path)

/-- The label of a file: its name without extension, or the name of a package
directory. -/
def nodeLabel (path : Text) : Text :=
  if ['/'].isSuffixOf path then lastName path else Path.stem path

/-- Lines with a line feed after each. -/
def unlines (lines : List Text) : Text := Text.join ['\n'] lines ++ ['\n']

-- ============================================================= mermaid

/-- How many edges the legend names. -/
def legendLimit : Nat := 20

/-- The lines of one cluster. -/
def mermaidCluster (cluster : Text × List Text) : List Text :=
  (("  subgraph cluster_".toList ++ clusterId cluster.1 ++ "[\"".toList
    ++ cluster.1 ++ "\"]".toList) :: cluster.2.map fun path =>
      "    ".toList ++ nodeId path ++ "[\"".toList ++ nodeLabel path
        ++ "\"]".toList)
    ++ ["  end".toList]

/-- The line of one edge. -/
def mermaidEdge (e : Edge) : Text :=
  "  ".toList ++ nodeId e.source ++ " --> ".toList ++ nodeId e.target

/-- The legend: the first edges in full, and how many more there are. -/
def legend (edges : List Edge) : List Text :=
  (edges.take legendLimit).map (fun e =>
      "%%   ".toList ++ e.source ++ " -> ".toList ++ e.target)
    ++ if legendLimit < edges.length then
        ["%%   ... and ".toList ++ Text.ofNat (edges.length - legendLimit)
          ++ " more edges".toList]
      else []

/-- The mermaid diagram. -/
def mermaid (g : DependencyGraph) : Text :=
  unlines
    (["%% Dependency Graph".toList, "%% Profile: ".toList ++ g.project.kind,
        "%% Read this to understand import relationships".toList, [],
        "graph LR".toList]
      ++ g.clusters.flatMap mermaidCluster
      ++ (if g.edges.edges.isEmpty then [] else [[]])
      ++ g.edges.edges.map mermaidEdge
      ++ [[], "%% Full paths:".toList]
      ++ legend g.edges.edges)

-- ================================================================= dot

/-- A label inside double quotes. -/
def escapeLabel (t : Text) : Text := Text.replaceChar '\x22' ['\x5c', '\x22'] t

/-- The label of a file: its name, with a slash for a package directory. -/
def dotLabel (path : Text) : Text :=
  lastName path ++ if ['/'].isSuffixOf path then ['/'] else []

/-- The line of one file. -/
def dotNode (path : Text) : Text :=
  "    \"".toList ++ nodeId path ++ "\" [label=\"".toList
    ++ escapeLabel (dotLabel path) ++ "\"];".toList

/-- The lines of one cluster. -/
def dotCluster (cluster : Text × List Text) : List Text :=
  ["  subgraph cluster_".toList ++ clusterId cluster.1 ++ [' ', '\x7b'],
      "    label=\"".toList ++ escapeLabel cluster.1 ++ "\";".toList,
      "    style=dashed;".toList]
    ++ cluster.2.map dotNode
    ++ [[' ', ' ', '\x7d'], []]

/-- The line of one edge. -/
def dotEdge (e : Edge) : Text :=
  "  \"".toList ++ nodeId e.source ++ "\" -> \"".toList ++ nodeId e.target
    ++ "\";".toList

/-- The dot diagram. -/
def dot (g : DependencyGraph) : Text :=
  unlines
    (["// Dependency Graph".toList,
      "// Render with: dot -Tsvg deps.dot -o deps.svg".toList, [],
        "digraph deps \x7b".toList, "  rankdir=LR;".toList,
        "  node [shape=box, style=rounded, fontsize=10];".toList,
        "  edge [arrowsize=0.7];".toList, []]
      ++ g.clusters.flatMap dotCluster
      ++ "  // Dependencies".toList :: g.edges.edges.map dotEdge
      ++ [['\x7d']])

-- ================================================================ JSON

/-- The document of a graph. -/
def document (g : DependencyGraph) : Json :=
  .object [
    ("generated", .integer g.generated),
    ("edges", .array (g.edges.edges.map fun e =>
      .object [("from", .string e.source), ("to", .string e.target)])),
    ("adjacency", .object (g.adjacency.entries.map fun (source, targets) =>
      (source, .array (targets.map .string))))]

/-- The text of a graph in a form. -/
def render (g : DependencyGraph) : GraphFormat → Text
  | .mermaid => g.mermaid
  | .dot => g.dot
  | .json => g.document.write

end DependencyGraph

end SourceAtlas
