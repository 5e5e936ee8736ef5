/-
What commands show: the summary table of an index, the counts of a graph,
the artifacts written and the detected profile. Paths and names are shown as
markup, so what is in them may keep a line from being shown. What shows a
markup text is a parameter.

Consumed by `Cli.Basic`.
-/
import SourceAtlas.Console.Markup
import SourceAtlas.Graph.Basic
import SourceAtlas.Index

namespace SourceAtlas.Cli

open Console (MarkupError)

/-- What shows a markup text: the lines it takes. -/
abbrev Renderer := Text → Except MarkupError (List Text)

-- =========================================================== summaries

/-- A text centred in a number of columns, the odd one on the right. -/
def centred (columns : Nat) (t : Text) : Text :=
  List.replicate ((columns - t.length) / 2) ' ' ++ t

/-- One row of the summary table. -/
def row (label : String) (count : Nat) : Text :=
  let digits := Text.ofNat count
  "│ ".toList ++ label.toList ++ List.replicate (12 - label.length) ' '
    ++ " │ ".toList
    ++ List.replicate (7 - digits.length) ' ' ++ digits ++ " │".toList

/-- The summary table of an index. -/
def indexTable (index : CodeIndex) : List Text :=
  [centred 26 ("Code index (".toList ++ index.project.kind ++ [')']),
    "┏━━━━━━━━━━━━━━┳━━━━━━━━━┓".toList,
    "┃ Section      ┃ Entries ┃".toList,
    "┡━━━━━━━━━━━━━━╇━━━━━━━━━┩".toList,
    row "Concepts" index.concepts.size,
    row "Entry points" index.entryPoints.size,
    row "Exports" index.exports.size,
    row "Types" index.types.size,
    "└──────────────┴─────────┘".toList]

/-- The lines for a written artifact. -/
def wrote (render : Renderer) (path : Text) : Except MarkupError (List Text) :=
  render ("[green]✓[/green] Wrote ".toList ++ path)

/-- The summary of a written index. -/
def indexSummary (render : Renderer) (index : CodeIndex) (path : Text) :
    Except MarkupError (List Text) := do
  return indexTable index ++ (← wrote render path)

/-- The counts of a graph. -/
def graphCounts (graph : DependencyGraph) : Text :=
  "Edges: ".toList ++ Text.ofNat graph.edges.size ++ " | Files: ".toList
    ++ Text.ofNat graph.files.length

/-- The summary of a written graph. -/
def graphSummary (render : Renderer) (graph : DependencyGraph) (path : Text) :
    Except MarkupError (List Text) := do
  return graphCounts graph :: (← wrote render path)

/-- The line for the name of a module, if it has one. -/
def moduleLines (render : Renderer) (name : Text) :
    Except MarkupError (List Text) :=
  if name.isEmpty then .ok []
  else render ("[bold]Module:[/bold] ".toList ++ name)

/-- The detected profile. -/
def profileLines (render : Renderer) (p : Project) :
    Except MarkupError (List Text) := do
  return ["Project type: ".toList ++ p.kind,
    "Profile: ".toList ++ p.profile.text,
    "Framework: ".toList ++ p.framework.text]
    ++ (← moduleLines render p.moduleName)

/-- The lines for what keeps a command from going on. -/
def complaint (render : Renderer) (message : Text) :
    Except MarkupError (List Text) :=
  render ("[red]✗[/red] ".toList ++ message)

end SourceAtlas.Cli
