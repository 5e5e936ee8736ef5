import SourceAtlas.Main
import SourceAtlas.Json.Reader
import SourceAtlas.Proofs.Except
import SourceAtlas.Proofs.Ordered
import SourceAtlas.Proofs.Path.Clean
import SourceAtlas.Proofs.Import.Containment
import SourceAtlas.Proofs.Tree.WellFormed
import SourceAtlas.Proofs.Tree.Walk
import SourceAtlas.Proofs.Glob
import SourceAtlas.Proofs.Survey
import SourceAtlas.Proofs.Extract.Basic
import SourceAtlas.Proofs.Graph.Edges
import SourceAtlas.Proofs.Extract.Edges
import SourceAtlas.Proofs.Run.Basic
import SourceAtlas.Proofs.Run.Edges
import SourceAtlas.Proofs.Run.GraphAlone
import SourceAtlas.Proofs.Run.Rejected
import SourceAtlas.Proofs.Run.References
import SourceAtlas.Proofs.Table
import SourceAtlas.Proofs.Accumulator
import SourceAtlas.Proofs.MapReduce
import SourceAtlas.Proofs.Reachable
import SourceAtlas.Proofs.Survey.Listing
import SourceAtlas.Proofs.Extract.Collisions
import SourceAtlas.Proofs.Text.Decimal
import SourceAtlas.Proofs.Index.Document
import SourceAtlas.Proofs.Extract.Mentions
import SourceAtlas.Proofs.Run.Unpruned
import SourceAtlas.Proofs.Tree.Kind
import SourceAtlas.Proofs.Tree.Edit
import SourceAtlas.Proofs.Path.Plain
import SourceAtlas.Proofs.Artifact.Store
import SourceAtlas.Proofs.Console.Markup
import SourceAtlas.Proofs.Cli.Effect
import SourceAtlas.Proofs.Settings
import SourceAtlas.Proofs.Project.Detect
import SourceAtlas.Proofs.Import.Config
import SourceAtlas.Proofs.Run.Failures
import SourceAtlas.Proofs.Tree.Growth
import SourceAtlas.Proofs.Import.Stability
import SourceAtlas.Proofs.Pattern.Captures
import SourceAtlas.Proofs.Route.Lines
import SourceAtlas.Proofs.Graph.Group
import SourceAtlas.Proofs.Graph.Adjacency
import SourceAtlas.Proofs.Graph.Clusters
import SourceAtlas.Proofs.Graph.Diagram
import SourceAtlas.Proofs.Graph.Style
import SourceAtlas.Proofs.Graph.Drawing
import SourceAtlas.Proofs.Tree.Preserve
import SourceAtlas.Proofs.Artifact.Fresh
import SourceAtlas.Proofs.Run.Sources
import SourceAtlas.Proofs.Artifact.Snapshot
import SourceAtlas.Proofs.Text.Utf8
import SourceAtlas.Proofs.Artifact.Listing
import SourceAtlas.Proofs.Cli.Rerun
import SourceAtlas.Proofs.Cli.Snapshot
import SourceAtlas.Proofs.Artifact.Unseen
import SourceAtlas.Proofs.Survey.Memory
import SourceAtlas.Proofs.Run.Prepared
import SourceAtlas.Proofs.Text.Blank
import SourceAtlas.Proofs.Text.Squeeze
import SourceAtlas.Proofs.Text.Listed
import SourceAtlas.Proofs.UseTree.Grammar
import SourceAtlas.Proofs.UseTree.Paths
import SourceAtlas.Proofs.UseTree.Names
import SourceAtlas.Proofs.Pattern.Preferred
import SourceAtlas.Proofs.Json.Comments
import SourceAtlas.Proofs.Json.Numeral
import SourceAtlas.Proofs.Json.Quoted
import SourceAtlas.Proofs.Json.Grammar
import SourceAtlas.Proofs.Json.Stripped
import SourceAtlas.Proofs.Import.Choice
import SourceAtlas.Proofs.Path.Normal
import SourceAtlas.Proofs.Import.Star
import SourceAtlas.Proofs.Path.Walk
import SourceAtlas.Proofs.Import.Spelling
import SourceAtlas.Proofs.Import.ModulePath
import SourceAtlas.Proofs.Import.CrateLocation
import SourceAtlas.Proofs.Pattern.Language
import SourceAtlas.Proofs.Pattern.Scan
import SourceAtlas.Proofs.Pattern.Lines
import SourceAtlas.Proofs.Import.ScriptForm
import SourceAtlas.Proofs.Import.ScriptStatement
import SourceAtlas.Proofs.Import.NameList
import SourceAtlas.Proofs.Import.ClauseNames
import SourceAtlas.Proofs.Import.FirstWord
import SourceAtlas.Proofs.Import.PythonStatement
import SourceAtlas.Proofs.Import.PythonModule
import SourceAtlas.Proofs.Import.GoLayout
import SourceAtlas.Proofs.Export.PythonAll
import SourceAtlas.Proofs.Export.GoMember
import SourceAtlas.Proofs.Export.GoGroup
import SourceAtlas.Proofs.Export.ScriptItem
import SourceAtlas.Proofs.Export.ScriptList
import SourceAtlas.Proofs.Pattern.Found
import SourceAtlas.Proofs.Pattern.Located
import SourceAtlas.Proofs.TypeDeclaration
import SourceAtlas.Proofs.Route.Segment
import SourceAtlas.Proofs.Concept.Marks
import SourceAtlas.Proofs.Concept.Listing
import SourceAtlas.Proofs.Route.Handler
import SourceAtlas.Proofs.Route.Directory
