/-
The dependency graph of a project: its edges, kept as a strictly increasing
list and without edges from a file to itself, pruning to known files, the files
it touches, the adjacency view, and the clusters by directory.

Consumed by import extraction, the run and the graph renderers.
-/
import SourceAtlas.Ordered
import SourceAtlas.Path
import SourceAtlas.Project.Profile
import SourceAtlas.Table

namespace SourceAtlas

-- ================================================================= edges

/-- A dependency of one file on another, or on a package directory, whose
path then ends in a slash. -/
structure Edge where
  source : Text
  target : Text
  deriving DecidableEq, Repr

/-- Order by source, then by target. -/
instance : LT Edge :=
  ⟨fun a b => a.source < b.source ∨ (a.source = b.source ∧ a.target < b.target)⟩

instance : DecidableLT Edge := fun a b =>
  inferInstanceAs (Decidable
    (a.source < b.source ∨ (a.source = b.source ∧ a.target < b.target)))

/-- The two ends of an edge, source first. -/
def Edge.ends (e : Edge) : List Text := [e.source, e.target]

/-- Edges are ordered as the lists of their ends are. -/
theorem Edge.lt_iff (a b : Edge) : a < b ↔ a.ends < b.ends :=
  Ordered.pair_lt_pair_iff.symm

/-- An edge is its two ends. -/
theorem Edge.ends_inj (a b : Edge) (h : a.ends = b.ends) : a = b := by
  obtain ⟨source, target⟩ := a
  obtain ⟨source', target'⟩ := b
  simpa [Edge.ends] using h

instance :
    Trans (fun a b : Edge => a < b) (fun a b => a < b) (fun a b => a < b) :=
  ⟨Ordered.lt_trans_of_key Edge.lt_iff⟩

instance : Std.Asymm fun a b : Edge => a < b := Ordered.asymm_of_key Edge.lt_iff

instance : Std.Trichotomous fun a b : Edge => a < b :=
  Ordered.trichotomous_of_key Edge.lt_iff Edge.ends_inj

/-- A set of edges, kept as the strictly increasing list of them. -/
structure EdgeSet where
  edges : List Edge
  increasing : edges.Pairwise (· < ·)
  deriving DecidableEq, Repr

namespace EdgeSet

/-- No edges yet. -/
def empty : EdgeSet := ⟨[], List.Pairwise.nil⟩

/-- Adds an edge, unless it leads from a file to itself. -/
def add (s : EdgeSet) (e : Edge) : EdgeSet :=
  if e.source = e.target then s
  else ⟨Ordered.insert e s.edges, Ordered.pairwise_insert s.increasing⟩

/-- The edges of a list. -/
def ofList (edges : List Edge) : EdgeSet := edges.foldl add empty

/-- The union of two sets. -/
def merge (s other : EdgeSet) : EdgeSet :=
  ⟨Ordered.insertAll other.edges s.edges,
    Ordered.pairwise_insertAll s.increasing⟩

/-- The edges that satisfy `keep`. -/
def filter (s : EdgeSet) (keep : Edge → Bool) : EdgeSet :=
  ⟨s.edges.filter keep, s.increasing.filter keep⟩

/-- How many edges there are. -/
def size (s : EdgeSet) : Nat := s.edges.length

end EdgeSet

-- ================================================================= graphs

/-- The dependencies between the files of a project. -/
structure DependencyGraph where
  project : Project
  generated : Int
  edges : EdgeSet := .empty
  deriving DecidableEq, Repr

namespace DependencyGraph

/-- The directories, with a closing slash, that directly hold a known file. -/
def knownDirectories (known : List Text) : List Text :=
  (known.filter (·.contains '/')).map fun p => Path.parent p ++ ['/']

/-- Whether pruning keeps an edge: its source is a known file, and its target
is one too or, with a closing slash, a directory that directly holds one. -/
def keeps (known : List Text) (e : Edge) : Bool :=
  known.contains e.source &&
    if ['/'].isSuffixOf e.target then (knownDirectories known).contains e.target
    else known.contains e.target

/-- Drops the edges that do not join known files. -/
def prune (g : DependencyGraph) (known : List Text) : DependencyGraph :=
  { g with edges := g.edges.filter (keeps known) }

/-- The endpoints of the edges, strictly increasing. -/
def files (g : DependencyGraph) : List Text :=
  Ordered.ofList (g.edges.edges.flatMap fun e => [e.source, e.target])

/-- Adds a member to the list that a table holds for a key. -/
def appendTo (t : Table (List Text)) (key member : Text) : Table (List Text) :=
  t.put key ((t.get? key).getD [] ++ [member])

/-- Every source with its targets in increasing order. -/
def adjacency (g : DependencyGraph) : Table (List Text) :=
  g.edges.edges.foldl (fun t e => appendTo t e.source e.target) .empty

/-- The cluster of a file: its directory cut to two components, or a dot at
the root. -/
def clusterOf (path : Text) : Text :=
  let parent := Path.directory (Text.trimEnd (· == '/') path)
  if parent.isEmpty then ['.']
  else Text.join ['/'] ((Path.components parent).take 2)

/-- The clusters in increasing order, each with its files. -/
def clusters (g : DependencyGraph) : List (Text × List Text) :=
  (g.files.foldl (fun t p => appendTo t (clusterOf p) p) Table.empty).sorted

end DependencyGraph

end SourceAtlas
