/-
What the two diagrams say about a graph. A diagram knows a file by its
identifier, in which everything but ASCII letters and digits is an underscore,
so it cannot tell files apart that differ in other characters only, here
lookalikes. That is the only thing it loses: the line of an edge holds the two
identifiers with a separator that occurs in neither
(`mermaidEdge_eq_iff`, `dotEdge_eq_iff`), and each diagram has a line for every
file, every cluster and every edge (`draws_mermaid`, `draws_dot`).
-/
import Mathlib.Data.List.Basic
import Mathlib.Data.List.Forall2
import SourceAtlas.Proofs.Graph.Clusters
import SourceAtlas.Proofs.Text.Split

namespace SourceAtlas.DependencyGraph

variable {p q : Text} {g h : DependencyGraph}

-- =========================================================== identifiers

/-- Characters that an identifier does not tell apart. -/
def Alike (c d : Char) : Prop :=
  c = d ∨ (c.isAlphanum = false ∧ d.isAlphanum = false)

/-- Paths that differ only in characters that identifiers do not show. -/
def Lookalike (p q : Text) : Prop := List.Forall₂ Alike p q

/-- Characters are alike if they are written alike. -/
theorem alike_iff {c d : Char} :
    Alike c d ↔ (if c.isAlphanum then c else '_') = if d.isAlphanum then d
      else '_' := by
  have hplain : '_'.isAlphanum = false := by decide
  rw [Alike]
  constructor
  · rintro (rfl | ⟨hc, hd⟩)
    · rfl
    · simp [hc, hd]
  · intro h
    by_cases hc : c.isAlphanum
    · by_cases hd : d.isAlphanum
      · left
        simpa [hc, hd] using h
      · -- a letter or digit is no underscore
        rw [if_pos hc, if_neg hd] at h
        rw [h, hplain] at hc
        cases hc
    · by_cases hd : d.isAlphanum
      · rw [if_neg hc, if_pos hd] at h
        rw [← h, hplain] at hd
        cases hd
      · right
        exact ⟨by simpa using hc, by simpa using hd⟩

/-- Two paths share an identifier exactly if they look alike. -/
theorem nodeId_eq_iff : nodeId p = nodeId q ↔ Lookalike p q := by
  have halike : Alike = fun c d =>
      (if c.isAlphanum then c else '_') = if d.isAlphanum then d else '_' := by
    funext c d
    exact propext alike_iff
  rw [Lookalike, halike, nodeId, nodeId, ← List.forall₂_eq_eq_eq,
    List.forall₂_map_left_iff, List.forall₂_map_right_iff]

/-- Identifiers are made of letters, digits and underscores. -/
theorem notMem_nodeId {c : Char} (hc : c.isAlphanum = false) (hne : c ≠ '_')
    (p : Text) : c ∉ nodeId p := by
  intro hmem
  obtain ⟨d, -, hd⟩ := List.mem_map.1 hmem
  split at hd
  case isTrue h =>
    rw [hd, hc] at h
    cases h
  case isFalse => exact hne hd.symm

/-- The name that a cluster goes by in its identifier. -/
def clusterName (cluster : Text) : Text :=
  if cluster = ['.'] then "root".toList else cluster

/-- Two clusters share an identifier exactly if their names look alike. -/
theorem clusterId_eq_iff {a b : Text} :
    clusterId a = clusterId b ↔ Lookalike (clusterName a) (clusterName b) := by
  have hname : ∀ cluster, clusterId cluster = nodeId (clusterName cluster) := by
    intro cluster
    rw [clusterId, clusterName]
    split
    · decide
    · rfl
  rw [hname, hname, nodeId_eq_iff]

-- ================================================================= edges

/-- A text is cut in one way where a separator begins that the first part does
not hold. -/
theorem append_separator_inj {c : Char} {sep more a b a' b' : Text}
    (hsep : sep = c :: more) (ha : c ∉ a) (ha' : c ∉ a') :
    a ++ sep ++ b = a' ++ sep ++ b' ↔ a = a' ∧ b = b' := by
  subst hsep
  rw [List.append_assoc, List.append_assoc]
  constructor
  · intro h
    obtain ⟨rfl, hrest⟩ := Text.eq_of_append_separator ha ha' h
    exact ⟨rfl, List.append_cancel_left hrest⟩
  · rintro ⟨rfl, rfl⟩
    rfl

/-- Edges whose ends are lookalikes. -/
def EdgeLookalike (e f : Edge) : Prop :=
  Lookalike e.source f.source ∧ Lookalike e.target f.target

/-- Two edges share a line exactly if both ends look alike. -/
theorem mermaidEdge_eq_iff (e f : Edge) :
    mermaidEdge e = mermaidEdge f ↔ EdgeLookalike e f := by
  have hspace : ∀ path, ' ' ∉ nodeId path :=
      notMem_nodeId (by decide) (by decide)
  have harrow : " --> ".toList = ' ' :: "--> ".toList := by decide
  have hgroup (a b c d : Text) : a ++ b ++ c ++ d = a ++ (b ++ c ++ d) := by
    simp only [List.append_assoc]
  have hline : ∀ x : Edge, mermaidEdge x
      = "  ".toList ++ (nodeId x.source ++ " --> ".toList ++ nodeId x.target) :=
    fun x => hgroup _ _ _ _
  rw [hline, hline, List.append_cancel_left_eq,
    append_separator_inj harrow (hspace e.source) (hspace f.source),
    nodeId_eq_iff, nodeId_eq_iff]
  rfl

theorem dotEdge_eq_iff (e f : Edge) :
    dotEdge e = dotEdge f ↔ EdgeLookalike e f := by
  have hquote : ∀ path, '\x22' ∉ nodeId path :=
      notMem_nodeId (by decide) (by decide)
  have harrow : "\" -> \"".toList = '\x22' :: " -> \"".toList := by decide
  have hgroup (a b c d e : Text) : a ++ b ++ c ++ d ++ e
      = a ++ (b ++ c ++ (d ++ e)) := by
    simp only [List.append_assoc]
  have hline :
      ∀ x : Edge, dotEdge x
        = "  \"".toList ++ (nodeId x.source ++ "\" -> \"".toList
          ++ (nodeId x.target ++ "\";".toList)) :=
    fun x => hgroup _ _ _ _ _
  rw [hline, hline, List.append_cancel_left_eq,
    append_separator_inj harrow (hquote e.source) (hquote f.source),
    List.append_cancel_right_eq, nodeId_eq_iff, nodeId_eq_iff]
  rfl

/-- The source of an edge is a file of the graph. -/
theorem source_mem_files {e : Edge} (he : e ∈ g.edges.edges) :
    e.source ∈ g.files :=
  mem_files_iff.mpr ⟨e, he, .inl rfl⟩

theorem target_mem_files {e : Edge} (he : e ∈ g.edges.edges) :
    e.target ∈ g.files :=
  mem_files_iff.mpr ⟨e, he, .inr rfl⟩

/-- Lines that show edges up to lookalikes show which edges there are, unless
one graph has a file that the other has a lookalike of. -/
theorem mem_of_lines {line : Edge → Text}
    (hline : ∀ e f, line e = line f ↔ EdgeLookalike e f)
    (halone : ∀ p ∈ g.files, ∀ q ∈ h.files, Lookalike p q → p = q)
    (hlines : ∀ l ∈ g.edges.edges.map line, l ∈ h.edges.edges.map line)
    {e : Edge} (he : e ∈ g.edges.edges) : e ∈ h.edges.edges := by
  obtain ⟨f, hf, hsame⟩ :=
    List.mem_map.1 (hlines (line e) (List.mem_map_of_mem he))
  obtain ⟨hsource, htarget⟩ := (hline e f).mp hsame.symm
  have hsource : e.source = f.source :=
    halone _ (source_mem_files he) _ (source_mem_files hf) hsource
  have htarget : e.target = f.target :=
    halone _ (target_mem_files he) _ (target_mem_files hf) htarget
  have hef : e = f := by
    cases e
    cases f
    exact congrArg₂ Edge.mk hsource htarget
  rwa [hef]

/-- Where no two files look alike, graphs with the same edge lines have the same
edges. -/
theorem lines_iff_edges {line : Edge → Text}
    (hline : ∀ e f, line e = line f ↔ EdgeLookalike e f)
    (halone : ∀ p ∈ g.files, ∀ q ∈ h.files, Lookalike p q → p = q) :
    (∀ l, l ∈ g.edges.edges.map line ↔ l ∈ h.edges.edges.map line)
      ↔ ∀ e, e ∈ g.edges.edges ↔ e ∈ h.edges.edges := by
  have hback : ∀ q ∈ h.files, ∀ p ∈ g.files, Lookalike q p → q = p := by
    intro q hq p hp hqp
    have hpq : Lookalike p q := nodeId_eq_iff.mp (nodeId_eq_iff.mpr hqp).symm
    exact (halone p hp q hq hpq).symm
  constructor
  · intro hlines e
    constructor
    · exact mem_of_lines hline halone fun l => (hlines l).mp
    · exact mem_of_lines hline hback fun l => (hlines l).mpr
  · intro hedges l
    simp only [List.mem_map, hedges]

-- ============================================================== diagrams

/-- The text has lines that declare the files and the clusters of a graph, and
between other lines one for each of its edges, in their order. -/
def Draws (g : DependencyGraph) (fileLine clusterLine : Text → Text)
    (edgeLine : Edge → Text) (text : Text) : Prop :=
  ∃ front back, text = unlines (front ++ g.edges.edges.map edgeLine ++ back)
    ∧ (∀ p ∈ g.files, fileLine p ∈ front)
    ∧ ∀ cluster ∈ g.clusters, clusterLine cluster.1 ∈ front

/-- A diagram draws the graph if it has a block for every cluster and a line for
every edge. -/
theorem draws_of_clusters {fileLine clusterLine : Text → Text}
    {edgeLine : Edge → Text} {clusterLines : Text × List Text → List Text}
    (hhead : ∀ cluster, clusterLine cluster.1 ∈ clusterLines cluster)
    (hfile : ∀ cluster, ∀ p ∈ cluster.2, fileLine p ∈ clusterLines cluster)
    {text : Text} {header between back : List Text}
    (htext : text = unlines (header ++ g.clusters.flatMap clusterLines
      ++ between ++ g.edges.edges.map edgeLine ++ back)) :
    g.Draws fileLine clusterLine edgeLine text := by
  refine ⟨_, back, htext, ?_, ?_⟩
  · intro p hp
    obtain ⟨members, hcluster, hmem⟩ := exists_mem_clusters hp
    have hline :=
      List.mem_flatMap.2 ⟨_, hcluster, hfile (clusterOf p, members) p hmem⟩
    exact List.mem_append_left _ (List.mem_append_right _ hline)
  · intro cluster hcluster
    have hline := List.mem_flatMap.2 ⟨_, hcluster, hhead cluster⟩
    exact List.mem_append_left _ (List.mem_append_right _ hline)

/-- The line of a mermaid diagram that declares a file. -/
def mermaidNode (path : Text) : Text :=
  "    ".toList ++ nodeId path ++ "[\"".toList ++ nodeLabel path ++ "\"]".toList

/-- The line of a mermaid diagram that opens a cluster. -/
def mermaidHead (cluster : Text) : Text :=
  "  subgraph cluster_".toList ++ clusterId cluster ++ "[\"".toList ++ cluster
    ++ "\"]".toList

theorem draws_mermaid (g : DependencyGraph) :
    g.Draws mermaidNode mermaidHead mermaidEdge g.mermaid := by
  apply draws_of_clusters
  case clusterLines => exact mermaidCluster
  case hhead =>
    intro cluster
    exact List.mem_append_left _ List.mem_cons_self
  case hfile =>
    intro cluster p hp
    have hline : mermaidNode p ∈ cluster.2.map mermaidNode :=
      List.mem_map_of_mem hp
    exact List.mem_append_left _ (List.mem_cons_of_mem _ hline)
  case htext =>
    rw [mermaid, List.append_assoc _ _ (legend g.edges.edges)]

/-- The line of a dot diagram that opens a cluster. -/
def dotHead (cluster : Text) : Text :=
  "  subgraph cluster_".toList ++ clusterId cluster ++ [' ', '\x7b']

theorem draws_dot (g : DependencyGraph) :
    g.Draws dotNode dotHead dotEdge g.dot := by
  apply draws_of_clusters
  case clusterLines => exact dotCluster
  case hhead =>
    intro cluster
    exact List.mem_append_left _ (List.mem_append_left _ List.mem_cons_self)
  case hfile =>
    intro cluster p hp
    have hline : dotNode p ∈ cluster.2.map dotNode := List.mem_map_of_mem hp
    exact List.mem_append_left _ (List.mem_append_right _ hline)
  case htext =>
      exact congrArg (fun lines => unlines (lines ++ [['\x7d']]))
        (List.append_cons _ _ _)

-- ===================================================== what is identified

/-- Either diagram declares every file and every cluster and lists every edge,
all of them up to lookalikes and no further: files of one identifier, clusters
of one identifier and edges of one line are lookalikes. Its edge lines
therefore tell a graph from every other one, unless one of the two has a file
and the other a lookalike of it. -/
theorem diagrams_identify_up_to_lookalikes (g h : DependencyGraph) :
    g.Draws mermaidNode mermaidHead mermaidEdge g.mermaid
      ∧ g.Draws dotNode dotHead dotEdge g.dot
      ∧ (∀ p ∈ g.files, ∀ q ∈ g.files, nodeId p = nodeId q ↔ Lookalike p q)
      ∧ (∀ a ∈ g.clusters, ∀ b ∈ g.clusters,
          clusterId a.1 = clusterId b.1
            ↔ Lookalike (clusterName a.1) (clusterName b.1))
      ∧ (∀ e ∈ g.edges.edges, ∀ f ∈ h.edges.edges,
          (mermaidEdge e = mermaidEdge f ↔ EdgeLookalike e f)
            ∧ (dotEdge e = dotEdge f ↔ EdgeLookalike e f))
      ∧ ((∀ p ∈ g.files, ∀ q ∈ h.files, Lookalike p q → p = q) →
          ((∀ l, l ∈ g.edges.edges.map mermaidEdge
            ↔ l ∈ h.edges.edges.map mermaidEdge)
              ↔ ∀ e, e ∈ g.edges.edges ↔ e ∈ h.edges.edges)
            ∧ ((∀ l, l ∈ g.edges.edges.map dotEdge
              ↔ l ∈ h.edges.edges.map dotEdge)
              ↔ ∀ e, e ∈ g.edges.edges ↔ e ∈ h.edges.edges)) := by
  refine ⟨draws_mermaid g, draws_dot g, ?_, ?_, ?_, ?_⟩
  · intro p _ q _
    exact nodeId_eq_iff
  · intro a _ b _
    exact clusterId_eq_iff
  · intro e _ f _
    exact ⟨mermaidEdge_eq_iff e f, dotEdge_eq_iff e f⟩
  · intro halone
    exact ⟨lines_iff_edges mermaidEdge_eq_iff halone,
      lines_iff_edges dotEdge_eq_iff halone⟩

/-- A file that imports one in a directory, which imports a third. -/
def twoSteps (first last : String) : DependencyGraph :=
  ⟨⟨.node, .none, []⟩, 0, .ofList [⟨first, "root/c.ts"⟩, ⟨"root/c.ts", last⟩]⟩

theorem diagrams_identify_up_to_lookalikes_twoSteps :
    (∀ p ∈ (twoSteps "a.ts" "b.ts").files, ∀ q ∈ (twoSteps "b.ts" "a.ts").files,
        Lookalike p q → p = q)
      ∧ ¬ ∀ l, l ∈ (twoSteps "a.ts" "b.ts").edges.edges.map dotEdge
          ↔ l ∈ (twoSteps "b.ts" "a.ts").edges.edges.map dotEdge := by
  have hids :
      ∀ p ∈ (twoSteps "a.ts" "b.ts").files,
        ∀ q ∈ (twoSteps "b.ts" "a.ts").files, nodeId p = nodeId q → p = q := by
    decide +kernel
  have halone :
      ∀ p ∈ (twoSteps "a.ts" "b.ts").files,
        ∀ q ∈ (twoSteps "b.ts" "a.ts").files, Lookalike p q → p = q := by
    intro p hp q hq hpq
    exact hids p hp q hq (nodeId_eq_iff.mpr hpq)
  refine ⟨halone, ?_⟩
  intro hlines
  obtain ⟨-, -, -, -, -, hdetermine⟩ :=
    diagrams_identify_up_to_lookalikes (twoSteps "a.ts" "b.ts")
      (twoSteps "b.ts" "a.ts")
  have hedges :=
    (hdetermine halone).2.mp hlines ⟨"a.ts".toList, "root/c.ts".toList⟩
  revert hedges
  decide +kernel

/-- The two files at the root have one identifier, and so have the root and
the directory; the other way round there is the same diagram of other edges. -/
theorem diagrams_confuse_lookalikes :
    ∃ g h : DependencyGraph,
      (∃ p ∈ g.files, ∃ q ∈ g.files, p ≠ q ∧ nodeId p = nodeId q)
        ∧ (∃ a ∈ g.clusters,
          ∃ b ∈ g.clusters, a.1 ≠ b.1 ∧ clusterId a.1 = clusterId b.1)
        ∧ g.edges.edges.map mermaidEdge = h.edges.edges.map mermaidEdge
        ∧ g.dot = h.dot ∧ g.edges ≠ h.edges := by
  refine ⟨twoSteps "a-b.ts" "a_b.ts", twoSteps "a_b.ts" "a-b.ts", ?_,
    ?_, ?_, ?_, ?_⟩
  all_goals decide +kernel

end SourceAtlas.DependencyGraph
