/-
The two diagrams of a graph are drawn in a style each, so what is read off them
is the graph. The clusters are a partition of the files, so every file has one
line, in the subgraph of its cluster.

A role is told from how a line starts: identifiers hold word characters only,
and names of clusters and files stand behind what is written in front of them.
-/
import SourceAtlas.Proofs.Graph.Style
import SourceAtlas.Proofs.Path.Components
import SourceAtlas.Proofs.Text.Decimal

namespace SourceAtlas.DependencyGraph

variable {g : DependencyGraph} {lines rest : List Text}

-- ============================================================= characters

/-- The last name of a path has no character that the path lacks. -/
theorem notMem_lastName {c : Char} {p : Text} (hp : c ∉ p) : c ∉ lastName p :=
  fun hc => hp ((Text.isPrefix_trimEnd _ p).subset (Path.mem_of_mem_base hc))

theorem notMem_nodeLabel {c : Char} {p : Text} (hp : c ∉ p) :
    c ∉ nodeLabel p := by
  unfold nodeLabel
  split
  · exact notMem_lastName hp
  · exact fun hc => hp (Path.mem_of_mem_stem hc)

/-- Escaping adds backslashes. -/
theorem notMem_escapeLabel {c : Char} {t : Text} (hc : c ≠ '\x5c')
    (ht : c ∉ t) : c ∉ escapeLabel t := by
  intro hmem
  obtain ⟨d, hd, hmem⟩ := List.mem_flatMap.mp hmem
  split at hmem
  case isTrue hquote =>
    rcases List.mem_cons.mp hmem with rfl | hmem
    · exact hc rfl
    · rw [List.mem_singleton.mp hmem, ← hquote] at ht
      exact ht hd
  case isFalse => exact ht (List.mem_singleton.mp hmem ▸ hd)

/-- Identifiers are made of word characters, so no line ends in one. -/
theorem newline_notMem_nodeId (p : Text) : '\n' ∉ nodeId p :=
  notMem_nodeId (by decide) (by decide) p

theorem newline_notMem_clusterId (cluster : Text) :
    '\n' ∉ clusterId cluster := by
  unfold clusterId
  split
  · decide
  · exact newline_notMem_nodeId cluster

-- ================================================================ mermaid

/-- What a line of a mermaid diagram does. -/
def mermaidRole (line : Text) : LineRole :=
  if "    ".toList.isPrefixOf line then .node
  else if "  subgraph cluster_".toList.isPrefixOf line then .opens
  else if line = "  end".toList then .closes
  else if "  ".toList.isPrefixOf line then .edge
  else .other

/-- The line of an edge begins with two blanks and an identifier, behind which
stands an arrow. -/
theorem mermaidRole_mermaidEdge (e : Edge) :
    mermaidRole (mermaidEdge e) = .edge := by
  have hspace : ' ' ∉ nodeId e.source :=
    notMem_nodeId (by decide) (by decide) e.source
  have hline : mermaidEdge e
      = "  ".toList
        ++ (nodeId e.source ++ ' ' :: ("--> ".toList ++ nodeId e.target)) := by
    simp [mermaidEdge]
  -- An identifier has no blank, so what follows the two blanks of the line is
  -- the start of none of the other lines.
  have hnode : ¬ "  ".toList
      <+: nodeId e.source ++ ' ' :: ("--> ".toList ++ nodeId e.target) := by
    rintro ⟨more, hmore⟩
    cases hsource : nodeId e.source with
    | nil => simp [hsource] at hmore
    | cons c id =>
        rw [hsource] at hmore hspace
        simp only [String.reduceToList, List.cons_append, List.cons.injEq]
          at hmore
        exact hspace (hmore.1 ▸ List.mem_cons_self)
  have hopens : ¬ "subgraph cluster_".toList
      <+: nodeId e.source ++ ' ' :: ("--> ".toList ++ nodeId e.target) := by
    rintro ⟨more, hmore⟩
    have hcut : "subgraph cluster_".toList ++ more
        = "subgraph".toList ++ ' ' :: ("cluster_".toList ++ more) := by simp
    rw [hcut] at hmore
    obtain ⟨-, harrow⟩ := Text.eq_of_append_separator (by decide) hspace hmore
    simp at harrow
  have hcloses : nodeId e.source ++ ' ' :: ("--> ".toList ++ nodeId e.target)
      ≠ "end".toList := by
    intro hend
    have hmem : ' ' ∈ "end".toList := by
      rw [← hend]
      exact List.mem_append_right _ List.mem_cons_self
    exact absurd hmem (by decide)
  have hblanks : "    ".toList = "  ".toList ++ "  ".toList := by decide
  have hhead : "  subgraph cluster_".toList
      = "  ".toList ++ "subgraph cluster_".toList := by decide
  have hend : "  end".toList = "  ".toList ++ "end".toList := by decide
  unfold mermaidRole
  rw [hline, if_neg, if_neg, if_neg, if_pos]
  · exact List.isPrefixOf_iff_prefix.mpr (List.prefix_append _ _)
  · rw [hend, List.append_cancel_left_eq]
    exact hcloses
  · rwa [List.isPrefixOf_iff_prefix, hhead, List.prefix_append_right_inj]
  · rwa [List.isPrefixOf_iff_prefix, hblanks, List.prefix_append_right_inj]

/-- How a mermaid diagram is written. -/
def mermaidStyle : DiagramStyle where
  role := mermaidRole
  head := mermaidHead
  inner _ := []
  node := mermaidNode
  close := "  end"
  after := []
  edge := mermaidEdge
  role_head _ := rfl
  role_inner _ _ h := absurd h List.not_mem_nil
  role_node _ := rfl
  role_close := rfl
  role_after _ h := absurd h List.not_mem_nil
  role_edge := mermaidRole_mermaidEdge

/-- In the first style a head is one line. -/
theorem newline_notMem_mermaidHead {cluster : Text} (h : '\n' ∉ cluster) :
    '\n' ∉ mermaidHead cluster := by
  unfold mermaidHead
  simp only [List.mem_append, newline_notMem_clusterId, h, or_false]
  decide

theorem newline_notMem_mermaidNode {p : Text} (hp : '\n' ∉ p) :
    '\n' ∉ mermaidNode p := by
  unfold mermaidNode
  simp only [List.mem_append, newline_notMem_nodeId,
    notMem_nodeLabel hp, or_false]
  decide

theorem newline_notMem_mermaidEdge (e : Edge) : '\n' ∉ mermaidEdge e := by
  unfold mermaidEdge
  simp only [List.mem_append, newline_notMem_nodeId, or_false]
  decide

theorem oneLine_mermaidStyle : mermaidStyle.OneLine where
  head _ := newline_notMem_mermaidHead
  inner _ _ _ hline := absurd hline List.not_mem_nil
  node _ := newline_notMem_mermaidNode
  close := by decide
  after _ hline := absurd hline List.not_mem_nil
  edge := newline_notMem_mermaidEdge

-- ==================================================================== dot

/-- What a line of a dot diagram does. -/
def dotRole (line : Text) : LineRole :=
  if "    \"".toList.isPrefixOf line then .node
  else if "  subgraph cluster_".toList.isPrefixOf line then .opens
  else if line = [' ', ' ', '\x7d'] then .closes
  else if "  \"".toList.isPrefixOf line then .edge
  else .other

/-- How a dot diagram is written. -/
def dotStyle : DiagramStyle where
  role := dotRole
  head := dotHead
  inner cluster :=
    ["    label=\"".toList ++ escapeLabel cluster ++ "\";".toList,
      "    style=dashed;".toList]
  node := dotNode
  close := [' ', ' ', '\x7d']
  after := [[]]
  edge := dotEdge
  role_head _ := rfl
  role_inner _ line h := by
    rcases List.mem_cons.mp h with rfl | h
    · rfl
    · rw [List.mem_singleton.mp h]
      rfl
  role_node _ := rfl
  role_close := rfl
  role_after line h := by
    rw [List.mem_singleton.mp h]
    rfl
  role_edge _ := rfl

/-- In the second style a label has no line end. -/
theorem newline_notMem_dotLabel {p : Text} (hp : '\n' ∉ p) :
    '\n' ∉ dotLabel p := by
  unfold dotLabel
  rw [List.mem_append, not_or]
  refine ⟨notMem_lastName hp, ?_⟩
  split <;> decide

theorem newline_notMem_dotHead (cluster : Text) : '\n' ∉ dotHead cluster := by
  unfold dotHead
  simp only [List.mem_append, newline_notMem_clusterId, or_false]
  decide

theorem newline_notMem_dotNode {p : Text} (hp : '\n' ∉ p) :
    '\n' ∉ dotNode p := by
  have hlabel := notMem_escapeLabel (by decide) (newline_notMem_dotLabel hp)
  unfold dotNode
  simp only [List.mem_append, newline_notMem_nodeId, hlabel, or_false]
  decide

theorem newline_notMem_dotEdge (e : Edge) : '\n' ∉ dotEdge e := by
  unfold dotEdge
  simp only [List.mem_append, newline_notMem_nodeId, or_false]
  decide

theorem oneLine_dotStyle : dotStyle.OneLine where
  head cluster _ := newline_notMem_dotHead cluster
  inner cluster h line hline := by
    rcases List.mem_cons.mp hline with rfl | hline
    · simp only [List.mem_append, notMem_escapeLabel (by decide) h, or_false]
      decide
    · rw [List.mem_singleton.mp hline]
      decide
  node _ := newline_notMem_dotNode
  close := by decide
  after line hline := by
    rw [List.mem_singleton.mp hline]
    decide
  edge := newline_notMem_dotEdge

-- ================================================================= legend

/-- The title of the legend. -/
def legendTitle : Text := "%% Full paths:"

/-- The line of an edge in the legend. -/
def legendEdge (e : Edge) : Text :=
  "%%   ".toList ++ e.source ++ " -> ".toList ++ e.target

/-- The line for the edges that the legend leaves out. -/
def legendMore (n : Nat) : Text :=
  "%%   ... and ".toList ++ Text.ofNat n ++ " more edges".toList

/-- The legend names twenty edges or all, and then says how many are left. -/
theorem legend_eq (edges : List Edge) : legend edges
    = (edges.take (min 20 edges.length)).map legendEdge
      ++ if 20 < edges.length then [legendMore (edges.length - 20)]
        else [] := by
  rw [← List.take_eq_take_min]
  rfl

-- =============================================================== diagrams

/-- The lines of a mermaid diagram before those of the clusters. -/
def mermaidFront (g : DependencyGraph) : List Text :=
  ["%% Dependency Graph".toList, "%% Profile: ".toList ++ g.project.kind,
    "%% Read this to understand import relationships".toList, [],
    "graph LR".toList]

/-- The lines of a mermaid diagram. -/
def mermaidLines (g : DependencyGraph) : List Text :=
  mermaidStyle.layout g g.mermaidFront
    (if g.edges.edges.isEmpty then [] else [[]])
    ([] :: legendTitle :: legend g.edges.edges)

theorem mermaid_eq_unlines (g : DependencyGraph) :
    g.mermaid = unlines g.mermaidLines := by
  have hblock : mermaidCluster = mermaidStyle.block := rfl
  unfold mermaid mermaidLines DiagramStyle.layout
  rw [hblock]
  simp only [List.append_assoc]
  rfl

/-- The lines of the legend play no role in the drawing. -/
theorem mermaidRole_of_mem_legend :
    ∀ line ∈ legend g.edges.edges, mermaidRole line = .other := by
  intro line hline
  rw [legend_eq] at hline
  rcases List.mem_append.mp hline with hline | hline
  · obtain ⟨e, -, rfl⟩ := List.mem_map.mp hline
    rfl
  · rw [List.mem_singleton.mp (List.mem_ite_nil_right.mp hline).2]
    rfl

/-- The lines of the first diagram are read back. -/
theorem reads_mermaidLines (g : DependencyGraph) :
    mermaidStyle.Reads g g.edges.edges g.mermaidLines := by
  apply DiagramStyle.reads_layout
  case hfront =>
    simp only [mermaidFront, List.forall_mem_cons]
    exact ⟨rfl, rfl, rfl, rfl, rfl, fun _ h => absurd h List.not_mem_nil⟩
  case hbetween =>
    intro line hline
    rw [List.mem_singleton.mp (List.mem_ite_nil_left.mp hline).2]
    rfl
  case hback =>
    simp only [List.forall_mem_cons]
    exact ⟨rfl, rfl, mermaidRole_of_mem_legend⟩

/-- The lines of a dot diagram before those of the clusters. -/
def dotFront : List Text :=
  ["// Dependency Graph".toList,
    "// Render with: dot -Tsvg deps.dot -o deps.svg".toList, [],
    "digraph deps \x7b".toList, "  rankdir=LR;".toList,
    "  node [shape=box, style=rounded, fontsize=10];".toList,
    "  edge [arrowsize=0.7];".toList, []]

/-- The lines of a dot diagram. -/
def dotLines (g : DependencyGraph) : List Text :=
  dotStyle.layout g dotFront ["  // Dependencies".toList] [['\x7d']]

theorem dot_eq_unlines (g : DependencyGraph) : g.dot = unlines g.dotLines := by
  have hblock : dotCluster = dotStyle.block := rfl
  unfold dot dotLines DiagramStyle.layout
  rw [hblock]
  simp only [List.append_assoc, List.cons_append]
  rfl

/-- The lines of the second diagram are read back. -/
theorem reads_dotLines (g : DependencyGraph) :
    dotStyle.Reads g g.edges.edges g.dotLines := by
  apply DiagramStyle.reads_layout
  case hfront => decide
  case hbetween => decide
  case hback => decide

/-- Every line of a cluster in a mermaid diagram has a role. -/
theorem mermaidRole_of_mem_block {cluster : Text × List Text} :
    ∀ line ∈ mermaidStyle.block cluster, mermaidRole line ≠ .other := by
  intro line hline
  rcases List.mem_cons.mp hline with rfl | hline
  · exact nofun
  rcases List.mem_append.mp hline with hnode | hclose
  · obtain ⟨p, -, rfl⟩ := List.mem_map.mp hnode
    exact nofun
  · rw [List.mem_singleton.mp hclose]
    exact nofun

/-- The legend is what stands under its title. -/
theorem dropWhile_mermaidLines (g : DependencyGraph) :
    g.mermaidLines.dropWhile (fun line => line ≠ legendTitle)
      = legendTitle :: legend g.edges.edges := by
  have hrole : ∀ line, mermaidRole line ≠ .other → line ≠ legendTitle := by
    rintro line hline rfl
    exact hline rfl
  have hgap : ∀ line ∈ (if g.edges.edges.isEmpty then [] else [[]] : List Text),
      line ≠ legendTitle := by
    intro line hline
    rw [List.mem_singleton.mp (List.mem_ite_nil_left.mp hline).2]
    exact nofun
  have hbefore :
      ∀ line ∈ g.mermaidFront
        ++ (g.clusters.flatMap mermaidStyle.block
          ++ ((if g.edges.edges.isEmpty then [] else [[]])
            ++ (g.edges.edges.map mermaidEdge ++ [[]]))),
        line ≠ legendTitle := by
    simp only [List.forall_mem_append, List.forall_mem_cons]
    -- The profile is the one part of the front that is not fixed.
    refine ⟨?_, ?_, hgap, ?_, nofun, fun _ h => absurd h List.not_mem_nil⟩
    · have hprofile : "%% Profile: ".toList ++ g.project.kind
          ≠ legendTitle := by
        intro htitle
        have hprefix := List.prefix_append "%% Profile: ".toList g.project.kind
        rw [htitle] at hprefix
        exact absurd hprefix (by decide)
      simp only [mermaidFront, List.forall_mem_cons]
      exact ⟨by decide, hprofile, by decide, nofun, by decide,
        fun _ h => absurd h List.not_mem_nil⟩
    · intro line hline
      obtain ⟨cluster, -, hline⟩ := List.mem_flatMap.mp hline
      exact hrole line (mermaidRole_of_mem_block line hline)
    · intro line hline
      obtain ⟨e, -, rfl⟩ := List.mem_map.mp hline
      exact hrole _ (by rw [mermaidRole_mermaidEdge]; exact nofun)
  have hlines : g.mermaidLines
      = (g.mermaidFront ++ (g.clusters.flatMap mermaidStyle.block
        ++ ((if g.edges.edges.isEmpty then [] else [[]])
          ++ (g.edges.edges.map mermaidEdge ++ [[]]))))
      ++ legendTitle :: legend g.edges.edges := by
    unfold mermaidLines DiagramStyle.layout
    simp only [List.append_assoc]
    rfl
  rw [hlines, List.dropWhile_append_of_pos fun line hline =>
    decide_eq_true (hbefore line hline), List.dropWhile_cons_of_neg (by simp)]

-- ===================================================== without line feeds

/-- The kind of a project is one line. -/
theorem newline_notMem_kind (project : Project) : '\n' ∉ project.kind := by
  unfold Project.kind
  split
  · cases project.framework <;> decide
  · cases project.profile <;> decide

/-- Each entry of the legend is one line. -/
theorem newline_notMem_legend (hfiles : ∀ p ∈ g.files, '\n' ∉ p) :
    ∀ line ∈ legend g.edges.edges, '\n' ∉ line := by
  intro line hline
  rw [legend_eq] at hline
  rcases List.mem_append.mp hline with hline | hline
  · obtain ⟨e, he, rfl⟩ := List.mem_map.mp hline
    have hmem : e ∈ g.edges.edges := List.mem_of_mem_take he
    unfold legendEdge
    simp only [List.mem_append, hfiles _ (source_mem_files hmem),
      hfiles _ (target_mem_files hmem), or_false]
    decide
  · rw [List.mem_singleton.mp (List.mem_ite_nil_right.mp hline).2]
    have hnumeral : '\n' ∉ Text.ofNat (g.edges.edges.length - 20) := fun hmem =>
      absurd (Text.isDigit_of_mem_ofNat hmem) (by decide)
    unfold legendMore
    simp only [List.mem_append, hnumeral, or_false]
    decide

/-- The first diagram falls into its lines. -/
theorem split_mermaid (hfiles : ∀ p ∈ g.files, '\n' ∉ p) :
    Text.split '\n' g.mermaid = g.mermaidLines ++ [[]] := by
  rw [mermaid_eq_unlines]
  apply DiagramStyle.OneLine.split_unlines_layout oneLine_mermaidStyle hfiles
  case hne => exact List.cons_ne_nil _ _
  case hfront =>
    have hkind : '\n' ∉ "%% Profile: ".toList ++ g.project.kind := by
      simp only [List.mem_append, newline_notMem_kind, or_false]
      decide
    simp only [mermaidFront, List.forall_mem_cons]
    exact ⟨by decide, hkind, by decide, by decide, by decide,
      fun _ h => absurd h List.not_mem_nil⟩
  case hbetween =>
    intro line hline
    rw [List.mem_singleton.mp (List.mem_ite_nil_left.mp hline).2]
    exact List.not_mem_nil
  case hback =>
    simp only [List.forall_mem_cons]
    exact ⟨List.not_mem_nil, by decide, newline_notMem_legend hfiles⟩

/-- The second diagram falls into its lines. -/
theorem split_dot (hfiles : ∀ p ∈ g.files, '\n' ∉ p) :
    Text.split '\n' g.dot = g.dotLines ++ [[]] := by
  rw [dot_eq_unlines]
  apply DiagramStyle.OneLine.split_unlines_layout oneLine_dotStyle hfiles
  case hne => exact List.cons_ne_nil _ _
  case hfront => decide
  case hbetween => decide
  case hback => decide

-- ========================================================== the partition

/-- The clusters, in increasing order, are a partition of the files, each of
them with some files in increasing order. Both diagrams are drawn along it:
every file has one line, in the subgraph of its cluster, every edge has one
line, in the order of the edges, and the ends of an edge have theirs. The
legend of the mermaid diagram names the first twenty edges or all, and then
says how many more there are, if any. -/
theorem diagrams_show_the_partition (g : DependencyGraph) :
    (g.clusters.map (·.1)).Pairwise (· < ·)
      ∧ (∀ cluster ∈ g.clusters, cluster.2 ≠ [] ∧ cluster.2.Pairwise (· < ·))
      ∧ (∀ p, p ∈ g.clusteredFiles ↔ p ∈ g.files)
      ∧ (∀ p ∈ g.files, g.clusteredFiles.count p = 1
        ∧ ∃ members, (clusterOf p, members) ∈ g.clusters ∧ p ∈ members)
      ∧ ∃ sorted : List Edge, sorted.Pairwise (· < ·)
        ∧ (∀ e, e ∈ sorted ↔ e ∈ g.edges.edges)
        ∧ (g.mermaid = unlines g.mermaidLines
          ∧ ((∀ p ∈ g.files, '\n' ∉ p)
            → Text.split '\n' g.mermaid = g.mermaidLines ++ [[]])
          ∧ mermaidStyle.Reads g sorted g.mermaidLines
          ∧ g.mermaidLines.dropWhile (fun line => line ≠ legendTitle)
            = legendTitle
              :: ((sorted.take (min 20 sorted.length)).map legendEdge
                ++ if 20 < sorted.length
                  then [legendMore (sorted.length - 20)] else []))
        ∧ (g.dot = unlines g.dotLines
          ∧ ((∀ p ∈ g.files, '\n' ∉ p)
            → Text.split '\n' g.dot = g.dotLines ++ [[]])
          ∧ dotStyle.Reads g sorted g.dotLines) := by
  refine ⟨List.pairwise_map.mpr (pairwise_clusters g), ?_,
    fun p => mem_clusteredFiles, ?_, g.edges.edges, g.edges.increasing,
      fun e => Iff.rfl, ?_, ?_⟩
  · exact fun cluster h =>
      ⟨ne_nil_of_mem_clusters h, pairwise_of_mem_clusters h⟩
  · exact fun p hp => ⟨count_clusteredFiles hp, exists_mem_clusters hp⟩
  · refine ⟨mermaid_eq_unlines g, split_mermaid, reads_mermaidLines g, ?_⟩
    rw [dropWhile_mermaidLines, legend_eq]
  · exact ⟨dot_eq_unlines g, split_dot, reads_dotLines g⟩

/-- Twenty-one files that import a package. -/
def wideGraph : DependencyGraph :=
  ⟨⟨.python, .none, []⟩, 0,
    .ofList ((List.range 21).map fun n => ⟨[Char.ofNat (97 + n)], "pkg/"⟩)⟩

/-- The twenty-first edge is drawn, and the legend counts it. -/
theorem diagrams_show_the_partition_wide :
    wideGraph.clusteredFiles.count "pkg/".toList = 1
      ∧ (wideGraph.mermaidLines.filter fun line =>
        mermaidStyle.role line = .edge).length = 21
      ∧ (wideGraph.dotLines.filter fun line =>
        dotStyle.role line = .node).length = 22
      ∧ ∃ shown, (wideGraph.mermaidLines.dropWhile fun line =>
        line ≠ legendTitle)
          = legendTitle :: (shown ++ ["%%   ... and 1 more edges".toList])
          ∧ shown.length = 20 := by
  obtain ⟨-, -, -, hcount, sorted, hsorted, hmem, ⟨-, -, hmermaid, hlegend⟩,
    -, -, hdot⟩ :=
    diagrams_show_the_partition wideGraph
  have hedges : sorted = wideGraph.edges.edges :=
    Ordered.eq_of_mem_iff hsorted wideGraph.edges.increasing hmem
  have hlength : sorted.length = 21 := by
    rw [hedges]
    rfl
  have hnodes : wideGraph.clusteredFiles.length = 22 := by decide +kernel
  have hmore : legendMore 1 = "%%   ... and 1 more edges".toList := by decide
  have hfile : "pkg/".toList ∈ wideGraph.files := by decide +kernel
  refine ⟨(hcount _ hfile).1, ?_, ?_, (sorted.take 20).map legendEdge, ?_, ?_⟩
  · rw [hmermaid.edges, List.length_map, hlength]
  · rw [hdot.nodes, List.length_map, hnodes]
  · rw [hlegend, hlength, if_pos (by decide), hmore]
    rfl
  · rw [List.length_map, List.length_take, hlength]
    rfl

end SourceAtlas.DependencyGraph
