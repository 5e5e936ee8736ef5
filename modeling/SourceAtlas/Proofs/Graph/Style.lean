/-
Reading a diagram line by line. What a line does can be told from the line
alone: open a subgraph, declare a file, close the subgraph, draw an edge, or
none of these. Read that way, a diagram gives back the clusters with a line for
each of their files and, outside of them, a line for each edge (`Reads`); there
are no others.

- `DiagramStyle`: how a diagram writes its parts, with the reading of a line.
- `DiagramStyle.reads_layout`: what is read off lines laid out in that style.

Lines are what a diagram is made of. Unless a file name holds a line feed, they
are also what its text is split into at the line feeds (`split_layout`).

Consumed by the theory of the two diagrams.
-/
import SourceAtlas.Proofs.Graph.Diagram

namespace SourceAtlas.DependencyGraph

variable {g : DependencyGraph} {lines rest : List Text}

-- ================================================================ reading

/-- What a line of a diagram does. -/
inductive LineRole where
  | opens
  | node
  | closes
  | edge
  | other
  deriving DecidableEq

/-- The lines that open a subgraph, each with the lines that declare a file
before the next line that closes one. -/
def subgraphs (role : Text → LineRole) : List Text → List (Text × List Text)
  | [] => []
  | line :: rest =>
    if role line = .opens then
      (line, (rest.takeWhile fun l => role l ≠ .closes).filter fun l =>
        role l = .node) :: subgraphs role rest
    else subgraphs role rest

/-- How a diagram writes its parts, and how its lines are told apart. -/
structure DiagramStyle where
  role : Text → LineRole
  head : Text → Text
  inner : Text → List Text
  node : Text → Text
  close : Text
  after : List Text
  edge : Edge → Text
  role_head : ∀ cluster, role (head cluster) = .opens
  role_inner : ∀ cluster, ∀ line ∈ inner cluster, role line = .other
  role_node : ∀ path, role (node path) = .node
  role_close : role close = .closes
  role_after : ∀ line ∈ after, role line = .other
  role_edge : ∀ e, role (edge e) = .edge

namespace DiagramStyle

variable {s : DiagramStyle}

/-- The lines between those that open and close a cluster. -/
def body (s : DiagramStyle) (cluster : Text × List Text) : List Text :=
  s.inner cluster.1 ++ cluster.2.map s.node

/-- The lines of a cluster. -/
def block (s : DiagramStyle) (cluster : Text × List Text) : List Text :=
  s.head cluster.1 :: (s.body cluster ++ s.close :: s.after)

/-- The lines say of a graph what the clusters and the edges are: the subgraphs
are the clusters with a line for each of their files, no other line declares a
file, every end of an edge has its line in the subgraph of its cluster, and
the lines of edges are those of a list of edges in its order. -/
structure Reads (s : DiagramStyle) (g : DependencyGraph) (drawn : List Edge)
    (lines : List Text) : Prop where
  subgraphs : subgraphs s.role lines
    = g.clusters.map fun cluster => (s.head cluster.1, cluster.2.map s.node)
  nodes : lines.filter (fun line => s.role line = .node)
    = g.clusteredFiles.map s.node
  edges : lines.filter (fun line => s.role line = .edge) = drawn.map s.edge
  ends : ∀ e ∈ drawn, ∀ p ∈ [e.source, e.target],
    ∃ members, (s.head (clusterOf p), members)
      ∈ DependencyGraph.subgraphs s.role lines ∧ s.node p ∈ members

-- =========================================================== line by line

/-- Of lines of one role, either all or none have another role. -/
theorem filter_role {role k : LineRole}
    (h : ∀ line ∈ lines, s.role line = role) :
    lines.filter (fun line => s.role line = k) = if role = k then lines
      else [] := by
  split
  case isTrue hk =>
    refine List.filter_eq_self.mpr fun line hline => ?_
    exact decide_eq_true ((h line hline).trans hk)
  case isFalse hk =>
    refine List.filter_eq_nil_iff.mpr fun line hline => ?_
    rw [h line hline]
    simpa using hk

theorem role_of_mem_nodes {paths : List Text} :
    ∀ line ∈ paths.map s.node, s.role line = .node := by
  intro line hline
  obtain ⟨p, -, rfl⟩ := List.mem_map.mp hline
  exact s.role_node p

theorem role_of_mem_edges {edges : List Edge} :
    ∀ line ∈ edges.map s.edge, s.role line = .edge := by
  intro line hline
  obtain ⟨e, -, rfl⟩ := List.mem_map.mp hline
  exact s.role_edge e

/-- Lines of one role have no other. -/
theorem role_ne {role k : LineRole} (h : ∀ line ∈ lines, s.role line = role)
    (hne : role ≠ k) : ∀ line ∈ lines, s.role line ≠ k :=
  fun line hline => ne_of_eq_of_ne (h line hline) hne

/-- The body of a cluster has node lines and lines without a role. -/
theorem role_body_ne {cluster : Text × List Text} {k : LineRole}
    (hother : LineRole.other ≠ k) (hnode : LineRole.node ≠ k) :
    ∀ line ∈ s.body cluster, s.role line ≠ k :=
  List.forall_mem_append.mpr
    ⟨role_ne (s.role_inner _) hother, role_ne role_of_mem_nodes hnode⟩

/-- Of the body of a cluster only its nodes play a role. -/
theorem filter_body (cluster : Text × List Text) (k : LineRole)
    (hk : k ≠ .other) :
    (s.body cluster).filter (fun line => s.role line = k)
      = if k = .node then cluster.2.map s.node else [] := by
  rw [body, List.filter_append, filter_role (s.role_inner _),
    filter_role role_of_mem_nodes, if_neg hk.symm, List.nil_append]
  simp only [eq_comm]

/-- The lines of a block that declare a file or draw an edge. -/
theorem filter_block (cluster : Text × List Text) (k : LineRole)
    (hk : k = .node ∨ k = .edge) :
    (s.block cluster).filter (fun line => s.role line = k)
      = if k = .node then cluster.2.map s.node else [] := by
  obtain ⟨hother, hopens, hcloses⟩ : k ≠ .other ∧ LineRole.opens ≠ k
      ∧ LineRole.closes ≠ k := by
    rcases hk with rfl | rfl <;> exact ⟨nofun, nofun, nofun⟩
  rw [block, List.filter_cons_of_neg (by simpa [s.role_head] using hopens),
    List.filter_append, filter_body cluster k hother,
    List.filter_cons_of_neg (by simpa [s.role_close] using hcloses),
    filter_role s.role_after, if_neg hother.symm, List.append_nil]

-- ============================================================== subgraphs

/-- Lines that open no cluster are passed over. -/
theorem subgraphs_append (h : ∀ line ∈ lines, s.role line ≠ .opens) :
    DependencyGraph.subgraphs s.role (lines ++ rest)
      = DependencyGraph.subgraphs s.role rest := by
  induction lines with
  | nil => rfl
  | cons line lines ih =>
      obtain ⟨hline, hlines⟩ := List.forall_mem_cons.mp h
      rw [List.cons_append, DependencyGraph.subgraphs, if_neg hline, ih hlines]

/-- The block of a cluster is read as its head and its nodes. -/
theorem subgraphs_block (cluster : Text × List Text) :
    DependencyGraph.subgraphs s.role (s.block cluster ++ rest)
      = (s.head cluster.1, cluster.2.map s.node)
        :: DependencyGraph.subgraphs s.role rest := by
  have hbody : ∀ line ∈ s.body cluster, s.role line ≠ .closes :=
      role_body_ne nofun nofun
  have htake : ((s.body cluster ++ s.close :: (s.after ++ rest)).takeWhile
      fun line => s.role line ≠ .closes) = s.body cluster := by
    rw [List.takeWhile_append_of_pos fun line hline =>
      decide_eq_true (hbody line hline),
        List.takeWhile_cons_of_neg (by simp [s.role_close]), List.append_nil]
  -- no subgraph opens before the end of the block
  have hskip :
      ∀ line ∈ s.body cluster ++ s.close :: s.after, s.role line ≠ .opens := by
    refine List.forall_mem_append.mpr
      ⟨role_body_ne nofun nofun, List.forall_mem_cons.mpr ⟨?_, ?_⟩⟩
    · exact ne_of_eq_of_ne s.role_close nofun
    · exact role_ne s.role_after nofun
  have hrest :
      DependencyGraph.subgraphs s.role
        ((s.body cluster ++ s.close :: s.after) ++ rest)
        = DependencyGraph.subgraphs s.role rest := subgraphs_append hskip
  rw [List.append_assoc, List.cons_append] at hrest
  rw [block, List.cons_append, List.append_assoc, List.cons_append,
    DependencyGraph.subgraphs, if_pos (s.role_head _), htake,
    filter_body cluster .node nofun, if_pos rfl, hrest]

/-- The blocks of several clusters are read one after the other. -/
theorem subgraphs_blocks (clusters : List (Text × List Text)) :
    DependencyGraph.subgraphs s.role (clusters.flatMap s.block ++ rest)
      = clusters.map (fun cluster => (s.head cluster.1, cluster.2.map s.node))
        ++ DependencyGraph.subgraphs s.role rest := by
  induction clusters with
  | nil => rfl
  | cons cluster clusters ih =>
      rw [List.flatMap_cons, List.append_assoc, subgraphs_block, ih,
        List.map_cons, List.cons_append]

-- ================================================================= layout

/-- Lines that go through the clusters and then through the edges, with other
lines before, between and after. -/
def layout (s : DiagramStyle) (g : DependencyGraph)
    (front between back : List Text) : List Text :=
  front ++ (g.clusters.flatMap s.block
    ++ (between ++ (g.edges.edges.map s.edge ++ back)))

section

variable {front between back : List Text}
  (hfront : ∀ line ∈ front, s.role line = .other)
  (hbetween : ∀ line ∈ between, s.role line = .other)
  (hback : ∀ line ∈ back, s.role line = .other)

include hfront hbetween hback

/-- The lines that declare a file are those of the clusters, and the lines that
draw an edge are those of the edges. -/
theorem filter_layout (k : LineRole) (hk : k = .node ∨ k = .edge) :
    (s.layout g front between back).filter (fun line => s.role line = k)
      = (if k = .node then g.clusteredFiles.map s.node else [])
        ++ if k = .edge then g.edges.edges.map s.edge else [] := by
  have hother : LineRole.other ≠ k := by
    rcases hk with rfl | rfl <;> exact nofun
  unfold layout
  simp only [List.filter_append, filter_role hfront, filter_role hbetween,
    filter_role hback, filter_role role_of_mem_edges, if_neg hother,
    List.filter_flatMap, filter_block _ k hk, List.nil_append, List.append_nil,
    eq_comm (a := LineRole.edge)]
  congr 1
  split
  case isTrue => rw [clusteredFiles, List.map_flatMap]
  case isFalse => simp

/-- The subgraphs are the clusters. -/
theorem subgraphs_layout :
    DependencyGraph.subgraphs s.role (s.layout g front between back)
    = g.clusters.map fun cluster =>
      (s.head cluster.1, cluster.2.map s.node) := by
  have hrest :
      ∀ line ∈ between ++ (g.edges.edges.map s.edge ++ back),
        s.role line ≠ .opens := by
    simp only [List.forall_mem_append]
    exact ⟨role_ne hbetween nofun, role_ne role_of_mem_edges nofun,
      role_ne hback nofun⟩
  have hnone :
      DependencyGraph.subgraphs s.role
        ((between ++ (g.edges.edges.map s.edge ++ back)) ++ []) = [] :=
    subgraphs_append hrest
  rw [List.append_nil] at hnone
  rw [layout, subgraphs_append (role_ne hfront nofun), subgraphs_blocks, hnone,
    List.append_nil]

/-- A layout is read back: clusters, nodes and edges are those of the graph. -/
theorem reads_layout :
    s.Reads g g.edges.edges (s.layout g front between back) := by
  have hsubgraphs := subgraphs_layout (g := g) hfront hbetween hback
  refine ⟨hsubgraphs, ?_,
    filter_layout hfront hbetween hback .edge (.inr rfl), ?_⟩
  · rw [filter_layout hfront hbetween hback .node (.inl rfl)]
    exact List.append_nil _
  · intro e he p hp
    have hfile : p ∈ g.files := by
      rcases List.mem_cons.mp hp with rfl | hp
      · exact source_mem_files he
      · rw [List.mem_singleton.mp hp]
        exact target_mem_files he
    obtain ⟨members, hcluster, hmem⟩ := exists_mem_clusters hfile
    rw [hsubgraphs]
    exact ⟨members.map s.node, List.mem_map.mpr ⟨_, hcluster, rfl⟩,
      List.mem_map_of_mem hmem⟩

end

-- =================================================================== text

/-- Names without line feeds are written on one line. -/
structure OneLine (s : DiagramStyle) : Prop where
  head : ∀ cluster, '\n' ∉ cluster → '\n' ∉ s.head cluster
  inner : ∀ cluster, '\n' ∉ cluster → ∀ line ∈ s.inner cluster, '\n' ∉ line
  node : ∀ path, '\n' ∉ path → '\n' ∉ s.node path
  close : '\n' ∉ s.close
  after : ∀ line ∈ s.after, '\n' ∉ line
  edge : ∀ e, '\n' ∉ s.edge e

/-- The lines of all clusters are lines, if the files have no line end in their
names. -/
theorem OneLine.block (h : s.OneLine) (hfiles : ∀ p ∈ g.files, '\n' ∉ p) :
    ∀ line ∈ g.clusters.flatMap s.block, '\n' ∉ line := by
  intro line hline
  obtain ⟨cluster, hcluster, hline⟩ := List.mem_flatMap.mp hline
  obtain ⟨hname, hmembers⟩ := mem_clusters_iff.mp hcluster
  obtain ⟨p, hp, hname⟩ := List.mem_map.mp hname
  have hplain : '\n' ∉ cluster.1 :=
    hname ▸ notMem_clusterOf (by decide) (by decide) (hfiles p hp)
  rcases List.mem_cons.mp hline with rfl | hline
  · exact h.head _ hplain
  rcases List.mem_append.mp hline with hline | hline
  · rcases List.mem_append.mp hline with hinner | hnode
    · exact h.inner _ hplain line hinner
    · rw [hmembers] at hnode
      obtain ⟨q, hq, rfl⟩ := List.mem_map.mp hnode
      exact h.node q (hfiles q (List.mem_filter.mp hq).1)
  · rcases List.mem_cons.mp hline with rfl | hline
    · exact h.close
    · exact h.after line hline

/-- Where no file name holds a line feed, the lines are those of the text. -/
theorem OneLine.split_unlines_layout {front between back : List Text}
    (h : s.OneLine) (hfiles : ∀ p ∈ g.files, '\n' ∉ p) (hne : front ≠ [])
    (hfront : ∀ line ∈ front, '\n' ∉ line)
    (hbetween : ∀ line ∈ between, '\n' ∉ line)
    (hback : ∀ line ∈ back, '\n' ∉ line) :
    Text.split '\n' (unlines (s.layout g front between back))
      = s.layout g front between back ++ [[]] := by
  have hlines : ∀ line ∈ s.layout g front between back, '\n' ∉ line := by
    simp only [layout, List.forall_mem_append]
    refine ⟨hfront, h.block hfiles, hbetween, ?_, hback⟩
    intro line hline
    obtain ⟨e, -, rfl⟩ := List.mem_map.mp hline
    exact h.edge e
  rw [unlines, Text.split_append_cons,
    Text.split_join (by simp [layout, hne]) hlines]
  rfl

end DiagramStyle

end SourceAtlas.DependencyGraph
