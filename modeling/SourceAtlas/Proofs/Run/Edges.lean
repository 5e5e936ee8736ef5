/-
The edges of a run's graph, exactly. Before pruning they are the imports of
the files listed for the resolver; pruning then asks that the target be
known, and asks nothing new of the source, because the filter of the
resolver is among those the run has asked.

Consumed by the modules on references and on the graph built alone.
-/
import SourceAtlas.Proofs.Extract.Edges
import SourceAtlas.Proofs.Run.Basic

namespace SourceAtlas.Run

open DependencyGraph (KnownTarget DirectlyIn)

variable {host : Host} {root : Node} {settings : Option Settings} {s : Settings}
  {project : Project} {rules : Rules} {p : Plan} {clock : Int}
  {wantIndex wantGraph : Bool} {result : RunResult}

-- ======================================================== known paths

/-- A known path leads to an entry of the tree. -/
theorem leafAt_of_mem_known {q : Text} (hwf : root.wellFormed = true)
    (h : q ∈ (freshPlan root s project rules).known wantIndex wantGraph) :
    root.LeafAt q := by
  rcases (mem_known hwf).mp h with ⟨hreach, -⟩ | ⟨hreach, -⟩
  · exact hreach.leaf
  · exact hreach.leaf

/-- A known path has no closing slash. -/
theorem not_slash_suffix_of_mem_known {q : Text} (hwf : root.wellFormed = true)
    (h : q ∈ (freshPlan root s project rules).known wantIndex wantGraph) :
    ¬ ['/'] <:+ q := by
  intro hslash
  obtain ⟨above, rfl⟩ := hslash
  obtain ⟨leaf, hfind, -⟩ := leafAt_of_mem_known hwf h
  have hempty : [] ∈ Path.components (above ++ ['/']) := by
    unfold Path.components
    rw [Text.split_append_cons]
    exact List.mem_append_right _ List.mem_cons_self
  exact (Node.isName_of_find? hwf hfind [] hempty).ne_nil rfl

-- ============================================================== imports

/-- An import of the project: a file listed for its resolver, not the target
itself, has a specifier that resolves to the target. -/
def Imported (root : Node) (s : Settings) (project : Project) (rules : Rules)
    (e : Edge) : Prop :=
  ∃ r, rules.resolver = some r ∧
    ∃ f ∈ Survey.list (.ofProfile project.profile s.exclude s.outputDir)
        (Extract.importFilter r) root,
      f.path = e.source ∧ Extract.Imports root r f e.target
        ∧ e.source ≠ e.target

/-- The graph before pruning holds the imports, whatever else was asked. -/
theorem mem_buildGraph {e : Edge} :
    e ∈ (buildGraph (freshPlan root s project rules) clock
        ((freshPlan root s project rules).prepared wantIndex
          wantGraph)).edges.edges
      ↔ Imported root s project rules e := by
  have hfaith :
      ((freshPlan root s project rules).prepared wantIndex wantGraph).Faithful
        root :=
    Extract.faithful_prepare (Survey.faithful_new root _)
  have hscope :
      ((freshPlan root s project rules).prepared wantIndex wantGraph).scope
        = .ofProfile project.profile s.exclude s.outputDir :=
    Extract.prepare_scope _ _
  simp only [buildGraph]
  rw [EdgeSet.mem_merge]
  constructor
  · intro h
    rcases h with he | he
    · have hmem := (Extract.mem_edges hfaith).mp he
      rwa [hscope] at hmem
    · cases he
  · intro he
    refine Or.inl ((Extract.mem_edges hfaith).mpr ?_)
    rw [hscope]
    exact he

/-- The source of an import is known to a run that builds the graph. -/
theorem source_mem_known {e : Edge} (hwf : root.wellFormed = true)
    (h : Imported root s project rules e) :
    e.source ∈ (freshPlan root s project rules).known wantIndex true := by
  obtain ⟨r, hr, f, hf, hsource, -⟩ := h
  obtain ⟨hreach, hpass⟩ := (Survey.path_mem_list hwf).mp ⟨f, hf, hsource⟩
  refine (mem_known hwf).mpr
    (Or.inr ⟨hreach, Extract.importFilter r, ?_, hpass⟩)
  refine List.mem_append_right _ ?_
  show Extract.importFilter r ∈ graphFilters rules
  unfold graphFilters
  rw [hr]
  exact List.mem_cons_self

/-- The edges of the graph of a run: the imports with a known target. -/
theorem mem_graph_iff {graph : DependencyGraph} {e : Edge}
    (hwf : root.wellFormed = true)
    (hg : (freshPlan root s project rules).graph? clock wantIndex true
      = some graph) :
    e ∈ graph.edges.edges ↔ Imported root s project rules e
      ∧ KnownTarget ((freshPlan root s project rules).known wantIndex true)
        e.target := by
  injection hg with hg
  rw [← hg, DependencyGraph.mem_prune, mem_buildGraph]
  constructor
  · intro h
    obtain ⟨himp, -, htarget⟩ := h
    exact ⟨himp, htarget⟩
  · intro h
    obtain ⟨himp, htarget⟩ := h
    exact ⟨himp, source_mem_known hwf himp, htarget⟩

-- ============================================================ the theorem

/-- The edge set of a run's graph is exactly the set of pairs of different
paths such that the first is listed for the resolver and can be opened, one
of its specifiers resolves to the second, and the second is known or, with a
closing slash, holds a known path directly. Only an unknown project has no
resolver, and then there are no edges. -/
theorem graph_edges_are_known_imports (hwf : root.wellFormed = true)
    (hs : InEffect host root settings s)
    (hproject : Project.detect host.manifestDepth root = .ok project)
    (hrules : Rules.ofProject host.configDepth project root s.aliases.entries
      = .ok rules) (hplan : plan host root settings = .ok p)
    (hrun : execute p clock wantIndex true = .ok result) :
    ∃ graph, result.graph = some graph
      ∧ (∀ source target, ⟨source, target⟩ ∈ graph.edges.edges ↔
          ∃ r, rules.resolver = some r
            ∧ ∃ f ∈ Survey.list
                (.ofProfile project.profile s.exclude s.outputDir)
                (.make r.language.extensions r.skipsTests r.skipsDeclarations)
                root,
              f.path = source
              ∧ (∃ text, f.read root = some text
                ∧ ∃ specifier ∈ Import.specifiers text r.language,
                  r.resolve root f specifier = some target)
              ∧ source ≠ target
              ∧ (target ∈ result.known
                ∨ ['/'] <:+ target
                  ∧ ∃ q ∈ result.known, ∃ name,
                    '/' ∉ name ∧ q = target ++ name))
      ∧ (rules.resolver = none ↔ project.profile = .unknown)
      ∧ (rules.resolver = none → graph.edges.edges = []) := by
  have hp : p = freshPlan root s project rules :=
    eq_freshPlan_of_plan hs hproject hrules hplan
  subst hp
  obtain ⟨graph, hgraph, hg, hknown⟩ := exists_graph_of_execute hrun
  -- No known path ends in a slash, so a target that does is known through what
  -- its directory holds.
  have htarget : ∀ target, KnownTarget result.known target ↔
      target ∈ result.known ∨ ∃ q ∈ result.known, DirectlyIn target q := by
    intro target
    refine DependencyGraph.knownTarget_iff fun q hq => ?_
    rw [hknown] at hq
    exact not_slash_suffix_of_mem_known hwf hq
  refine ⟨graph, hgraph, ?_, resolver_eq_none_iff hrules, ?_⟩
  · intro source target
    rw [mem_graph_iff hwf hg, ← hknown, htarget]
    constructor
    · intro h
      obtain ⟨⟨r, hr, f, hf, hsource, himports, hne⟩, hkept⟩ := h
      refine ⟨r, hr, f, hf, hsource, himports, hne, ?_⟩
      rcases hkept with hkept | ⟨q, hq, hslash, hin⟩
      · exact Or.inl hkept
      · exact Or.inr ⟨hslash, q, hq, hin⟩
    · intro h
      obtain ⟨r, hr, f, hf, hsource, himports, hne, hkept⟩ := h
      refine ⟨⟨r, hr, f, hf, hsource, himports, hne⟩, ?_⟩
      rcases hkept with hkept | ⟨hslash, q, hq, hin⟩
      · exact Or.inl hkept
      · exact Or.inr ⟨q, hq, hslash, hin⟩
  · intro hnone
    refine List.eq_nil_iff_forall_not_mem.mpr fun e he => ?_
    obtain ⟨⟨r, hr, -⟩, -⟩ := (mem_graph_iff hwf hg).mp he
    rw [hnone] at hr
    cases hr

/-- A Python project whose module imports a test below a directory that only
Go projects skip. -/
def vendoredTest : Node :=
  .directory
    [("setup.py".toList, .file [] true),
     ("a.py".toList, .file (Utf8.encode "import vendor.test_x".toList) true),
     ("vendor".toList, .directory [("test_x.py".toList, .file [] true)])]

/-- The plan for it under default settings. -/
def vendoredTestPlan : Plan :=
  freshPlan vendoredTest {} ⟨.python, .none, []⟩
    ⟨[.decorator], some .python, some .python⟩

theorem plan_vendoredTest :
    plan .standard vendoredTest (some {}) = .ok vendoredTestPlan :=
  plan_eq_ok_iff.mpr ⟨{}, ⟨.python, .none, []⟩,
    ⟨[.decorator], some .python, some .python⟩, rfl, rfl, rfl, rfl⟩

theorem exists_execute_vendoredTest (wantIndex wantGraph : Bool) :
    ∃ result, execute vendoredTestPlan 0 wantIndex wantGraph = .ok result :=
  exists_execute_eq_ok_iff.mpr (by decide +kernel)

/-- With the index, the import of the test is an edge. -/
theorem mem_graph_vendoredTest {graph : DependencyGraph}
    (hrun : execute vendoredTestPlan 0 true true = .ok result)
    (hgraph : result.graph = some graph) :
    ⟨"a.py".toList, "vendor/test_x.py".toList⟩ ∈ graph.edges.edges := by
  have hedges :
      (vendoredTestPlan.graph? 0 true true).map (fun graph => graph.edges.edges)
        = some [⟨"a.py".toList, "vendor/test_x.py".toList⟩] := by
    decide +kernel
  obtain ⟨-, -, hg, -⟩ := execute_eq_ok_iff.mp hrun
  rw [← hg, hgraph, Option.map_some, Option.some.injEq] at hedges
  rw [hedges]
  exact List.mem_singleton.mpr rfl

/-- Its target is known. -/
theorem graph_edges_are_known_imports_vendoredTest :
    ∃ result graph, execute vendoredTestPlan 0 true true = .ok result
      ∧ result.graph = some graph
      ∧ ⟨"a.py".toList, "vendor/test_x.py".toList⟩ ∈ graph.edges.edges
      ∧ "vendor/test_x.py".toList ∈ result.known := by
  obtain ⟨result, hrun⟩ := exists_execute_vendoredTest true true
  obtain ⟨graph, hgraph, hiff, -⟩ :=
    @graph_edges_are_known_imports .standard _ (some {}) _ _ _ _ _ _ _
      (by decide) rfl rfl rfl plan_vendoredTest hrun
  have hedge := mem_graph_vendoredTest hrun hgraph
  obtain ⟨-, -, -, -, -, -, -, hknown⟩ := (hiff _ _).mp hedge
  rcases hknown with hknown | ⟨hslash, -⟩
  · exact ⟨result, graph, hrun, hgraph, hedge, hknown⟩
  · exact absurd hslash (by decide)

end SourceAtlas.Run
