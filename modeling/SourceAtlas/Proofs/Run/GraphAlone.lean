/-
The graph built alone beside the graph built with the index. A run prunes
to the paths that it knows, and the filters of the index make a run know
more: a test or a declaration file that the resolver leaves out becomes
known when exports or types are read. The search for concepts knows such a
file in any case, unless it lies below a directory that some profile skips.
`Hidden` puts the two conditions together; the known sets differ by exactly
the hidden paths, and the graphs by the edges to nothing else.
-/
import SourceAtlas.Proofs.Run.Edges

namespace SourceAtlas.Run

open DependencyGraph (KnownTarget DirectlyIn)

variable {host : Host} {root : Node} {settings : Option Settings} {s : Settings}
  {project : Project} {rules : Rules} {p : Plan} {clock : Int}
  {wantIndex : Bool} {result : RunResult}

-- ======================================================== hidden paths

/-- The test and declaration files that a resolver leaves out, by name. -/
def LeftOut (r : Import.Resolver) (name : Name) : Prop :=
  r.skipsTests = true ∧ isTestFile name = true
    ∨ r.skipsDeclarations = true ∧ ".d.ts".toList.isSuffixOf name = true

/-- Whether a directory above the last of a path's components has a name
that some profile skips. -/
def BelowSkipped (q : Text) : Prop :=
  ∃ up name, Path.Above (Path.components q) up name
    ∧ ∃ profile : Profile, name ∈ profile.skips.map String.toList

/-- What a run knows on account of the index alone. -/
def Hidden (rules : Rules) (q : Text) : Prop :=
  (∃ r, rules.resolver = some r ∧ LeftOut r (Path.base q)) ∧ BelowSkipped q

/-- The resolver is asked for the sources of its language that it does not
leave out. -/
theorem admits_importFilter_iff {r : Import.Resolver} {name : Name} :
    (Extract.importFilter r).admits name = true ↔
      Path.extension name ∈ r.language.extensions ∧ ¬ LeftOut r name := by
  unfold Extract.importFilter LeftOut
  rw [Filter.admits_make_iff, not_or, not_and, not_and, Bool.not_eq_true,
    Bool.not_eq_true]

/-- The search for concepts reaches what a profile reaches, unless it lies
below a directory that some profile skips. -/
theorem reaches_ofConcepts_iff {exclude : List Text} {outputDir q : Text}
    (profile : Profile) :
    (Scope.ofConcepts exclude outputDir).Reaches root q ↔
      (Scope.ofProfile profile exclude outputDir).Reaches root q
        ∧ ¬ BelowSkipped q := by
  unfold Scope.ofConcepts Scope.ofProfile
  rw [List.map_append, List.map_append, Scope.reaches_make_append_iff,
    Scope.reaches_make_append_iff]
  constructor
  · intro h
    obtain ⟨hbase, hnone⟩ := h
    refine ⟨⟨hbase, fun up name habove hskip => ?_⟩, ?_⟩
    · exact hnone up name habove (Profile.mem_skips_all.mpr ⟨profile, hskip⟩)
    · intro h
      obtain ⟨up, name, habove, hskip⟩ := h
      exact hnone up name habove (Profile.mem_skips_all.mpr hskip)
  · intro h
    obtain ⟨⟨hbase, -⟩, hnone⟩ := h
    refine ⟨hbase, fun up name habove hskip => hnone ?_⟩
    exact ⟨up, name, habove, Profile.mem_skips_all.mp hskip⟩

-- ========================================================= known paths

/-- Without the index a run knows the same paths, less the hidden ones. -/
theorem mem_known_alone_iff {q : Text} (hwf : root.wellFormed = true)
    (hrules : OneLanguage rules) :
    q ∈ (freshPlan root s project rules).known false true ↔
      q ∈ (freshPlan root s project rules).known true true
        ∧ ¬ Hidden rules q := by
  rw [mem_known hwf, mem_known hwf]
  constructor
  · intro h
    rcases h with ⟨hreach, hext⟩ | ⟨hreach, filter, hf, hpass⟩
    · refine ⟨Or.inl ⟨hreach, hext⟩, ?_⟩
      intro h
      obtain ⟨-, hbelow⟩ := h
      exact ((reaches_ofConcepts_iff project.profile).mp hreach).2 hbelow
    · have hgraph : filter ∈ graphFilters rules := hf
      refine ⟨Or.inr ⟨hreach, filter, List.mem_append_right _ hgraph, hpass⟩,
        ?_⟩
      intro h
      obtain ⟨⟨r, hr, hleft⟩, -⟩ := h
      unfold graphFilters at hgraph
      rw [hr] at hgraph
      rw [List.mem_singleton.mp hgraph] at hpass
      exact (admits_importFilter_iff.mp hpass).2 hleft
  · intro h
    obtain ⟨⟨hreach, hext⟩ | ⟨hreach, filter, hf, hpass⟩, hshown⟩ := h
    · exact Or.inl ⟨hreach, hext⟩
    · rcases List.mem_append.mp hf with hf | hf
      · -- a source of the language: the resolver is asked for it, or leaves it
        -- out
        obtain ⟨l, hl, hext⟩ := extension_of_indexFilters hrules hf hpass
        rw [hrules.resolver] at hl
        obtain ⟨r, hr, rfl⟩ := Option.map_eq_some_iff.mp hl
        by_cases hleft : LeftOut r (Path.base q)
        · refine Or.inl ⟨(reaches_ofConcepts_iff project.profile).mpr
            ⟨hreach, ?_⟩, mem_allExtensions hext⟩
          exact fun hbelow => hshown ⟨⟨r, hr, hleft⟩, hbelow⟩
        · refine Or.inr ⟨hreach, Extract.importFilter r, ?_,
            admits_importFilter_iff.mpr ⟨hext, hleft⟩⟩
          show Extract.importFilter r ∈ graphFilters rules
          unfold graphFilters
          rw [hr]
          exact List.mem_cons_self
      · exact Or.inr ⟨hreach, filter, hf, hpass⟩

/-- A target is known if something that it stands for is known: itself or,
with a closing slash, what lies directly in it. -/
theorem knownTarget_known_iff {wantGraph : Bool} {target : Text}
    (hwf : root.wellFormed = true) :
    KnownTarget ((freshPlan root s project rules).known wantIndex wantGraph)
        target ↔
      ∃ q ∈ (freshPlan root s project rules).known wantIndex wantGraph,
        q = target ∨ DirectlyIn target q := by
  rw [DependencyGraph.knownTarget_iff fun q hq =>
    not_slash_suffix_of_mem_known hwf hq]
  constructor
  · intro h
    rcases h with h | ⟨q, hq, hin⟩
    · exact ⟨target, h, Or.inl rfl⟩
    · exact ⟨q, hq, Or.inr hin⟩
  · intro h
    obtain ⟨q, hq, heq | hin⟩ := h
    · rw [heq] at hq
      exact Or.inl hq
    · exact Or.inr ⟨q, hq, hin⟩

-- ============================================================== the edges

/-- An edge of the graph of a run leads to something known. -/
theorem exists_known_of_mem_graph {graph : DependencyGraph} {e : Edge}
    (hwf : root.wellFormed = true)
    (hg : (freshPlan root s project rules).graph? clock wantIndex true
      = some graph) (he : e ∈ graph.edges.edges) :
    ∃ q ∈ (freshPlan root s project rules).known wantIndex true,
      q = e.target ∨ DirectlyIn e.target q :=
  (knownTarget_known_iff hwf).mp ((mem_graph_iff hwf hg).mp he).2

/-- The graph built alone has the edges to what is not hidden. -/
theorem mem_graph_alone_iff {graph graph' : DependencyGraph} {later : Int}
    {e : Edge} (hwf : root.wellFormed = true) (hrules : OneLanguage rules)
    (hg : (freshPlan root s project rules).graph? clock false true = some graph)
    (hg' : (freshPlan root s project rules).graph? later true true
      = some graph') :
    e ∈ graph.edges.edges ↔ e ∈ graph'.edges.edges
      ∧ ∃ q ∈ (freshPlan root s project rules).known true true,
        (q = e.target ∨ DirectlyIn e.target q) ∧ ¬ Hidden rules q := by
  constructor
  · intro he
    obtain ⟨himported, -⟩ := (mem_graph_iff hwf hg).mp he
    obtain ⟨q, hq, hstands⟩ := exists_known_of_mem_graph hwf hg he
    obtain ⟨hq, hshown⟩ := (mem_known_alone_iff hwf hrules).mp hq
    refine ⟨(mem_graph_iff hwf hg').mpr ⟨himported, ?_⟩, q, hq, hstands, hshown⟩
    exact (knownTarget_known_iff hwf).mpr ⟨q, hq, hstands⟩
  · intro h
    obtain ⟨he, q, hq, hstands, hshown⟩ := h
    obtain ⟨himported, -⟩ := (mem_graph_iff hwf hg').mp he
    refine (mem_graph_iff hwf hg).mpr
      ⟨himported, (knownTarget_known_iff hwf).mpr ?_⟩
    exact ⟨q, (mem_known_alone_iff hwf hrules).mpr ⟨hq, hshown⟩, hstands⟩

-- ============================================================ the theorem

/-- If one of the two runs succeeds, so does the other. The graph built
alone then has the edges of the graph built with the index whose target
stands for some path that is not hidden; where no path is hidden, the edges
are the same. -/
theorem graph_alone_lacks_hidden_targets {later : Int}
    (hwf : root.wellFormed = true) (hs : InEffect host root settings s)
    (hproject : Project.detect host.manifestDepth root = .ok project)
    (hrules : Rules.ofProject host.configDepth project root s.aliases.entries
      = .ok rules) (hplan : plan host root settings = .ok p)
    (hrun : execute p clock wantIndex true = .ok result) :
    ∃ alone together graph graph',
      execute p clock false true = .ok alone ∧ alone.graph = some graph
      ∧ execute p later true true = .ok together ∧ together.graph = some graph'
      ∧ (∀ e, e ∈ graph.edges.edges ↔ e ∈ graph'.edges.edges
        ∧ ∃ q ∈ together.known, (q = e.target ∨ DirectlyIn e.target q)
          ∧ ¬ Hidden rules q)
      ∧ ((∀ q ∈ together.known, ¬ Hidden rules q) →
        ∀ e, e ∈ graph.edges.edges ↔ e ∈ graph'.edges.edges) := by
  have hp : p = freshPlan root s project rules :=
    eq_freshPlan_of_plan hs hproject hrules hplan
  subst hp
  have hone := oneLanguage_of_ofProject hrules
  -- Whether a run succeeds depends on the files for concepts alone, which are
  -- those of either run.
  have hfiles := exists_execute_eq_ok_iff.mp ⟨result, hrun⟩
  obtain ⟨alone, halone⟩ := exists_execute_eq_ok_iff.mpr hfiles
  obtain ⟨together, htogether⟩ := exists_execute_eq_ok_iff.mpr hfiles
  obtain ⟨graph, hgraph, hg, -⟩ := exists_graph_of_execute halone
  obtain ⟨graph', hgraph', hg', hknown⟩ := exists_graph_of_execute htogether
  refine ⟨alone, together, graph, graph', halone, hgraph, htogether,
    hgraph', ?_, ?_⟩
  · intro e
    rw [hknown]
    exact mem_graph_alone_iff hwf hone hg hg'
  · rw [hknown]
    intro hshown e
    constructor
    · intro he
      exact ((mem_graph_alone_iff hwf hone hg hg').mp he).1
    · intro he
      obtain ⟨q, hq, hstands⟩ := exists_known_of_mem_graph hwf hg' he
      exact (mem_graph_alone_iff hwf hone hg hg').mpr
        ⟨he, q, hq, hstands, hshown q hq⟩

/-- The test below the vendored directory is hidden. -/
theorem hidden_vendoredTest : Hidden ⟨[.decorator], some .python, some .python⟩
    "vendor/test_x.py".toList := by
  refine ⟨⟨.python, rfl, Or.inl ⟨rfl, by decide⟩⟩, [], "vendor".toList, ?_,
    .go, by decide⟩
  exact ⟨["test_x.py".toList], List.cons_ne_nil _ _, rfl⟩

/-- So the edge to it is there with the index and missing without it. -/
theorem graph_alone_lacks_hidden_targets_vendoredTest :
    ∃ alone together graph graph',
      execute vendoredTestPlan 0 false true = .ok alone
      ∧ alone.graph = some graph
      ∧ execute vendoredTestPlan 0 true true = .ok together
      ∧ together.graph = some graph'
      ∧ ⟨"a.py".toList, "vendor/test_x.py".toList⟩ ∈ graph'.edges.edges
      ∧ ⟨"a.py".toList, "vendor/test_x.py".toList⟩ ∉ graph.edges.edges := by
  obtain ⟨result, hrun⟩ := exists_execute_vendoredTest true true
  obtain ⟨alone, together, graph, graph', halone, hgraph, htogether,
    hgraph', hiff, -⟩ :=
    @graph_alone_lacks_hidden_targets .standard _ (some {}) _ _ _ _ _ _ _ 0
      (by decide) rfl rfl rfl plan_vendoredTest hrun
  refine ⟨alone, together, graph, graph', halone, hgraph, htogether,
    hgraph', ?_, ?_⟩
  · exact mem_graph_vendoredTest htogether hgraph'
  · intro he
    obtain ⟨-, q, -, heq | ⟨hslash, -⟩, hshown⟩ := (hiff _).mp he
    · rw [heq] at hshown
      exact hshown hidden_vendoredTest
    · exact absurd hslash (by decide)

/-- The two graphs of one project can differ: by evaluation, the graph with
the index has an edge that the graph built alone lacks. -/
theorem graph_alone_differs :
    vendoredTest.wellFormed = true
      ∧ plan .standard vendoredTest (some {}) = .ok vendoredTestPlan
      ∧ ∃ alone together graph graph',
        execute vendoredTestPlan 0 false true = .ok alone
        ∧ alone.graph = some graph
        ∧ execute vendoredTestPlan 0 true true = .ok together
        ∧ together.graph = some graph'
        ∧ ¬ ∀ e, e ∈ graph.edges.edges ↔ e ∈ graph'.edges.edges := by
  have hnone :
      (vendoredTestPlan.graph? 0 false true).map
        (fun graph => graph.edges.edges) = some [] := by
    decide +kernel
  obtain ⟨alone, halone⟩ := exists_execute_vendoredTest false true
  obtain ⟨together, htogether⟩ := exists_execute_vendoredTest true true
  obtain ⟨graph, hgraph, hg, -⟩ := exists_graph_of_execute halone
  obtain ⟨graph', hgraph', -, -⟩ := exists_graph_of_execute htogether
  refine ⟨by decide, plan_vendoredTest, alone, together, graph, graph', halone,
    hgraph, htogether, hgraph', ?_⟩
  intro hsame
  have he := (hsame _).mpr (mem_graph_vendoredTest htogether hgraph')
  rw [hg, Option.map_some, Option.some.injEq] at hnone
  rw [hnone] at he
  cases he

end SourceAtlas.Run
