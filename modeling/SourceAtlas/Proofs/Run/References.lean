/-
What the results of a run may mention. Concepts are looked for in one scope
and everything else in another, and resolvers look at the tree itself, so
none of the extractors keeps to the files that the settings leave in. The
known paths do: each was reached by a scope that skips at least what the
base and the profile skip. Pruning then holds the four maps of the index
and both ends of every edge to the known paths.

- `CodeIndex.files_prune`: pruning an index filters the files it names.
- `eligible_of_mem_known`: what a run knows is eligible.
- `references_are_eligible`: so is whatever its results mention.
-/
import SourceAtlas.Proofs.Run.Edges

namespace SourceAtlas

-- ============================================================ the index

/-- Every file that an index names, in any of its four maps. -/
def CodeIndex.files (index : CodeIndex) : List Text :=
  index.concepts.files.entries.flatMap (·.2)
    ++ index.entryPoints.locations.entries.map (·.2.file)
    ++ index.exports.symbols.keys
    ++ index.types.locations.entries.map (·.2.file)

/-- Filtering a table by what its entries name filters the names. -/
private theorem map_entries_filter {α : Type} (t : Table α)
    (name : Text × α → Text) (known : List Text) :
    (t.filter fun k v => known.contains (name (k, v))).entries.map name
      = (t.entries.map name).filter known.contains := by
  rw [List.filter_map]
  rfl

/-- Pruning filters the files that an index names. -/
theorem CodeIndex.files_prune (index : CodeIndex) (known : List Text) :
    (index.prune known).files = index.files.filter known.contains := by
  have hconcepts : (index.concepts.prune known).files.entries.flatMap (·.2)
      = (index.concepts.files.entries.flatMap (·.2)).filter known.contains :=
    (List.flatMap_map _ _ _).trans List.filter_flatMap.symm
  have hentries :=
    map_entries_filter index.entryPoints.locations (·.2.file) known
  have hexports := map_entries_filter index.exports.symbols (·.1) known
  have htypes := map_entries_filter index.types.locations (·.2.file) known
  unfold files Table.keys
  rw [List.filter_append, List.filter_append, List.filter_append, ← hconcepts,
    ← hentries, ← hexports, ← htypes]
  rfl

-- ========================================================== directories

/-- What holds an entry that is no directory is one. -/
theorem Node.directoryAt_of_leafAt {root : Node} {dir name : Text}
    (hname : '/' ∉ name) (h : root.LeafAt (dir ++ '/' :: name)) :
    root.directoryAt (Path.components dir) = true := by
  obtain ⟨leaf, hfind, -⟩ := h
  have hparts : Path.components (dir ++ '/' :: name)
      = Path.components dir ++ [name] := by
    unfold Path.components
    rw [Text.split_append_cons, Text.split_of_not_mem hname]
  rw [hparts, find?_append] at hfind
  obtain ⟨node, hnode, hbelow⟩ := Option.bind_eq_some_iff.mp hfind
  obtain ⟨entries, -, rfl, -⟩ := exists_of_find?_cons hbelow
  unfold directoryAt
  rw [hnode]
  rfl

namespace Run

open DependencyGraph (KnownTarget)

variable {host : Host} {root : Node} {settings : Option Settings} {s : Settings}
  {project : Project} {rules : Rules} {p : Plan} {clock : Int}
  {wantIndex wantGraph : Bool} {result : RunResult}

-- ============================================================ eligibility

/-- What the settings and a profile ask of a directory, by its path and its
name, for anything below it to be mentioned. -/
structure Open (s : Settings) (profile : Profile) (path name : Text) :
    Prop where
  notBase : name ∉ baseSkips.map String.toList
  notProfile : name ∉ profile.skips.map String.toList
  notMetadata : Glob.accepts "*.egg-info".toList name = false
  notOutput : path ≠ Text.trimBoth (· == '/') s.outputDir
  pathIncluded : ∀ glob ∈ s.exclude, Glob.accepts glob path = false
  nameIncluded : ∀ glob ∈ s.exclude, Glob.accepts glob name = false

/-- What may be mentioned: an entry that is no directory, with a supported
extension, that no glob excludes, below directories that are all open. -/
structure Eligible (root : Node) (s : Settings) (profile : Profile) (q : Text) :
    Prop where
  leaf : root.LeafAt q
  supported : Path.extension (Path.base q) ∈ Language.allExtensions
  included : ∀ glob ∈ s.exclude, Glob.accepts glob q = false
  below : ∀ up name, Path.Above (Path.components q) up name →
    Open s profile (Text.join ['/'] (up ++ [name])) name

/-- A directory on the way to an entry has a path that is not empty. -/
private theorem join_ne_nil_of_above {q name : Text} {up : List Text}
    (hwf : root.wellFormed = true) (hleaf : root.LeafAt q)
    (h : Path.Above (Path.components q) up name) :
    Text.join ['/'] (up ++ [name]) ≠ [] := by
  obtain ⟨leaf, hfind, -⟩ := hleaf
  obtain ⟨below, -, hparts⟩ := h
  have hnames := Node.isName_of_find? hwf hfind
  intro hnil
  have hpieces : up ++ [name] = [] := by
    refine (Text.join_eq_nil_iff fun piece hpiece => ?_).mp hnil
    refine (hnames piece ?_).ne_nil
    rw [hparts, List.append_cons up name below]
    exact List.mem_append_left _ hpiece
  exact List.append_ne_nil_of_right_ne_nil up (List.cons_ne_nil name []) hpieces

/-- What a scope reaches is eligible, if it skips what the base and the
profile skip. -/
theorem eligible_of_reaches {profile : Profile} {more : List String} {q : Text}
    (hwf : root.wellFormed = true)
    (hmore : ∀ name ∈ profile.skips.map String.toList,
      name ∈ more.map String.toList)
    (hreach :
      (Scope.make ((baseSkips ++ more).map String.toList) s.exclude
        s.outputDir).Reaches root q)
    (hext : Path.extension (Path.base q) ∈ Language.allExtensions) :
    Eligible root s profile q := by
  refine ⟨hreach.leaf, hext,
    Scope.excludes_make_eq_false_iff.mp hreach.included, ?_⟩
  intro up name habove
  obtain ⟨-, hskip, hout, hegg, hpath, hname⟩ :=
    Scope.enters_make_iff.mp (hreach.entered up name habove)
  rw [List.map_append, List.mem_append, not_or] at hskip
  refine ⟨hskip.1, fun h => hskip.2 (hmore name h), hegg, ?_, hpath, hname⟩
  intro heq
  rcases hout with hempty | hne
  · exact join_ne_nil_of_above hwf hreach.leaf habove (heq.trans hempty)
  · exact hne heq

/-- Every filter of a run admits supported extensions only. -/
theorem supported_of_filters (hrules : OneLanguage rules) {filter : Filter}
    {name : Name}
    (hf : filter ∈ (freshPlan root s project rules).filters wantIndex wantGraph)
    (hpass : filter.admits name = true) :
    Path.extension name ∈ Language.allExtensions := by
  unfold Plan.filters at hf
  rcases List.mem_append.mp hf with hf | hf
  · split at hf
    case isFalse => cases hf
    case isTrue =>
      obtain ⟨l, -, hext⟩ := extension_of_indexFilters hrules hf hpass
      exact mem_allExtensions hext
  · split at hf
    case isFalse => cases hf
    case isTrue =>
      obtain ⟨r, -, rfl⟩ := Option.map_eq_some_iff.mp (Option.mem_toList.mp hf)
      exact mem_allExtensions (Filter.admits_make_iff.mp hpass).1

/-- What a run knows is eligible. -/
theorem eligible_of_mem_known {q : Text} (hwf : root.wellFormed = true)
    (hrules : OneLanguage rules)
    (h : q ∈ (freshPlan root s project rules).known wantIndex wantGraph) :
    Eligible root s project.profile q := by
  rcases (mem_known hwf).mp h with ⟨hreach, hext⟩ | ⟨hreach, filter, hf, hpass⟩
  · -- the search for concepts skips what any profile skips
    refine eligible_of_reaches hwf (fun name hname => ?_) hreach hext
    exact Profile.mem_skips_all.mpr ⟨project.profile, hname⟩
  · exact eligible_of_reaches hwf (fun _ hname => hname) hreach
      (supported_of_filters hrules hf hpass)

-- ================================================================ pruning

/-- The index of a run names known files only. -/
theorem known_of_index? {index : CodeIndex}
    (h : p.index? clock wantIndex wantGraph = .ok (some index)) :
    ∀ file ∈ index.files, file ∈ p.known wantIndex wantGraph := by
  unfold Plan.index? at h
  split at h
  case isFalse => cases h
  case isTrue =>
    cases hbuilt : buildIndex p clock p.conceptFiles
      (p.prepared wantIndex wantGraph) with
    | error e =>
        rw [hbuilt] at h
        cases h
    | ok built =>
        rw [hbuilt] at h
        injection h with h
        injection h with h
        rw [← h, CodeIndex.files_prune]
        intro file hfile
        simpa using (List.mem_filter.mp hfile).2

/-- The graph of a run joins different paths that are known. -/
theorem known_of_graph? {graph : DependencyGraph} {e : Edge}
    (hwf : root.wellFormed = true)
    (h : (freshPlan root s project rules).graph? clock wantIndex wantGraph
      = some graph) (he : e ∈ graph.edges.edges) :
    e.source ≠ e.target ∧ e.source
      ∈ (freshPlan root s project rules).known wantIndex wantGraph
      ∧ KnownTarget ((freshPlan root s project rules).known wantIndex wantGraph)
        e.target := by
  cases wantGraph with
  | false => cases h
  | true =>
      obtain ⟨himported, htarget⟩ := (mem_graph_iff hwf h).mp he
      have hsource : e.source
          ∈ (freshPlan root s project rules).known wantIndex true :=
        source_mem_known hwf himported
      obtain ⟨-, -, -, -, -, -, hne⟩ := himported
      exact ⟨hne, hsource, htarget⟩

-- ============================================================ the theorem

/-- Whatever the results of a run mention is eligible: the files of the
index, the source of every edge, and its target or, if that has a closing
slash, some file directly in the directory that it names. The ends of an
edge differ. -/
theorem references_are_eligible (hwf : root.wellFormed = true)
    (hs : InEffect host root settings s)
    (hproject : Project.detect host.manifestDepth root = .ok project)
    (hplan : plan host root settings = .ok p)
    (hrun : execute p clock wantIndex wantGraph = .ok result) :
    (∀ index, result.index = some index →
      ∀ file ∈ index.files, Eligible root s project.profile file)
    ∧ ∀ graph, result.graph = some graph → ∀ e ∈ graph.edges.edges,
      Eligible root s project.profile e.source
        ∧ (¬ ['/'] <:+ e.target → Eligible root s project.profile e.target)
        ∧ (['/'] <:+ e.target → ∃ dir name, e.target = dir ++ ['/']
          ∧ root.directoryAt (Path.components dir) = true
          ∧ '/' ∉ name ∧ Eligible root s project.profile (dir ++ '/' :: name))
        ∧ e.source ≠ e.target := by
  obtain ⟨rules, hrules, rfl⟩ := exists_rules_of_plan hs hproject hplan
  have hone := oneLanguage_of_ofProject hrules
  obtain ⟨-, hindex, hgraph, -⟩ := execute_eq_ok_iff.mp hrun
  constructor
  · intro index hi file hfile
    exact eligible_of_mem_known hwf hone
      (known_of_index? (hi ▸ hindex) file hfile)
  · intro graph hg e he
    rw [hgraph] at hg
    obtain ⟨hne, hsource, htarget⟩ := known_of_graph? hwf hg he
    refine ⟨eligible_of_mem_known hwf hone hsource, ?_, ?_, hne⟩
    · intro hslash
      rw [KnownTarget, if_neg hslash] at htarget
      exact eligible_of_mem_known hwf hone htarget
    · intro hslash
      rw [KnownTarget, if_pos hslash] at htarget
      -- Such a target is known through a file that it holds, and a file's
      -- directory is one of the tree.
      obtain ⟨q, hq, ⟨dir, hdir⟩, name, hname, rfl⟩ := htarget
      have hfile := eligible_of_mem_known hwf hone hq
      rw [← hdir, List.append_assoc, List.singleton_append] at hfile
      exact ⟨dir, name, hdir.symm, Node.directoryAt_of_leafAt hname hfile.leaf,
        hname, hfile⟩

/-- A Go project with a package of its own and a vendored copy of it. -/
def vendoredPackage : Node :=
  .directory
    [("go.mod".toList, .file (Utf8.encode "module m".toList) true),
     ("main.go".toList, .file (Utf8.encode "import \"m/pkg\"".toList) true),
     ("pkg".toList, .directory
       [("serve.go".toList,
         .file (Utf8.encode "type Server struct".toList) true)]),
     ("vendor".toList, .directory
       [("serve.go".toList,
         .file (Utf8.encode "type Server struct".toList) true)])]

/-- The plan for it under default settings. -/
def vendoredPackagePlan : Plan :=
  freshPlan vendoredPackage {} ⟨.go, .none, ['m']⟩
    ⟨[.goCall], some .go, some (.go ['m'])⟩

theorem plan_vendoredPackage :
    plan .standard vendoredPackage (some {}) = .ok vendoredPackagePlan :=
  plan_eq_ok_iff.mpr ⟨{}, ⟨.go, .none, ['m']⟩,
    ⟨[.goCall], some .go, some (.go ['m'])⟩, rfl, rfl, rfl, rfl⟩

/-- An export and a type name the same file, and an edge its directory. -/
theorem execute_vendoredPackage : ∃ result index graph,
    execute vendoredPackagePlan 0 true true = .ok result
      ∧ result.index = some index ∧ result.graph = some graph
      ∧ index.files = ["pkg/serve.go".toList, "pkg/serve.go".toList]
      ∧ graph.edges.edges = [⟨"main.go".toList, "pkg/".toList⟩] := by
  have heval :
    (execute vendoredPackagePlan 0 true true).toOption.map (fun result =>
      (result.index.map CodeIndex.files, result.graph.map (·.edges.edges)))
      = some (some ["pkg/serve.go".toList, "pkg/serve.go".toList],
        some [⟨"main.go".toList, "pkg/".toList⟩]) := by
    decide +kernel
  cases hrun : execute vendoredPackagePlan 0 true true with
  | error e =>
      rw [hrun] at heval
      cases heval
  | ok result =>
      rw [hrun] at heval
      obtain ⟨hfiles, hedges⟩ := Prod.mk.inj (Option.some.inj heval)
      obtain ⟨index, hindex, hfiles⟩ := Option.map_eq_some_iff.mp hfiles
      obtain ⟨graph, hgraph, hedges⟩ := Option.map_eq_some_iff.mp hedges
      exact ⟨result, index, graph, rfl, hindex, hgraph, hfiles, hedges⟩

/-- All three are eligible. -/
theorem references_are_eligible_vendoredPackage :
    Eligible vendoredPackage {} .go "pkg/serve.go".toList
      ∧ Eligible vendoredPackage {} .go "main.go".toList
      ∧ ∃ dir name, "pkg/".toList = dir ++ ['/']
        ∧ vendoredPackage.directoryAt (Path.components dir) = true
        ∧ '/' ∉ name ∧ Eligible vendoredPackage {} .go
          (dir ++ '/' :: name) := by
  obtain ⟨result, index, graph, hrun, hindex, hgraph, hfiles, hedges⟩ :=
    execute_vendoredPackage
  obtain ⟨hnamed, hjoined⟩ :=
    @references_are_eligible .standard _ (some {}) _ _ _ _ _ _ _ (by decide) rfl
      rfl plan_vendoredPackage hrun
  obtain ⟨hsource, -, hpackage, -⟩ :=
    hjoined graph hgraph ⟨"main.go".toList, "pkg/".toList⟩
      (by rw [hedges]; exact List.mem_singleton.mpr rfl)
  refine ⟨hnamed index hindex _ ?_, hsource, hpackage (by decide)⟩
  rw [hfiles]
  exact List.mem_cons_self

end Run

end SourceAtlas
