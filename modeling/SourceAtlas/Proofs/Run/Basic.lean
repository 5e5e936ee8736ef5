/-
A run taken apart: what planning settles, what executing a plan gives, and
which paths a run knows. Everything later in the theory of the run reasons
from these three and does not open `plan` and `execute` again.

- `plan_eq_ok_iff`: a plan is the settings in effect, the classification and
  the rules of a project, and two surveys that were asked nothing yet.
- `execute_eq_ok_iff`: a run succeeds if there is a source at all; its index
  and graph are then what was built, pruned to the paths known.
- `mem_known`: a path is known if the search for concepts reaches it, or the
  scope of the profile does and some filter of the run admits it.

Consumed by the modules on what the results of a run mention.
-/
import SourceAtlas.Run
import SourceAtlas.Proofs.Except
import SourceAtlas.Proofs.Extract.Basic

namespace SourceAtlas.Run

variable {host : Host}

-- ============================================================== planning

/-- The settings in effect: those given, or else those of the project. -/
def InEffect (host : Host) (root : Node) (settings : Option Settings)
    (s : Settings) : Prop :=
  match settings with
  | some given => given = s
  | none => Settings.load host root = .ok s

/-- The plan for a project under some settings, before anything is asked. -/
def freshPlan (root : Node) (s : Settings) (project : Project) (rules : Rules) :
    Plan :=
  { root, settings := s, project, rules
    survey := ⟨.ofProfile project.profile s.exclude s.outputDir, []⟩
    conceptSurvey := ⟨.ofConcepts s.exclude s.outputDir, []⟩ }

/-- Planning under given settings. -/
theorem plan_some_eq_ok_iff {root : Node} {s : Settings} {p : Plan} :
    plan host root (some s) = .ok p ↔
      ∃ project rules, Project.detect host.manifestDepth root = .ok project
        ∧ Rules.ofProject host.configDepth project root s.aliases.entries
          = .ok rules
        ∧ p = freshPlan root s project rules := by
  simp only [plan]
  rw [bind_eq_ok_iff]
  constructor
  · intro h
    obtain ⟨given, hgiven, h⟩ := h
    injection hgiven with hgiven
    subst hgiven
    obtain ⟨project, hproject, h⟩ := bind_eq_ok_iff.mp h
    obtain ⟨rules, hrules, h⟩ := bind_eq_ok_iff.mp h
    injection h with h
    exact ⟨project, rules, mapError_eq_ok_iff.mp hproject,
      mapError_eq_ok_iff.mp hrules, h.symm⟩
  · intro h
    obtain ⟨project, rules, hproject, hrules, rfl⟩ := h
    refine ⟨s, rfl, bind_eq_ok_iff.mpr
      ⟨project, mapError_eq_ok_iff.mpr hproject, ?_⟩⟩
    exact bind_eq_ok_iff.mpr ⟨rules, mapError_eq_ok_iff.mpr hrules, rfl⟩

/-- Settings that are not given are loaded first. -/
theorem plan_none (host : Host) (root : Node) :
    plan host root none
      = (Settings.load host root).mapError .settings >>= fun s =>
        plan host root (some s) :=
  rfl

/-- What planning settles. -/
theorem plan_eq_ok_iff {root : Node} {settings : Option Settings} {p : Plan} :
    plan host root settings = .ok p ↔
      ∃ s project rules, InEffect host root settings s
        ∧ Project.detect host.manifestDepth root = .ok project
        ∧ Rules.ofProject host.configDepth project root s.aliases.entries
          = .ok rules
        ∧ p = freshPlan root s project rules := by
  cases settings with
  | some given =>
      rw [plan_some_eq_ok_iff]
      constructor
      · intro h
        obtain ⟨project, rules, h⟩ := h
        exact ⟨given, project, rules, rfl, h⟩
      · intro h
        obtain ⟨s, project, rules, hs, h⟩ := h
        cases hs
        exact ⟨project, rules, h⟩
  | none =>
      rw [plan_none, bind_eq_ok_iff]
      constructor
      · intro h
        obtain ⟨s, hs, h⟩ := h
        obtain ⟨project, rules, h⟩ := plan_some_eq_ok_iff.mp h
        exact ⟨s, project, rules, mapError_eq_ok_iff.mp hs, h⟩
      · intro h
        obtain ⟨s, project, rules, hs, h⟩ := h
        exact ⟨s, mapError_eq_ok_iff.mpr hs,
          plan_some_eq_ok_iff.mpr ⟨project, rules, h⟩⟩

/-- One set of settings is in effect. -/
theorem InEffect.unique {root : Node} {settings : Option Settings}
    {s t : Settings} (hs : InEffect host root settings s)
    (ht : InEffect host root settings t) : s = t := by
  cases settings with
  | some given => exact hs.symm.trans ht
  | none => exact Except.ok.inj (hs.symm.trans ht)

/-- The plan of a project whose settings and classification are known. -/
theorem exists_rules_of_plan {root : Node} {settings : Option Settings}
    {s : Settings} {project : Project} {p : Plan}
    (hs : InEffect host root settings s)
    (hproject : Project.detect host.manifestDepth root = .ok project)
    (hplan : plan host root settings = .ok p) :
    ∃ rules, Rules.ofProject host.configDepth project root s.aliases.entries
      = .ok rules
      ∧ p = freshPlan root s project rules := by
  obtain ⟨t, other, rules, ht, hother, hrules, hp⟩ := plan_eq_ok_iff.mp hplan
  have hst : t = s := ht.unique hs
  have hpo : other = project := Except.ok.inj (hother.symm.trans hproject)
  subst hst
  subst hpo
  exact ⟨rules, hrules, hp⟩

/-- If the rules are known as well, so is the plan. -/
theorem eq_freshPlan_of_plan {root : Node} {settings : Option Settings}
    {s : Settings} {project : Project} {rules : Rules} {p : Plan}
    (hs : InEffect host root settings s)
    (hproject : Project.detect host.manifestDepth root = .ok project)
    (hrules : Rules.ofProject host.configDepth project root s.aliases.entries
      = .ok rules) (hplan : plan host root settings = .ok p) :
    p = freshPlan root s project rules := by
  obtain ⟨found, hfound, hp⟩ := exists_rules_of_plan hs hproject hplan
  rw [hp, Except.ok.inj (hfound.symm.trans hrules)]

-- ============================================================= executing

/-- The files that a plan looks for concepts in. -/
def Plan.conceptFiles (p : Plan) : List SourceFile :=
  (p.conceptSurvey.enumerate p.root conceptFilter).1

/-- The filters that a run asks. -/
def Plan.filters (p : Plan) (wantIndex wantGraph : Bool) : List Filter :=
  (if wantIndex then indexFilters p.rules else [])
    ++ if wantGraph then graphFilters p.rules else []

/-- The survey of the profile once it has been asked. -/
def Plan.prepared (p : Plan) (wantIndex wantGraph : Bool) : Survey :=
  Extract.prepare p.root (p.filters wantIndex wantGraph) p.survey

/-- The paths that a run knows. -/
def Plan.known (p : Plan) (wantIndex wantGraph : Bool) : List Text :=
  Ordered.insertAll (p.conceptSurvey.enumerate p.root conceptFilter).2.allPaths
    (p.prepared wantIndex wantGraph).allPaths

/-- The index of a run, if it is asked for. -/
def Plan.index? (p : Plan) (clock : Int) (wantIndex wantGraph : Bool) :
    Except RunError (Option CodeIndex) :=
  if wantIndex then
    (buildIndex p clock p.conceptFiles (p.prepared wantIndex wantGraph)).map
      fun index =>
      some (index.prune (p.known wantIndex wantGraph))
  else .ok none

/-- The graph of a run, if it is asked for. -/
def Plan.graph? (p : Plan) (clock : Int) (wantIndex wantGraph : Bool) :
    Option DependencyGraph :=
  if wantGraph then
    some ((buildGraph p clock (p.prepared wantIndex wantGraph)).prune
      (p.known wantIndex wantGraph))
  else none

/-- Executing a plan, with its parts named. -/
theorem execute_eq (p : Plan) (clock : Int) (wantIndex wantGraph : Bool) :
    execute p clock wantIndex wantGraph =
      if p.conceptFiles.isEmpty then .error .noSources
      else (p.index? clock wantIndex wantGraph).map fun index =>
        ⟨index, p.graph? clock wantIndex wantGraph,
          p.known wantIndex wantGraph⟩ := by
  simp only [execute]
  by_cases hfiles : p.conceptFiles.isEmpty = true
  · rw [if_pos hfiles]
    exact if_pos hfiles
  · rw [if_neg hfiles]
    refine (if_neg hfiles).trans ?_
    cases wantIndex with
    | false => rfl
    | true =>
        show Except.map _ (buildIndex p clock p.conceptFiles
          (p.prepared true wantGraph)) >>= _ = Except.map _ (Except.map _ _)
        cases buildIndex p clock p.conceptFiles (p.prepared true wantGraph) with
        | error e => rfl
        | ok index => rfl

/-- Building an index never fails. -/
theorem exists_buildIndex_eq_ok (p : Plan) (clock : Int)
    (files : List SourceFile) (survey : Survey) :
    ∃ index, buildIndex p clock files survey = .ok index := by
  obtain ⟨after, h⟩ :=
    Extract.exists_entryPoints_eq_ok p.root p.rules.strategies survey
  simp only [buildIndex, h]
  exact ⟨_, rfl⟩

/-- Neither does the index of a run. -/
theorem exists_index?_eq_ok (p : Plan) (clock : Int)
    (wantIndex wantGraph : Bool) :
    ∃ index, p.index? clock wantIndex wantGraph = .ok index := by
  unfold Plan.index?
  cases wantIndex with
  | false => exact ⟨none, rfl⟩
  | true =>
      obtain ⟨index, h⟩ :=
        exists_buildIndex_eq_ok p clock p.conceptFiles
          (p.prepared true wantGraph)
      rw [h]
      exact ⟨_, rfl⟩

/-- What a successful run gives. -/
theorem execute_eq_ok_iff {p : Plan} {clock : Int} {wantIndex wantGraph : Bool}
    {result : RunResult} :
    execute p clock wantIndex wantGraph = .ok result ↔
      p.conceptFiles ≠ [] ∧ p.index? clock wantIndex wantGraph
        = .ok result.index
        ∧ result.graph = p.graph? clock wantIndex wantGraph
        ∧ result.known = p.known wantIndex wantGraph := by
  rw [execute_eq]
  by_cases hfiles : p.conceptFiles = []
  · simp [hfiles]
  · rw [if_neg (by simpa using hfiles)]
    obtain ⟨index, graph, known⟩ := result
    cases hindex : p.index? clock wantIndex wantGraph with
    | error e => simp [Except.map]
    | ok found =>
        simp only [Except.map, Except.ok.injEq, RunResult.mk.injEq]
        constructor
        · intro h
          obtain ⟨h1, h2, h3⟩ := h
          exact ⟨hfiles, h1, h2.symm, h3.symm⟩
        · intro h
          obtain ⟨-, h1, h2, h3⟩ := h
          exact ⟨h1, h2.symm, h3.symm⟩

/-- A run succeeds if there is a source, whatever is asked for. -/
theorem exists_execute_eq_ok_iff {p : Plan} {clock : Int}
    {wantIndex wantGraph : Bool} :
    (∃ result, execute p clock wantIndex wantGraph = .ok result)
      ↔ p.conceptFiles ≠ [] := by
  constructor
  · intro h
    obtain ⟨result, h⟩ := h
    exact (execute_eq_ok_iff.mp h).1
  · intro hfiles
    obtain ⟨index, hindex⟩ := exists_index?_eq_ok p clock wantIndex wantGraph
    exact ⟨⟨index, _, _⟩, execute_eq_ok_iff.mpr ⟨hfiles, hindex, rfl, rfl⟩⟩

/-- A run gives what it is asked for. -/
theorem isSome_of_execute {p : Plan} {clock : Int} {wantIndex wantGraph : Bool}
    {result : RunResult}
    (h : execute p clock wantIndex wantGraph = .ok result) :
    result.index.isSome = wantIndex ∧ result.graph.isSome = wantGraph := by
  obtain ⟨-, hindex, hgraph, -⟩ := execute_eq_ok_iff.mp h
  constructor
  · unfold Plan.index? at hindex
    cases wantIndex with
    | false =>
        injection hindex with hindex
        rw [← hindex]
        rfl
    | true =>
        obtain ⟨index, hbuilt⟩ :=
          exists_buildIndex_eq_ok p clock p.conceptFiles
            (p.prepared true wantGraph)
        rw [if_pos rfl, hbuilt] at hindex
        injection hindex with hindex
        rw [← hindex]
        rfl
  · rw [hgraph]
    cases wantGraph with
    | false => rfl
    | true => rfl

/-- A run that is asked for the graph has one. -/
theorem exists_graph_of_execute {p : Plan} {clock : Int} {wantIndex : Bool}
    {result : RunResult} (h : execute p clock wantIndex true = .ok result) :
    ∃ graph, result.graph = some graph
      ∧ p.graph? clock wantIndex true = some graph
      ∧ result.known = p.known wantIndex true := by
  obtain ⟨-, -, hgraph, hknown⟩ := execute_eq_ok_iff.mp h
  exact ⟨_, hgraph, rfl, hknown⟩

-- ================================================================= rules

/-- The rules of a project read one language throughout: that of its
resolver. -/
structure OneLanguage (rules : Rules) : Prop where
  strategies : ∀ strategy ∈ rules.strategies,
    rules.language = some strategy.language
  resolver : rules.language = rules.resolver.map (·.language)

theorem oneLanguage_of_ofProject {depth : Nat} {project : Project} {root : Node}
    {aliases : List (Text × List Text)} {rules : Rules}
    (h : Rules.ofProject depth project root aliases = .ok rules) :
    OneLanguage rules := by
  unfold Rules.ofProject at h
  split at h
  case h_1 =>
    obtain ⟨found, -, h⟩ := bind_eq_ok_iff.mp h
    injection h with h
    subst h
    refine ⟨?_, rfl⟩
    intro strategy hs
    simp only at hs
    split at hs
    · rcases List.mem_cons.1 hs with rfl | hs
      · rfl
      · rw [List.mem_singleton.1 hs]
        rfl
    · rw [List.mem_singleton.1 hs]
      rfl
  case h_2 | h_3 =>
    injection h with h
    subst h
    refine ⟨fun strategy hs => ?_, rfl⟩
    rw [List.mem_singleton.1 hs]
    rfl
  case h_4 | h_5 =>
    injection h with h
    subst h
    exact ⟨fun _ hs => (List.not_mem_nil hs).elim, rfl⟩

/-- Only an unknown project has no resolver. -/
theorem resolver_eq_none_iff {depth : Nat} {project : Project} {root : Node}
    {aliases : List (Text × List Text)} {rules : Rules}
    (h : Rules.ofProject depth project root aliases = .ok rules) :
    rules.resolver = none ↔ project.profile = .unknown := by
  unfold Rules.ofProject at h
  split at h
  case h_1 hp =>
    obtain ⟨found, -, h⟩ := bind_eq_ok_iff.mp h
    injection h with h
    subst h
    simp [hp]
  all_goals
    next hp =>
    injection h with h
    subst h
    simp [hp]

-- =========================================================== known paths

/-- The typed extensions of a language are extensions of it. -/
theorem mem_extensions_of_mem_typeExtensions {l : Language} {ext : Text}
    (h : ext ∈ l.typeExtensions) : ext ∈ l.extensions := by
  cases l with
  | script => exact List.mem_append_left _ h
  | python => exact h
  | go => exact h
  | rust => exact h

/-- The extensions of a language are supported. -/
theorem mem_allExtensions {l : Language} {ext : Text} (h : ext ∈ l.extensions) :
    ext ∈ Language.allExtensions := by
  unfold Language.allExtensions
  cases l with
  | script => simp [h]
  | python => simp [h]
  | go => simp [h]
  | rust => simp [h]

/-- What the filters for the index admit: sources of the language. -/
theorem extension_of_indexFilters {rules : Rules} (hrules : OneLanguage rules)
    {filter : Filter} {name : Name} (hf : filter ∈ indexFilters rules)
    (hpass : filter.admits name = true) :
    ∃ l, rules.language = some l ∧ Path.extension name ∈ l.extensions := by
  unfold indexFilters at hf
  rw [List.mem_append, List.mem_append, List.mem_map, Option.mem_toList,
    Option.mem_toList, Option.map_eq_some_iff, Option.map_eq_some_iff] at hf
  rcases hf with (⟨strategy, hs, rfl⟩ | ⟨l, hl, rfl⟩) | ⟨l, hl, rfl⟩
  · exact ⟨_, hrules.strategies strategy hs,
      (Filter.admits_make_iff.mp hpass).1⟩
  · exact ⟨l, hl, (Filter.admits_make_iff.mp hpass).1⟩
  · exact ⟨l, hl, mem_extensions_of_mem_typeExtensions
      (Filter.admits_make_iff.mp hpass).1⟩

/-- The paths that a run knows: those that the search for concepts reaches,
and those that the profile reaches and a filter of the run admits. -/
theorem mem_known {root : Node} {s : Settings} {project : Project}
    {rules : Rules} {wantIndex wantGraph : Bool} {q : Text}
    (hwf : root.wellFormed = true) :
    q ∈ (freshPlan root s project rules).known wantIndex wantGraph ↔
      ((Scope.ofConcepts s.exclude s.outputDir).Reaches root q
          ∧ Path.extension (Path.base q) ∈ Language.allExtensions)
        ∨ (Scope.ofProfile project.profile s.exclude s.outputDir).Reaches root q
          ∧ ∃ filter ∈ (freshPlan root s project rules).filters
            wantIndex wantGraph,
            filter.admits (Path.base q) = true := by
  have hconcepts :=
    Survey.faithful_new root (Scope.ofConcepts s.exclude s.outputDir)
  have hprofile := Survey.faithful_new root
    (Scope.ofProfile project.profile s.exclude s.outputDir)
  unfold Plan.known
  rw [Ordered.mem_insertAll]
  -- The concepts' survey has been asked with one filter, the profile's with one
  -- for each extractor.
  refine or_congr ?_ ?_
  · refine (Survey.mem_allPaths hwf (Survey.faithful_enumerate hconcepts)).trans
      ?_
    rw [Survey.enumerate_scope]
    refine and_congr Iff.rfl ?_
    constructor
    · intro h
      obtain ⟨filter, hasked, hpass⟩ := h
      rcases Survey.mem_asked_enumerate.mp hasked with rfl | hasked
      · exact (Filter.admits_make_iff.mp hpass).1
      · cases hasked
    · intro hext
      refine ⟨conceptFilter, Survey.mem_asked_enumerate.mpr (Or.inl rfl), ?_⟩
      exact Filter.admits_make_iff.mpr ⟨hext, by simp, by simp⟩
  · refine (Survey.mem_allPaths hwf (Extract.faithful_prepare hprofile)).trans
      ?_
    rw [Extract.prepare_scope]
    refine and_congr Iff.rfl ?_
    constructor
    · intro h
      obtain ⟨filter, hasked, hpass⟩ := h
      rcases Extract.mem_asked_prepare.mp hasked with hasked | hasked
      · exact ⟨filter, hasked, hpass⟩
      · cases hasked
    · intro h
      obtain ⟨filter, hfilter, hpass⟩ := h
      exact ⟨filter, Extract.mem_asked_prepare.mpr (Or.inl hfilter), hpass⟩

end SourceAtlas.Run
