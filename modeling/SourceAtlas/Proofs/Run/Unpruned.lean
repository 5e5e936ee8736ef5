/-
The index of a run is what the extractors find. A run prunes its index to
the paths that it knows, but nothing in the index needs pruning: every
extractor mentions only files that are listed for a filter of its own, and
each of these filters has been asked before extraction starts, whether the
graph is built or not. So pruning removes nothing, and building the graph
as well, which makes a run know more paths, does not show in the index.

- `CodeIndex.prune_of_within`: an index of known files stays as it is.
- `buildIndex_eq_ok_merged`: what the surveys were asked before does not
  change what is found.
- `index_is_what_was_found`: the index of both runs, section by section.
-/
import SourceAtlas.Proofs.Extract.Mentions
import SourceAtlas.Proofs.Run.References

namespace SourceAtlas

-- =============================================================== pruning

/-- Filtering a table keeps it if every entry passes. -/
private theorem filter_eq_self_of_all {α : Type} {t : Table α}
    {keep : Text → α → Bool}
    (h : t.All fun key value => keep key value = true) : t.filter keep = t := by
  refine Table.ext ?_
  exact List.filter_eq_self.mpr fun entry hentry => h entry hentry

namespace CodeIndex

variable {index : CodeIndex} {known : List Text}

/-- Every file that an index mentions has the property. -/
structure Within (P : Text → Prop) (index : CodeIndex) : Prop where
  concepts : index.concepts.Within P
  entryPoints : index.entryPoints.Within P
  exports : index.exports.Within P
  types : index.types.Within P

/-- Every file that an index within some files mentions is one of them. -/
theorem Within.of_mem_files {P : Text → Prop} (h : index.Within P) {file : Text}
    (hfile : file ∈ index.files) : P file := by
  unfold files at hfile
  rw [List.mem_append, List.mem_append, List.mem_append] at hfile
  rcases hfile with ((hfile | hfile) | hfile) | hfile
  · obtain ⟨entry, hentry, hfile⟩ := List.mem_flatMap.mp hfile
    exact h.concepts entry hentry file hfile
  · obtain ⟨entry, hentry, rfl⟩ := List.mem_map.mp hfile
    exact h.entryPoints entry hentry
  · obtain ⟨entry, hentry, rfl⟩ := List.mem_map.mp hfile
    exact h.exports entry hentry
  · obtain ⟨entry, hentry, rfl⟩ := List.mem_map.mp hfile
    exact h.types entry hentry

/-- An index that mentions known files only stays as it is. -/
theorem prune_of_within (h : index.Within (· ∈ known)) :
    index.prune known = index := by
  have hconcepts : index.concepts.prune known = index.concepts := by
    have htable :
        index.concepts.files.map (fun files => files.filter known.contains)
          = index.concepts.files := by
      apply Table.ext
      refine (List.map_congr_left fun entry hentry => ?_).trans (List.map_id _)
      have hfiles : entry.2.filter known.contains = entry.2 :=
        List.filter_eq_self.mpr fun file hfile => by
          simpa using h.concepts entry hentry file hfile
      show (entry.1, entry.2.filter known.contains) = entry
      rw [hfiles]
    unfold ConceptMap.prune
    rw [htable]
  have hentries : index.entryPoints.prune known = index.entryPoints :=
    congrArg EntryPointMap.mk
      (filter_eq_self_of_all
        fun entry he => by simpa using h.entryPoints entry he)
  have hexports : index.exports.prune known = index.exports :=
    congrArg ExportMap.mk
      (filter_eq_self_of_all fun entry he => by simpa using h.exports entry he)
  have htypes : index.types.prune known = index.types :=
    congrArg TypeMap.mk
      (filter_eq_self_of_all fun entry he => by simpa using h.types entry he)
  unfold prune
  rw [hconcepts, hentries, hexports, htypes]

/-- Each of the four maps merged into an empty one; the concepts are capped
once more. -/
def merged (limit : Int) (found : CodeIndex) : CodeIndex :=
  { found with
    concepts := (ConceptMap.empty limit).merge found.concepts
    entryPoints := EntryPointMap.empty.merge found.entryPoints
    exports := ExportMap.empty.merge found.exports
    types := TypeMap.empty.merge found.types }

/-- Merging into empty maps mentions no more files. -/
theorem Within.merged {P : Text → Prop} {found : CodeIndex} (h : found.Within P)
    (limit : Int) : (found.merged limit).Within P :=
  ⟨ConceptMap.within_merge Table.all_empty h.concepts,
    Table.all_merge Table.all_empty h.entryPoints,
    ExportMap.within_merge Table.all_empty h.exports,
    Table.all_merge Table.all_empty h.types⟩

end CodeIndex

namespace Run

variable {p : Plan} {clock : Int} {wantIndex wantGraph : Bool}
  {result : RunResult} {found : CodeIndex}

-- ============================================================ extraction

/-- What the four extractors of a plan find, each on its own, in files that
its surveys list before they were asked anything else. -/
structure Plan.Finds (p : Plan) (clock : Int) (found : CodeIndex) : Prop where
  project : found.project = p.project
  generated : found.generated = clock
  concepts : found.concepts
    = Concept.extract p.settings.conceptLimit (p.conceptFiles.map (·.path))
  entryPoints : ∃ after,
    Extract.entryPoints p.root p.rules.strategies p.survey
      = .ok (found.entryPoints, after)
  exports : found.exports = (Extract.exports p.root p.rules.language p.survey).1
  types : found.types = (Extract.types p.root p.rules.language p.survey).1

/-- Extraction always finds something to build an index of. -/
theorem exists_finds (p : Plan) (clock : Int) :
    ∃ found, p.Finds clock found := by
  obtain ⟨after, hentries⟩ :=
    Extract.exists_entryPoints_eq_ok p.root p.rules.strategies p.survey
  exact ⟨⟨p.project, clock, _, _, _, _⟩, rfl, rfl, rfl,
    ⟨after, hentries⟩, rfl, rfl⟩

/-- Two surveys give the same answers. -/
def Alike (root : Node) (survey other : Survey) : Prop :=
  ∀ filter, (survey.enumerate root filter).1 = (other.enumerate root filter).1

section Alike

variable {root : Node} {survey other after : Survey}
  {language : Option Language}

/-- Surveys that answer alike give the same entry points. -/
theorem entryPoints_of_alike {strategies : List Route.Strategy}
    {entries : EntryPointMap} (hsame : Alike root survey other)
    (h : Extract.entryPoints root strategies other = .ok (entries, after)) :
    ∃ after, Extract.entryPoints root strategies survey
      = .ok (entries, after) := by
  obtain ⟨left, hleft⟩ :=
    Extract.exists_entryPoints_eq_ok root strategies survey
  obtain ⟨right, hright⟩ :=
    Extract.exists_entryPoints_eq_ok root strategies other
  have hparts : Extract.strategyEntries root survey
      = Extract.strategyEntries root other := by
    funext s
    unfold Extract.strategyEntries Extract.strategyTexts
    rw [hsame]
  rw [hright] at h
  cases h
  rw [hparts] at hleft
  exact ⟨left, hleft⟩

theorem exports_of_alike (hsame : Alike root survey other) :
    (Extract.exports root language survey).1
      = (Extract.exports root language other).1 := by
  cases language with
  | none => rfl
  | some l =>
      simp only [Extract.exports]
      rw [hsame]

theorem types_of_alike (hsame : Alike root survey other) :
    (Extract.types root language survey).1
      = (Extract.types root language other).1 := by
  cases language with
  | none => rfl
  | some l =>
      simp only [Extract.types]
      rw [hsame]

/-- Reading exports leaves a survey that gives the same answers. -/
theorem alike_exports :
    Alike root (Extract.exports root language survey).2 survey := by
  intro filter
  cases language with
  | none => rfl
  | some l =>
      exact Survey.enumerate_enumerate survey root
        (Extract.exportFilter l) filter

end Alike

/-- The surveys have been asked before extraction starts, and each extractor
leaves its answers to the next; neither changes what is found. -/
theorem buildIndex_eq_ok_merged (h : p.Finds clock found) :
    buildIndex p clock p.conceptFiles (p.prepared wantIndex wantGraph)
      = .ok (found.merged p.settings.conceptLimit) := by
  have hprepared : Alike p.root (p.prepared wantIndex wantGraph) p.survey :=
    fun filter => Extract.enumerate_prepare _ _ filter
  obtain ⟨_, hentries⟩ := h.entryPoints
  obtain ⟨after, hentries⟩ := entryPoints_of_alike hprepared hentries
  have hafter : Alike p.root after p.survey :=
    fun filter => (Extract.enumerate_entryPoints hentries filter).trans
      (hprepared filter)
  have hlast :
      Alike p.root (Extract.exports p.root p.rules.language after).2 p.survey :=
    fun filter => (alike_exports filter).trans (hafter filter)
  obtain ⟨project, generated, concepts, entries, exports, types⟩ := found
  obtain ⟨rfl, rfl, rfl, -, rfl, rfl⟩ := h
  simp only [buildIndex, hentries]
  show Except.ok _ = Except.ok _
  unfold CodeIndex.merged
  rw [exports_of_alike hafter, types_of_alike hlast]

-- =========================================================== known files

/-- What was asked for the index is known to a run that builds it. -/
theorem path_mem_known {filter : Filter} {f : SourceFile}
    (hfilter : filter ∈ indexFilters p.rules)
    (hf : f ∈ (p.survey.enumerate p.root filter).1) :
    f.path ∈ p.known true wantGraph := by
  have hasked : filter ∈ (p.prepared true wantGraph).asked :=
    Extract.mem_asked_prepare.mpr (Or.inl (List.mem_append_left _ hfilter))
  have hlisted :
      f ∈ ((p.prepared true wantGraph).enumerate p.root filter).1 := by
    unfold Plan.prepared
    rw [Extract.enumerate_prepare]
    exact hf
  unfold Plan.known
  rw [Ordered.mem_insertAll]
  exact Or.inr (Survey.path_mem_allPaths hasked hlisted)

/-- What concepts are looked for in is known to every run. -/
theorem concept_path_mem_known {f : SourceFile} (hf : f ∈ p.conceptFiles) :
    f.path ∈ p.known wantIndex wantGraph := by
  unfold Plan.known
  rw [Ordered.mem_insertAll]
  have hasked : conceptFilter
      ∈ (p.conceptSurvey.enumerate p.root conceptFilter).2.asked :=
    Survey.mem_asked_enumerate.mpr (Or.inl rfl)
  have hlisted :
      f ∈ ((p.conceptSurvey.enumerate p.root conceptFilter).2.enumerate p.root
        conceptFilter).1 := by
    rw [Survey.enumerate_enumerate]
    exact hf
  exact Or.inl (Survey.path_mem_allPaths hasked hlisted)

/-- The filters that were asked for the index are those of its extractors. -/
theorem mem_indexFilters {rules : Rules} {filter : Filter} :
    filter ∈ indexFilters rules
      ↔ (∃ s ∈ rules.strategies, filter = Extract.strategyFilter s)
      ∨ ∃ l, rules.language = some l
        ∧ (filter = Extract.exportFilter l
          ∨ filter = Extract.typeFilter l) := by
  unfold indexFilters
  cases rules.language with
  | none => simp [eq_comm]
  | some l => simp [eq_comm]

/-- The extractors mention known files only. -/
theorem Plan.Finds.within (h : p.Finds clock found) :
    found.Within (· ∈ p.known true wantGraph) := by
  obtain ⟨after, hentries⟩ := h.entryPoints
  refine ⟨?_, ?_, ?_, ?_⟩
  · rw [h.concepts]
    refine Concept.within_extract fun path hpath => ?_
    obtain ⟨f, hf, rfl⟩ := List.mem_map.mp hpath
    exact concept_path_mem_known hf
  · obtain ⟨left, hleft⟩ :=
      Extract.exists_entryPoints_eq_ok p.root p.rules.strategies p.survey
    rw [hentries] at hleft
    injection hleft with hleft
    injection hleft with hleft
    rw [hleft]
    refine Extract.within_mergeEntries fun s hs f hf => path_mem_known ?_ hf
    exact mem_indexFilters.mpr (Or.inl ⟨s, hs, rfl⟩)
  · rw [h.exports]
    refine Extract.within_exports fun l hl f hf => path_mem_known ?_ hf
    exact mem_indexFilters.mpr (Or.inr ⟨l, hl, Or.inl rfl⟩)
  · rw [h.types]
    refine Extract.within_types fun l hl f hf => path_mem_known ?_ hf
    exact mem_indexFilters.mpr (Or.inr ⟨l, hl, Or.inr rfl⟩)

-- ============================================================ the theorem

/-- If a run over a project succeeds at all, then with the graph and without
it a run that builds the index succeeds and gives the same index: each of
its four maps is what the extractor found, merged into an empty one. Pruning
leaves this index as it is, because every file that an extractor mentions is
known to the run. -/
theorem index_is_what_was_found
    (hrun : execute p clock wantIndex wantGraph = .ok result) :
    ∃ found, p.Finds clock found ∧ ∀ withGraph, ∃ full,
      execute p clock true withGraph = .ok full
      ∧ full.index = some (found.merged p.settings.conceptLimit)
      ∧ (found.merged p.settings.conceptLimit).prune full.known
        = found.merged p.settings.conceptLimit
      ∧ ∀ file ∈ found.files, file ∈ full.known := by
  have hfiles := exists_execute_eq_ok_iff.mp ⟨result, hrun⟩
  obtain ⟨found, hfound⟩ := exists_finds p clock
  refine ⟨found, hfound, fun withGraph => ?_⟩
  have hwithin : found.Within (· ∈ p.known true withGraph) := hfound.within
  have hprune :=
    CodeIndex.prune_of_within (hwithin.merged p.settings.conceptLimit)
  refine ⟨⟨some (found.merged p.settings.conceptLimit),
    p.graph? clock true withGraph, p.known true withGraph⟩, ?_, rfl, hprune,
    fun file hfile => hwithin.of_mem_files hfile⟩
  refine execute_eq_ok_iff.mpr ⟨hfiles, ?_, rfl, rfl⟩
  unfold Plan.index?
  rw [if_pos rfl, buildIndex_eq_ok_merged hfound]
  show Except.ok (some ((found.merged _).prune _)) = _
  rw [hprune]

/-- A Python project whose two modules show one concept, under settings that
leave room for one of them; the other one imports the first, which declares
a route, a function and a class. -/
def loginProject : Node :=
  .directory
    [("setup.py".toList, .file [] true),
     ("auth".toList, .directory
       [("login.py".toList, .file (Utf8.encode
          "@app.get(\"/in\")\ndef enter():\nclass Session:".toList) true),
        ("menu.py".toList, .file
          (Utf8.encode "import auth.login".toList) true)])]

/-- The plan for it. -/
def loginPlan : Plan :=
  freshPlan loginProject { conceptLimit := 1 } ⟨.python, .none, []⟩
    ⟨[.decorator], some .python, some .python⟩

theorem plan_loginProject :
    plan .standard loginProject (some { conceptLimit := 1 }) = .ok loginPlan :=
  plan_eq_ok_iff.mpr ⟨_, ⟨.python, .none, []⟩,
    ⟨[.decorator], some .python, some .python⟩, rfl, rfl, rfl, rfl⟩

/-- All four maps mention the first module, once each, in both runs. -/
theorem index_is_what_was_found_login :
    plan .standard loginProject (some { conceptLimit := 1 }) = .ok loginPlan
      ∧ ∃ index : CodeIndex,
        index.files = List.replicate 4 "auth/login.py".toList
        ∧ ∀ withGraph, ∃ full, execute loginPlan 0 true withGraph = .ok full
          ∧ full.index = some index ∧ index.prune full.known = index := by
  have hfiles : (execute loginPlan 0 true true).toOption.map (fun full =>
      full.index.map CodeIndex.files)
      = some (some (List.replicate 4 "auth/login.py".toList)) := by
    decide +kernel
  obtain ⟨result, hrun⟩ :
      ∃ result, execute loginPlan 0 true true = .ok result :=
    exists_execute_eq_ok_iff.mpr (by decide +kernel)
  obtain ⟨found, -, hboth⟩ := index_is_what_was_found hrun
  obtain ⟨full, hfull, hindex, -⟩ := hboth true
  rw [hfull] at hfiles
  have hnamed : full.index.map CodeIndex.files
      = some (List.replicate 4 "auth/login.py".toList) := Option.some.inj hfiles
  rw [hindex] at hnamed
  refine ⟨plan_loginProject, _, Option.some.inj hnamed, fun withGraph => ?_⟩
  obtain ⟨full, hfull, hindex, hprune, -⟩ := hboth withGraph
  exact ⟨full, hfull, hindex, hprune⟩

end Run

end SourceAtlas
