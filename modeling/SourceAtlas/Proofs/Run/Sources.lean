/-
What the index of a run depends on. A run looks at a few files at the root,
for settings, classification and aliases, and at the files with a supported
extension; directories matter only as the way to a file. Trees that agree in
these (`SameSources`) have the same settings, the same plan and the same index:

- `load_of_sameSources`, `plan_of_sameSources`: before anything is listed.
- `list_of_sameSources`: the two trees list the same files.
- `execute_of_sameSources`: what is extracted from them is the same.

Nothing of the kind holds of the graph, whose imports may lead to any file.

Consumed by the theory of repeated commands.
-/
import SourceAtlas.Proofs.Run.Unpruned
import SourceAtlas.Proofs.Survey.Listing
import SourceAtlas.Proofs.Tree.Kind

namespace SourceAtlas

-- =============================================================== reading

namespace Node

/-- Whether a file is there can be told from the leaf there. -/
theorem fileAt_eq_leafAt? (tree : Node) (path : List Name) :
    tree.fileAt path = (tree.leafAt? path).any isFile := by
  unfold fileAt leafAt?
  cases tree.find? path with
  | none => rfl
  | some node => cases node <;> rfl

theorem bytesAt?_eq_leafAt? (tree : Node) (path : List Name) :
    tree.bytesAt? path = (tree.leafAt? path).bind bytes? := by
  unfold bytesAt? leafAt?
  cases tree.find? path with
  | none => rfl
  | some node => cases node <;> rfl

/-- A path leads to a leaf exactly if there is one at its components. -/
theorem leafAt_iff_leafAt? (tree : Node) (p : Text) :
    tree.LeafAt p ↔ (tree.leafAt? (Path.components p)).isSome = true := by
  unfold LeafAt leafAt?
  cases tree.find? (Path.components p) with
  | none => simp
  | some node => cases hnode : node.isDirectory <;> simp [Option.filter, hnode]

end Node

/-- The files at the root that a run looks at by their names. -/
def consulted : List Name :=
  Settings.fileName :: ["package.json", "pyproject.toml", "setup.py",
    "Cargo.toml", "go.mod"].map String.toList ++ Alias.configNames

/-- Two well-formed trees that differ in nothing that an index depends on. -/
structure SameSources (before after : Node) : Prop where
  wellFormed_before : before.wellFormed = true
  wellFormed_after : after.wellFormed = true
  consulted : ∀ name ∈ consulted, after.leafAt? [name] = before.leafAt? [name]
  sources : ∀ up name, Path.extension name ∈ Language.allExtensions →
    after.leafAt? (up ++ [name]) = before.leafAt? (up ++ [name])

namespace SameSources

variable {before after : Node}

/-- Trees with the same sources have the same consulted files at the top. -/
theorem fileAt_eq (h : SameSources before after) {name : Name}
    (hname : name ∈ SourceAtlas.consulted) :
    after.fileAt [name] = before.fileAt [name] := by
  rw [Node.fileAt_eq_leafAt?, Node.fileAt_eq_leafAt?, h.consulted name hname]

theorem bytesAt?_eq (h : SameSources before after) {name : Name}
    (hname : name ∈ SourceAtlas.consulted) :
    after.bytesAt? [name] = before.bytesAt? [name] := by
  rw [Node.bytesAt?_eq_leafAt?, Node.bytesAt?_eq_leafAt?,
    h.consulted name hname]

theorem textAt?_eq (h : SameSources before after) {name : Name}
    (hname : name ∈ SourceAtlas.consulted) :
    after.textAt? [name] = before.textAt? [name] := by
  unfold Node.textAt?
  rw [h.bytesAt?_eq hname]

/-- At a path with a supported extension. -/
theorem leafAt?_components (h : SameSources before after) {p : Text}
    (hp : Path.extension (Path.base p) ∈ Language.allExtensions) :
    after.leafAt? (Path.components p) = before.leafAt? (Path.components p) := by
  obtain ⟨up, hparts⟩ := Path.exists_components_eq_concat_base p
  rw [hparts]
  exact h.sources up (Path.base p) hp

end SameSources

-- ============================================================== planning

variable {before after : Node}

/-- Settings depend on the bytes of the settings file. -/
theorem Settings.load_of_sameSources (host : Host)
    (h : SameSources before after) :
    Settings.load host after = Settings.load host before := by
  have hname : Settings.fileName ∈ consulted := by decide
  unfold Settings.load
  rw [h.bytesAt?_eq hname]

/-- The classification depends on the marker files. -/
theorem Project.detect_of_sameSources (depth : Nat)
    (h : SameSources before after) :
    Project.detect depth after = Project.detect depth before := by
  have hmarked : ∀ name : String, name.toList ∈ consulted →
      Project.marked after name = Project.marked before name :=
    fun name hname => h.fileAt_eq hname
  have htext : ∀ name : String, name.toList ∈ consulted →
      Project.markerText? after name = Project.markerText? before name :=
    fun name hname => h.textAt?_eq hname
  unfold Project.detect
  rw [hmarked "package.json" (by decide), htext "package.json" (by decide),
    hmarked "pyproject.toml" (by decide), hmarked "setup.py" (by decide),
    hmarked "Cargo.toml" (by decide), hmarked "go.mod" (by decide),
    htext "go.mod" (by decide)]

/-- Compiler options depend on the texts of the configuration files. -/
theorem Alias.firstOptions_of_sameSources (depth : Nat)
    (h : SameSources before after) {names : List Name}
    (hnames : ∀ name ∈ names, name ∈ consulted) :
    firstOptions depth after names = firstOptions depth before names := by
  induction names with
  | nil => rfl
  | cons name rest ih =>
      have htext : configText? after name = configText? before name := by
        unfold configText?
        rw [h.textAt?_eq (hnames name List.mem_cons_self)]
      have hrest := ih fun other hother =>
        hnames other (List.mem_cons_of_mem _ hother)
      simp only [firstOptions, htext, hrest]

/-- So do the rules. -/
theorem Rules.ofProject_of_sameSources (depth : Nat)
    (h : SameSources before after) (project : Project)
    (aliases : List (Text × List Text)) :
    Rules.ofProject depth project after aliases
      = Rules.ofProject depth project before aliases := by
  unfold Rules.ofProject Alias.ofProject Alias.ofConfig
  rw [Alias.firstOptions_of_sameSources depth h (by decide)]

-- =============================================================== listing

/-- The filter admits sources only. -/
def Filter.Supported (filter : Filter) : Prop :=
  ∀ name, filter.admits name = true
    → Path.extension name ∈ Language.allExtensions

/-- A filter by supported extensions lets only those through. -/
theorem Filter.supported_make {extensions : List Text}
    (h : ∀ ext ∈ extensions, ext ∈ Language.allExtensions)
    (tests declarations : Bool) :
    (Filter.make extensions tests declarations).Supported := by
  intro name hname
  exact h _ (Filter.admits_make_iff.mp hname).1

namespace Extract

/-- The files that entry points are looked for in are supported. -/
theorem supported_strategyFilter (s : Route.Strategy) :
    (strategyFilter s).Supported :=
  Filter.supported_make (fun _ => Run.mem_allExtensions) _ _

theorem supported_exportFilter (l : Language) : (exportFilter l).Supported :=
  Filter.supported_make (fun _ => Run.mem_allExtensions) _ _

theorem supported_typeFilter (l : Language) : (typeFilter l).Supported :=
  Filter.supported_make
    (fun _ hext => Run.mem_allExtensions
      (Run.mem_extensions_of_mem_typeExtensions hext)) _ _

end Extract

namespace Survey

variable {scope : Scope} {filter : Filter}

/-- A listing of supported files is the same for the same sources. -/
theorem list_of_sameSources (h : SameSources before after)
    (hfilter : filter.Supported) :
    list scope filter after = list scope filter before := by
  apply Ordered.eq_of_mem_iff (Ordered.pairwise_ofList _)
    (Ordered.pairwise_ofList _)
  intro f
  show f ∈ list scope filter after ↔ f ∈ list scope filter before
  rw [mem_list h.wellFormed_after, mem_list h.wellFormed_before]
  have hleaf : filter.admits (Path.base f.path) = true →
      (after.LeafAt f.path ↔ before.LeafAt f.path) := by
    intro hadmits
    rw [Node.leafAt_iff_leafAt?, Node.leafAt_iff_leafAt?,
      h.leafAt?_components (hfilter _ hadmits)]
  constructor
  · rintro ⟨⟨hthere, hentered, hincluded⟩, hadmits, hext⟩
    exact ⟨⟨(hleaf hadmits).mp hthere, hentered, hincluded⟩, hadmits, hext⟩
  · rintro ⟨⟨hthere, hentered, hincluded⟩, hadmits, hext⟩
    exact ⟨⟨(hleaf hadmits).mpr hthere, hentered, hincluded⟩, hadmits, hext⟩

theorem enumerate_of_sameSources (h : SameSources before after)
    (hfilter : filter.Supported) (s : Survey) :
    s.enumerate after filter = s.enumerate before filter := by
  unfold enumerate
  rw [list_of_sameSources h hfilter]

end Survey

namespace Extract

theorem prepare_of_sameSources (h : SameSources before after)
    {filters : List Filter} (hfilters : ∀ filter ∈ filters, filter.Supported)
    (s : Survey) : prepare after filters s = prepare before filters s := by
  unfold prepare
  induction filters generalizing s with
  | nil => rfl
  | cons filter rest ih =>
      rw [List.forall_mem_cons] at hfilters
      rw [List.foldl_cons, List.foldl_cons,
        Survey.enumerate_of_sameSources h hfilters.1]
      exact ih hfilters.2 _

/-- Texts of files that read the same are the same. -/
theorem texts_congr {files : List SourceFile}
    (hread : ∀ f ∈ files, f.read after = f.read before) :
    texts after files = texts before files := by
  unfold texts
  induction files with
  | nil => rfl
  | cons f rest ih =>
      rw [List.forall_mem_cons] at hread
      rw [List.filterMap_cons, List.filterMap_cons, hread.1, ih hread.2]

/-- The files that a survey lists are read alike. -/
theorem texts_of_sameSources (h : SameSources before after) {scope : Scope}
    {filter : Filter} (hfilter : filter.Supported) {files : List SourceFile}
    (hfiles : files ⊆ Survey.list scope filter before) :
    texts after files = texts before files := by
  apply texts_congr
  intro f hf
  obtain ⟨-, hadmits, -⟩ := (Survey.mem_list h.wellFormed_before).mp (hfiles hf)
  unfold SourceFile.read Node.textAt?
  rw [Node.bytesAt?_eq_leafAt?, Node.bytesAt?_eq_leafAt?,
    h.leafAt?_components (hfilter _ hadmits)]

variable {scope : Scope}

theorem strategyEntries_of_sameSources (h : SameSources before after)
    (s : Route.Strategy) :
    strategyEntries after ⟨scope, []⟩ s
      = strategyEntries before ⟨scope, []⟩ s := by
  have hfilter := supported_strategyFilter s
  unfold strategyEntries strategyTexts
  rw [Survey.enumerate_of_sameSources h hfilter, texts_of_sameSources h hfilter]
  exact fun f hf => (List.mem_filter.mp hf).1

theorem exports_of_sameSources (h : SameSources before after)
    (language : Option Language) :
    exports after language ⟨scope, []⟩
      = exports before language ⟨scope, []⟩ := by
  cases language with
  | none => rfl
  | some l =>
      have hfilter := supported_exportFilter l
      simp only [exports]
      rw [Survey.enumerate_of_sameSources h hfilter,
        texts_of_sameSources h hfilter]
      exact fun f hf => hf

theorem types_of_sameSources (h : SameSources before after)
    (language : Option Language) :
    types after language ⟨scope, []⟩ = types before language ⟨scope, []⟩ := by
  cases language with
  | none => rfl
  | some l =>
      have hfilter := supported_typeFilter l
      simp only [types]
      rw [Survey.enumerate_of_sameSources h hfilter,
        texts_of_sameSources h hfilter]
      exact fun f hf => hf

end Extract

-- =============================================================== running

namespace Run

/-- All filters of the index are supported. -/
theorem supported_of_mem_indexFilters {rules : Rules} {filter : Filter}
    (h : filter ∈ indexFilters rules) : filter.Supported := by
  rcases mem_indexFilters.mp h with ⟨s, -, rfl⟩ | ⟨l, -, rfl | rfl⟩
  · exact Extract.supported_strategyFilter s
  · exact Extract.supported_exportFilter l
  · exact Extract.supported_typeFilter l

variable {s : Settings} {project : Project} {rules : Rules} {clock : Int}

/-- The files of concepts are the same for the same sources. -/
theorem enumerate_conceptFilter (h : SameSources before after)
    (survey : Survey) :
    survey.enumerate after conceptFilter
      = survey.enumerate before conceptFilter :=
  Survey.enumerate_of_sameSources h
    (Filter.supported_make (fun _ hext => hext) _ _) survey

/-- Each extractor finds the same. -/
theorem finds_of_sameSources (h : SameSources before after) {found : CodeIndex}
    (hfound : (freshPlan before s project rules).Finds clock found) :
    (freshPlan after s project rules).Finds clock found := by
  obtain ⟨hproject, hclock, hconcepts, ⟨left, hentries⟩, hexports, htypes⟩ :=
    hfound
  refine ⟨hproject, hclock, ?_, ?_, ?_, ?_⟩
  · rw [hconcepts]
    unfold Plan.conceptFiles
    exact congrArg (fun listed : List SourceFile × Survey =>
      Concept.extract s.conceptLimit (listed.1.map (·.path)))
        (enumerate_conceptFilter h _).symm
  -- Extraction of entry points can fail as far as its type says; on either tree
  -- it does not.
  · obtain ⟨left', hafter⟩ :=
      Extract.exists_entryPoints_eq_ok after rules.strategies
        (freshPlan before s project rules).survey
    obtain ⟨left'', hbefore⟩ :=
      Extract.exists_entryPoints_eq_ok before rules.strategies
        (freshPlan before s project rules).survey
    have hsame :
        Extract.strategyEntries after (freshPlan before s project rules).survey
          = Extract.strategyEntries before
            (freshPlan before s project rules).survey := by
      funext strategy
      exact Extract.strategyEntries_of_sameSources h strategy
    have hfound := hentries.symm.trans hbefore
    injection hfound with hfound
    rw [(Prod.mk.inj hfound).1, ← hsame]
    exact ⟨left', hafter⟩
  · rw [hexports]
    exact congrArg Prod.fst
      (Extract.exports_of_sameSources h rules.language).symm
  · rw [htypes]
    exact congrArg Prod.fst (Extract.types_of_sameSources h rules.language).symm

theorem known_of_sameSources (h : SameSources before after) :
    (freshPlan after s project rules).known true false
      = (freshPlan before s project rules).known true false := by
  have hfilters :
      ∀ filter ∈ (freshPlan before s project rules).filters true false,
        filter.Supported := by
    intro filter hfilter
    rcases List.mem_append.1 hfilter with hfilter | hfilter
    · exact supported_of_mem_indexFilters hfilter
    · cases hfilter
  have hprepared : (freshPlan after s project rules).prepared true false
      = (freshPlan before s project rules).prepared true false :=
    Extract.prepare_of_sameSources h hfilters _
  have hconcepts : (freshPlan after s project rules).conceptSurvey.enumerate
        (freshPlan after s project rules).root conceptFilter
      = (freshPlan before s project rules).conceptSurvey.enumerate
        (freshPlan before s project rules).root conceptFilter :=
    enumerate_conceptFilter h _
  unfold Plan.known
  rw [hconcepts, hprepared]

/-- Trees that agree in their sources have the same index. -/
theorem execute_of_sameSources (h : SameSources before after) :
    execute (freshPlan after s project rules) clock true false
      = execute (freshPlan before s project rules) clock true false := by
  obtain ⟨found, hfound⟩ :=
    exists_finds (freshPlan before s project rules) clock
  have hconcepts : (freshPlan after s project rules).conceptFiles
      = (freshPlan before s project rules).conceptFiles :=
    congrArg Prod.fst (enumerate_conceptFilter h _)
  have hindex : (freshPlan after s project rules).index? clock true false
      = (freshPlan before s project rules).index? clock true false := by
    unfold Plan.index?
    rw [if_pos rfl, if_pos rfl, buildIndex_eq_ok_merged hfound,
      buildIndex_eq_ok_merged (finds_of_sameSources h hfound),
      known_of_sameSources h]
    rfl
  rw [execute_eq, execute_eq, hconcepts, hindex, known_of_sameSources h]
  rfl

/-- Planning succeeds alike. -/
theorem plan_of_sameSources {host : Host} (h : SameSources before after)
    {p : Plan} (hplan : plan host before (some s) = .ok p) :
    ∃ project rules, p = freshPlan before s project rules
      ∧ plan host after (some s) = .ok (freshPlan after s project rules) := by
  obtain ⟨project, rules, hproject, hrules, hp⟩ := plan_some_eq_ok_iff.mp hplan
  refine ⟨project, rules, hp,
    plan_some_eq_ok_iff.mpr ⟨project, rules, ?_, ?_, rfl⟩⟩
  · rw [Project.detect_of_sameSources _ h, hproject]
  · rw [Rules.ofProject_of_sameSources _ h, hrules]

end Run

end SourceAtlas
