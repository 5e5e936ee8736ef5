/-
When a run is given up for want of sources. It looks for them with the survey
of the concepts, which does not enter the directories that any profile skips.
The survey of the profile enters those that only other profiles skip, and lists
what extraction would read there. So a run is rejected if all its sources lie
below such directories, and not only if it has none.

- `mem_conceptFiles_iff`: what the first survey lists of the second one's files.
- `rejected_iff_sources_below`: exactly which runs are given up.
-/
import SourceAtlas.Proofs.Run.GraphAlone

namespace SourceAtlas.Run

variable {host : Host} {root : Node} {settings : Option Settings}
  {profile : Profile} {exclude : List Text} {outputDir q : Text} {p : Plan}
  {clock : Int} {wantIndex wantGraph : Bool}

-- ============================================================== sources

/-- The sources of a plan: what the survey of its profile lists, of all
supported extensions. -/
def Plan.sources (p : Plan) : List SourceFile :=
  (p.survey.enumerate p.root conceptFilter).1

/-- Whether a directory above the last of a path's components has a name
that some profile skips, other than the given one. -/
def BelowOthers (profile : Profile) (q : Text) : Prop :=
  ∃ up name, Path.Above (Path.components q) up name
    ∧ ∃ other : Profile, other ≠ profile ∧ name ∈ other.skips.map String.toList

/-- A path that a profile reaches has no directory above it that the profile
skips itself. -/
theorem belowSkipped_iff_of_reaches
    (h : (Scope.ofProfile profile exclude outputDir).Reaches root q) :
    BelowSkipped q ↔ BelowOthers profile q := by
  unfold Scope.ofProfile at h
  rw [List.map_append, Scope.reaches_make_append_iff] at h
  constructor
  · intro hbelow
    obtain ⟨up, name, habove, other, hskip⟩ := hbelow
    refine ⟨up, name, habove, other, fun hsame => ?_, hskip⟩
    rw [hsame] at hskip
    exact h.2 up name habove hskip
  · intro hbelow
    obtain ⟨up, name, habove, other, -, hskip⟩ := hbelow
    exact ⟨up, name, habove, other, hskip⟩

/-- The search for concepts lists the sources that do not lie below a directory
of another profile. -/
theorem mem_conceptFiles_iff (hwf : root.wellFormed = true)
    (hplan : plan host root settings = .ok p) (f : SourceFile) :
    f ∈ p.conceptFiles ↔ f ∈ p.sources
      ∧ ¬ BelowOthers p.project.profile f.path := by
  obtain ⟨s, project, rules, -, -, -, rfl⟩ := plan_eq_ok_iff.mp hplan
  have hlist (scope : Scope) :
      (Survey.enumerate ⟨scope, []⟩ root conceptFilter).1
        = Survey.list scope conceptFilter root :=
    Survey.enumerate_fst (Survey.faithful_new root scope)
  have hconcepts : (freshPlan root s project rules).conceptFiles
      = Survey.list (.ofConcepts s.exclude s.outputDir) conceptFilter root :=
    hlist _
  have hsources : (freshPlan root s project rules).sources
      = Survey.list (.ofProfile project.profile s.exclude s.outputDir)
        conceptFilter root := hlist _
  rw [hconcepts, hsources, Survey.mem_list hwf, Survey.mem_list hwf,
    reaches_ofConcepts_iff project.profile, and_right_comm]
  refine and_congr_right fun hlisted => ?_
  rw [belowSkipped_iff_of_reaches hlisted.1]
  rfl

/-- A run is given up if the search for concepts lists nothing. -/
theorem execute_eq_noSources_iff :
    execute p clock wantIndex wantGraph = .error .noSources
      ↔ p.conceptFiles = [] := by
  constructor
  · intro herror
    refine Classical.byContradiction fun hfiles => ?_
    obtain ⟨result, hrun⟩ := exists_execute_eq_ok_iff.mpr hfiles
    cases hrun.symm.trans herror
  · intro hfiles
    rw [execute_eq, hfiles]
    rfl

-- =========================================================== the theorem

/-- A run is given up for want of sources if each of its sources lies below a
directory that another profile skips, and gives a result otherwise. So it is
given up exactly if neither survey lists a source, unless there are sources
and all of them lie there. -/
theorem rejected_iff_sources_below (hwf : root.wellFormed = true)
    (hplan : plan host root settings = .ok p) (clock : Int)
    (wantIndex wantGraph : Bool) :
    (execute p clock wantIndex wantGraph = .error .noSources ↔
        ∀ f ∈ p.sources, BelowOthers p.project.profile f.path)
      ∧ ((∃ result, execute p clock wantIndex wantGraph = .ok result) ↔
          ∃ f ∈ p.sources, ¬ BelowOthers p.project.profile f.path)
      ∧ ((execute p clock wantIndex wantGraph = .error .noSources ↔
            p.sources = [] ∧ p.conceptFiles = []) ↔
          p.sources = [] ∨ ∃ f ∈ p.sources,
            ¬ BelowOthers p.project.profile f.path) := by
  have hfiles := mem_conceptFiles_iff hwf hplan
  have hnone : p.conceptFiles = []
      ↔ ∀ f ∈ p.sources, BelowOthers p.project.profile f.path := by
    rw [List.eq_nil_iff_forall_not_mem]
    refine forall_congr' fun f => ?_
    rw [hfiles, not_and, Classical.not_not]
  -- The second and third parts are the first one negated.
  have hsome : p.conceptFiles ≠ []
      ↔ ∃ f ∈ p.sources, ¬ BelowOthers p.project.profile f.path := by
    rw [Ne, hnone, Classical.not_forall]
    exact exists_congr fun f => Classical.not_imp
  refine ⟨execute_eq_noSources_iff.trans hnone,
    exists_execute_eq_ok_iff.trans hsome, ?_⟩
  rw [execute_eq_noSources_iff, ← hsome]
  constructor
  · intro hclaim
    by_cases hnil : p.conceptFiles = []
    · exact .inl (hclaim.mp hnil).1
    · exact .inr hnil
  · intro hcases
    rcases hcases with hsources | hconcepts
    · exact (and_iff_right hsources).symm
    · exact iff_of_false hconcepts fun h => hconcepts h.2

/-- A Python project whose only module lies below a directory that Node
projects skip. -/
def outputModule : Node :=
  .directory [("pyproject.toml".toList, .file [] true),
    ("out".toList, .directory [("app.py".toList, .file [] true)])]

/-- The plan for it under default settings. -/
def outputModulePlan : Plan :=
  freshPlan outputModule {} ⟨.python, .none, []⟩
    ⟨[.decorator], some .python, some .python⟩

theorem plan_outputModule :
    plan .standard outputModule (some {}) = .ok outputModulePlan :=
  plan_eq_ok_iff.mpr ⟨{}, ⟨.python, .none, []⟩,
    ⟨[.decorator], some .python, some .python⟩, rfl, rfl, rfl, rfl⟩

theorem sources_outputModule :
    outputModulePlan.sources = [⟨"out/app.py".toList, ".py".toList⟩] := by
  decide +kernel

/-- The module is a source, which the extraction of exports would read, and the
run is given up all the same. -/
theorem rejected_iff_sources_below_outputModule :
    outputModulePlan.sources = [⟨"out/app.py".toList, ".py".toList⟩]
      ∧ (outputModulePlan.survey.enumerate outputModule
        (Extract.exportFilter .python)).1
        = outputModulePlan.sources
      ∧ execute outputModulePlan 0 true true = .error .noSources := by
  have hwf : outputModule.wellFormed = true := by decide
  obtain ⟨hrejected, -, -⟩ :=
    rejected_iff_sources_below hwf plan_outputModule 0 true true
  refine ⟨sources_outputModule, by decide +kernel, hrejected.mpr fun f hf => ?_⟩
  rw [sources_outputModule] at hf
  rw [List.mem_singleton.mp hf]
  exact ⟨[], "out".toList, ⟨["app.py".toList], List.cons_ne_nil _ _, rfl⟩,
    .node, by decide, by decide⟩

/-- So a run is also given up where the survey of the profile lists a source. -/
theorem rejected_iff_no_sources_fails :
    ¬ ∀ (host : Host) (root : Node) (settings : Option Settings) (p : Plan)
        (clock : Int) (wantIndex wantGraph : Bool),
      root.wellFormed = true → plan host root settings = .ok p →
      (execute p clock wantIndex wantGraph = .error .noSources ↔
        p.sources = [] ∧ p.conceptFiles = []) := by
  intro h
  have hnone : outputModulePlan.conceptFiles = [] := by decide +kernel
  have hclaim :=
    h .standard outputModule (some {}) outputModulePlan 0 true true (by decide)
      plan_outputModule
  have hsources := (hclaim.mp (execute_eq_noSources_iff.mpr hnone)).1
  rw [sources_outputModule] at hsources
  cases hsources

end SourceAtlas.Run
