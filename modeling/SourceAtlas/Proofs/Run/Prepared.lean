/-
Extraction asks nothing that it was not prepared for. Four extractors share
one survey; preparing an extractor asks the filters of its rules, and
running it asks the same filters again. So once all of them have been
prepared, a run of any of them finds the survey as it is and leaves it as it
is, and what it finds cannot depend on who ran before it.

Two facts about one extractor carry this: what it finds is settled by the
answers of the survey, not by what else the survey remembers
(`Worker.finding_of_alike`), and it leaves a survey unchanged that was asked
all of its filters (`Worker.extract_of_asked`).
-/
import SourceAtlas.Proofs.Run.Unpruned

namespace SourceAtlas

namespace Extract

-- =========================================================== extractors

/-- The rules that the extractors are set up with; each of them may be
missing. -/
structure Setup where
  strategies : List Route.Strategy
  exportRule : Option Language
  typeRule : Option Language
  resolver : Option Import.Resolver

/-- The extractors that share a survey. -/
inductive Worker where
  | entryPoints
  | exports
  | types
  | imports
  deriving DecidableEq, Repr

/-- What an extractor finds. -/
inductive Finding where
  | entryPoints (found : EntryPointMap)
  | exports (found : ExportMap)
  | types (found : TypeMap)
  | imports (found : EdgeSet)
  deriving DecidableEq, Repr

namespace Worker

/-- The filters that preparing an extractor asks. -/
def filters (setup : Setup) : Worker → List Filter
  | entryPoints => setup.strategies.map strategyFilter
  | exports => (setup.exportRule.map exportFilter).toList
  | types => (setup.typeRule.map typeFilter).toList
  | imports => (setup.resolver.map importFilter).toList

/-- Runs an extractor: what it finds, and the survey that it leaves. -/
def extract (setup : Setup) (root : Node) (survey : Survey) :
    Worker → Except Route.PlaceError (Finding × Survey)
  | entryPoints => do
    let (found, survey) ← Extract.entryPoints root setup.strategies survey
    return (.entryPoints found, survey)
  | exports =>
    let (found, survey) := Extract.exports root setup.exportRule survey
    .ok (.exports found, survey)
  | types =>
    let (found, survey) := Extract.types root setup.typeRule survey
    .ok (.types found, survey)
  | imports =>
    let (found, survey) := Extract.edges root setup.resolver survey
    .ok (.imports found, survey)

end Worker

/-- Prepares some extractors, one after the other. -/
def prepareAll (setup : Setup) (root : Node) (workers : List Worker)
    (survey : Survey) : Survey :=
  prepare root (workers.flatMap (Worker.filters setup)) survey

/-- Runs some extractors, one after the other, each on the survey that the
one before it leaves. -/
def extractAll (setup : Setup) (root : Node) :
    List Worker → Survey → Except Route.PlaceError (List Finding × Survey)
  | [], survey => .ok ([], survey)
  | worker :: rest, survey => do
    let (found, survey) ← worker.extract setup root survey
    let (more, survey) ← extractAll setup root rest survey
    return (found :: more, survey)

-- ========================================================= one extractor

variable {setup : Setup} {root : Node} {survey other : Survey}

/-- Strategies leave a survey unchanged that was asked all their filters. -/
theorem entryPartials_of_asked {strategies : List Route.Strategy}
    (h : ∀ s ∈ strategies, strategyFilter s ∈ survey.asked) :
    entryPartials root strategies survey
      = .ok (strategies.flatMap (strategyEntries root survey), survey) := by
  induction strategies with
  | nil => rfl
  | cons s rest ih =>
      obtain ⟨hs, hrest⟩ := List.forall_mem_cons.mp h
      simp only [entryPartials, strategyPartials_eq_ok,
        Survey.enumerate_snd_of_asked hs, ih hrest]
      rfl

namespace Worker

/-- What an extractor finds on a survey. -/
def finding (setup : Setup) (root : Node) (survey : Survey) : Worker → Finding
  | entryPoints =>
    .entryPoints (mergeEntries
      (setup.strategies.flatMap (strategyEntries root survey)))
  | exports => .exports (Extract.exports root setup.exportRule survey).1
  | types => .types (Extract.types root setup.typeRule survey).1
  | imports => .imports (Extract.edges root setup.resolver survey).1

/-- An extractor never fails. -/
theorem exists_extract_eq_ok (setup : Setup) (root : Node) (survey : Survey)
    (w : Worker) :
    ∃ after, w.extract setup root survey
      = .ok (w.finding setup root survey, after) := by
  cases w with
  | entryPoints =>
      obtain ⟨after, h⟩ := exists_entryPoints_eq_ok root setup.strategies survey
      refine ⟨after, ?_⟩
      simp only [extract, h]
      rfl
  | exports => exact ⟨_, rfl⟩
  | types => exact ⟨_, rfl⟩
  | imports => exact ⟨_, rfl⟩

/-- Surveys that give the same answers lead to the same findings. -/
theorem finding_of_alike (h : Run.Alike root survey other) (w : Worker) :
    w.finding setup root survey = w.finding setup root other := by
  cases w with
  | entryPoints =>
      have hparts : strategyEntries root survey
          = strategyEntries root other := by
        funext s
        unfold strategyEntries strategyTexts
        rw [h]
      simp only [finding, hparts]
  | exports => exact congrArg Finding.exports (Run.exports_of_alike h)
  | types => exact congrArg Finding.types (Run.types_of_alike h)
  | imports =>
      obtain ⟨strategies, exportRule, typeRule, resolver⟩ := setup
      cases resolver with
      | none => rfl
      | some r =>
          simp only [finding, edges]
          rw [h]

/-- An extractor leaves a survey unchanged that was asked its filters. -/
theorem extract_of_asked {w : Worker}
    (h : ∀ filter ∈ w.filters setup, filter ∈ survey.asked) :
    w.extract setup root survey
      = .ok (w.finding setup root survey, survey) := by
  obtain ⟨strategies, exportRule, typeRule, resolver⟩ := setup
  cases w with
  | entryPoints =>
      have hasked : ∀ s ∈ strategies, strategyFilter s ∈ survey.asked :=
        fun s hs => h _ (List.mem_map.mpr ⟨s, hs, rfl⟩)
      simp only [extract, Extract.entryPoints, entryPartials_of_asked hasked]
      rfl
  | exports =>
      cases exportRule with
      | none => rfl
      | some l =>
          simp only [extract, finding, Extract.exports]
          rw [Survey.enumerate_snd_of_asked (h _ List.mem_cons_self)]
  | types =>
      cases typeRule with
      | none => rfl
      | some l =>
          simp only [extract, finding, Extract.types]
          rw [Survey.enumerate_snd_of_asked (h _ List.mem_cons_self)]
  | imports =>
      cases resolver with
      | none => rfl
      | some r =>
          simp only [extract, finding, edges]
          rw [Survey.enumerate_snd_of_asked (h _ List.mem_cons_self)]

end Worker

-- ========================================================= all extractors

/-- Preparing asks every filter of the extractors that it prepares. -/
theorem mem_asked_prepareAll {order : List Worker} {w : Worker} (hw : w ∈ order)
    {filter : Filter} (hfilter : filter ∈ w.filters setup) :
    filter ∈ (prepareAll setup root order survey).asked :=
  mem_asked_prepare.mpr (Or.inl (List.mem_flatMap.mpr ⟨w, hw, hfilter⟩))

/-- Extractors leave a survey unchanged that was asked all their filters. -/
theorem extractAll_of_asked {workers : List Worker}
    (h : ∀ w ∈ workers, ∀ filter ∈ w.filters setup, filter ∈ survey.asked) :
    extractAll setup root workers survey
      = .ok (workers.map (Worker.finding setup root survey), survey) := by
  induction workers with
  | nil => rfl
  | cons w rest ih =>
      obtain ⟨hw, hrest⟩ := List.forall_mem_cons.mp h
      refine bind_eq_ok_iff.mpr ⟨_, Worker.extract_of_asked hw, ?_⟩
      exact bind_eq_ok_iff.mpr ⟨_, ih hrest, rfl⟩

/-- Each extractor finds one thing, whoever was prepared and ran before it:
once extractors have been prepared, in any order, running them in any order
and any number of times succeeds, finds that, and leaves the survey exactly
as preparing left it, with the filters that it was asked and the paths that
it knows. -/
theorem extraction_asks_nothing_new (setup : Setup) (root : Node)
    (survey : Survey) :
    ∃ found : Worker → Finding,
      (∀ w : Worker, ∃ after,
        w.extract setup root survey = .ok (found w, after))
      ∧ ∀ order workers : List Worker, (∀ w ∈ workers, w ∈ order) →
          extractAll setup root workers (prepareAll setup root order survey)
            = .ok (workers.map found, prepareAll setup root order survey) := by
  refine ⟨Worker.finding setup root survey,
    Worker.exists_extract_eq_ok setup root survey, ?_⟩
  intro order workers hprepared
  have halike : Run.Alike root (prepareAll setup root order survey) survey :=
    fun filter => enumerate_prepare _ survey filter
  have hfound : Worker.finding setup root (prepareAll setup root order survey)
      = Worker.finding setup root survey :=
    funext (Worker.finding_of_alike halike)
  rw [← hfound]
  refine extractAll_of_asked fun w hw filter hfilter => ?_
  exact mem_asked_prepareAll (hprepared w hw) hfilter

end Extract

namespace Run

open Extract

/-- The extractors of a project: exports and types are read in one
language. -/
def setup (rules : Rules) : Setup :=
  ⟨rules.strategies, rules.language, rules.language, rules.resolver⟩

/-- A run that builds both index and graph prepares all extractors. -/
theorem prepared_eq_prepareAll (p : Plan) :
    p.prepared true true
      = prepareAll (setup p.rules) p.root
        [.entryPoints, .exports, .types, .imports] p.survey := by
  have hfilters : indexFilters p.rules ++ graphFilters p.rules
      = [Worker.entryPoints, .exports, .types, .imports].flatMap
        (Worker.filters (setup p.rules)) := by
    simp [indexFilters, graphFilters, Worker.filters, setup]
  show prepare p.root (indexFilters p.rules ++ graphFilters p.rules) p.survey
    = _
  rw [hfilters]
  rfl

/-- The one import of the project. -/
def loginEdges : EdgeSet :=
  .ofList [⟨"auth/menu.py".toList, "auth/login.py".toList⟩]

/-- Imports are found, and found again after the types, on the survey that
the run has prepared. -/
theorem extraction_asks_nothing_new_login :
    ∃ types, extractAll (setup loginPlan.rules) loginPlan.root
      [.imports, .types, .imports]
        (loginPlan.prepared true true)
      = .ok ([.imports loginEdges, types, .imports loginEdges],
        loginPlan.prepared true true) := by
  obtain ⟨found, heach, hall⟩ :=
    extraction_asks_nothing_new (setup loginPlan.rules) loginPlan.root
      loginPlan.survey
  have himports :
      (edges loginPlan.root loginPlan.rules.resolver loginPlan.survey).1
        = loginEdges := by decide +kernel
  obtain ⟨after, hfound⟩ := heach .imports
  have hsame := congrArg Prod.fst (Except.ok.inj hfound)
  have hedges : found .imports = .imports loginEdges :=
    hsame.symm.trans (congrArg Finding.imports himports)
  refine ⟨found .types, ?_⟩
  rw [prepared_eq_prepareAll, ← hedges]
  exact hall _ [.imports, .types, .imports] (by decide)

end Run

end SourceAtlas
