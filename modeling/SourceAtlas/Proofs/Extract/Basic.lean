/-
Extraction around its survey: preparing asks filters one after the other, so
it keeps the survey faithful and leaves exactly those filters asked; reading
gives the texts of the files that can be opened; and finding entry points
never fails, because a strategy scans only files that it accepts and their
place declares a route.

Consumed by the theories of collisions, of import extraction, of routing
directories and of the run.
-/
import SourceAtlas.Extract
import SourceAtlas.Proofs.Except
import SourceAtlas.Proofs.Survey

namespace SourceAtlas

-- ================================================================ places

namespace Route

/-- A file that is accepted has a place that declares a route. -/
theorem Strategy.exists_scan_eq_ok {s : Strategy} {f : SourceFile}
    (h : s.accepts f = true) (text : Text) :
    ∃ found, s.scan f text = .ok found := by
  cases s with
  | appDirectory =>
      obtain ⟨-, hdir⟩ := Bool.and_eq_true_iff.mp h
      have hsegments : ∃ segments, appSegments f = .ok segments := by
        unfold appSegments
        split
        · exact ⟨_, rfl⟩
        · next hapi =>
          rcases Bool.or_eq_true_iff.mp hdir with hd | hd
          · exact absurd hd hapi
          · rw [if_pos hd]
            exact ⟨_, rfl⟩
      obtain ⟨segments, hs⟩ := hsegments
      simp only [scan, scanApp, hs]
      exact ⟨_, rfl⟩
  | pagesDirectory =>
      have hcut : (Text.cut? pagesMark ('/' :: f.path)).isSome = true := h
      obtain ⟨cut, hc⟩ := Option.isSome_iff_exists.mp hcut
      simp only [scan, scanPages, pagesSegments, hc]
      exact ⟨_, rfl⟩
  | call => exact ⟨_, rfl⟩
  | decorator => exact ⟨_, rfl⟩
  | goCall => exact ⟨_, rfl⟩

/-- The entry points of a file; those of a file whose place declares no route
are none. -/
def Strategy.entries (s : Strategy) (f : SourceFile) (text : Text) :
    List EntryPoint :=
  match s.scan f text with
  | .ok found => found
  | .error _ => []

/-- An accepted file is scanned for its entry points. -/
theorem Strategy.scan_eq_ok {s : Strategy} {f : SourceFile}
    (h : s.accepts f = true) (text : Text) :
    s.scan f text = .ok (s.entries f text) := by
  obtain ⟨found, hfound⟩ := exists_scan_eq_ok h text
  unfold entries
  rw [hfound]

end Route

namespace Extract

variable {root : Node}

-- ============================================================= preparing

/-- Preparing does not change the scope. -/
theorem prepare_scope (filters : List Filter) (s : Survey) :
    (prepare root filters s).scope = s.scope := by
  unfold prepare
  induction filters generalizing s with
  | nil => rfl
  | cons filter rest ih => rw [List.foldl_cons, ih, Survey.enumerate_scope]

/-- Preparing keeps the answers faithful. -/
theorem faithful_prepare {filters : List Filter} {s : Survey}
    (h : s.Faithful root) : (prepare root filters s).Faithful root := by
  unfold prepare
  induction filters generalizing s with
  | nil => exact h
  | cons filter rest ih =>
      rw [List.foldl_cons]
      exact ih (Survey.faithful_enumerate h)

/-- Afterwards the given filters have been asked, and nothing else that had
not. -/
theorem mem_asked_prepare {filters : List Filter} {s : Survey}
    {filter : Filter} :
    filter ∈ (prepare root filters s).asked
      ↔ filter ∈ filters ∨ filter ∈ s.asked := by
  unfold prepare
  induction filters generalizing s with
  | nil => simp
  | cons first rest ih =>
      rw [List.foldl_cons, ih, Survey.mem_asked_enumerate, List.mem_cons,
        or_left_comm, or_assoc]

/-- Preparing does not change any answer. -/
theorem enumerate_prepare (filters : List Filter) (s : Survey)
    (filter : Filter) :
    ((prepare root filters s).enumerate root filter).1
      = (s.enumerate root filter).1 := by
  unfold prepare
  induction filters generalizing s with
  | nil => rfl
  | cons first rest ih => rw [List.foldl_cons, ih, Survey.enumerate_enumerate]

-- =============================================================== reading

/-- The texts of some files are those of the files that can be opened. -/
theorem mem_texts {files : List SourceFile} {f : SourceFile} {text : Text} :
    (f, text) ∈ texts root files ↔ f ∈ files ∧ f.read root = some text := by
  unfold texts
  rw [List.mem_filterMap]
  constructor
  · intro h
    obtain ⟨g, hg, h⟩ := h
    obtain ⟨t, ht, heq⟩ := Option.map_eq_some_iff.mp h
    rw [Prod.mk.injEq] at heq
    obtain ⟨rfl, rfl⟩ := heq
    exact ⟨hg, ht⟩
  · intro h
    obtain ⟨hf, hread⟩ := h
    exact ⟨f, hf, by rw [hread]; rfl⟩

-- ========================================================== entry points

/-- The files of a strategy with their texts: listed, accepted, and open. -/
def strategyTexts (root : Node) (survey : Survey) (s : Route.Strategy) :
    List (SourceFile × Text) :=
  texts root ((survey.enumerate root (strategyFilter s)).1.filter (s.accepts ·))

/-- The entry points of each file of a strategy. -/
def strategyEntries (root : Node) (survey : Survey) (s : Route.Strategy) :
    List (SourceFile × EntryPointMap) :=
  (strategyTexts root survey s).map fun item =>
    (item.1, .ofList (s.entries item.1 item.2))

/-- One strategy finds its entry points. -/
theorem strategyPartials_eq_ok (root : Node) (survey : Survey)
    (s : Route.Strategy) :
    strategyPartials root (survey.enumerate root (strategyFilter s)).1 s
      = .ok (strategyEntries root survey s) := by
  unfold strategyPartials
  refine mapM_eq_ok fun item hitem => ?_
  obtain ⟨f, text⟩ := item
  obtain ⟨hf, -⟩ := mem_texts.mp hitem
  have hscan := Route.Strategy.scan_eq_ok (List.mem_filter.mp hf).2 text
  simp only [hscan]
  rfl

/-- Some strategies find their entry points, one after the other. What the
survey remembers from one of them does not change the others. -/
theorem exists_entryPartials_eq_ok (root : Node)
    (strategies : List Route.Strategy) (survey : Survey) :
    ∃ after, entryPartials root strategies survey
      = .ok (strategies.flatMap (strategyEntries root survey), after) := by
  induction strategies generalizing survey with
  | nil => exact ⟨survey, rfl⟩
  | cons s rest ih =>
      obtain ⟨after, hrest⟩ := ih (survey.enumerate root (strategyFilter s)).2
      have hsame :
          strategyEntries root (survey.enumerate root (strategyFilter s)).2
            = strategyEntries root survey := by
        funext other
        unfold strategyEntries strategyTexts
        rw [Survey.enumerate_enumerate]
      rw [hsame] at hrest
      refine ⟨after, ?_⟩
      simp only [entryPartials, strategyPartials_eq_ok, hrest]
      rfl

/-- Nor does what the survey remembers change any later answer. -/
theorem enumerate_entryPartials {strategies : List Route.Strategy}
    {survey after : Survey} {partials : List (SourceFile × EntryPointMap)}
    (h : entryPartials root strategies survey = .ok (partials, after))
    (filter : Filter) :
    (after.enumerate root filter).1 = (survey.enumerate root filter).1 := by
  induction strategies generalizing survey partials with
  | nil =>
      cases h
      rfl
  | cons s rest ih =>
      obtain ⟨left, hrest⟩ :=
        exists_entryPartials_eq_ok root rest
          (survey.enumerate root (strategyFilter s)).2
      simp only [entryPartials, strategyPartials_eq_ok, hrest] at h
      cases h
      rw [ih hrest, Survey.enumerate_enumerate]

/-- Finding entry points never fails. -/
theorem exists_entryPoints_eq_ok (root : Node)
    (strategies : List Route.Strategy) (survey : Survey) :
    ∃ after, entryPoints root strategies survey
      = .ok (mergeEntries (strategies.flatMap (strategyEntries root survey)),
        after) := by
  obtain ⟨after, h⟩ := exists_entryPartials_eq_ok root strategies survey
  refine ⟨after, ?_⟩
  simp only [entryPoints, h]
  rfl

/-- The survey that is left gives the same answers as before. -/
theorem enumerate_entryPoints {strategies : List Route.Strategy}
    {survey after : Survey} {found : EntryPointMap}
    (h : entryPoints root strategies survey = .ok (found, after))
    (filter : Filter) :
    (after.enumerate root filter).1 = (survey.enumerate root filter).1 := by
  obtain ⟨left, hpartials⟩ := exists_entryPartials_eq_ok root strategies survey
  simp only [entryPoints, hpartials] at h
  cases h
  exact enumerate_entryPartials hpartials filter

end Extract

end SourceAtlas
