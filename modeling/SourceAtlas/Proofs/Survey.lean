/-
What a survey lists, read off the tree: a path is listed for a filter if it
leads to an entry that is no directory, no glob excludes it, every directory
above it is entered, and the filter admits its base name. The scope decides
the first three and the filter the last, which is why they are kept apart
(`Scope.Reaches`, `Filter.admits`).

A survey remembers its answers. `Faithful` says that every answer is what a
new walk would list; asking keeps that, so the memory never shows in an
answer, only in the set of all paths listed so far.

Consumed by the theories of extraction and of the run.
-/
import SourceAtlas.Survey
import SourceAtlas.Proofs.Ordered
import SourceAtlas.Proofs.Tree.Walk

namespace SourceAtlas

-- =============================================================== scopes

/-- The search for concepts skips what any profile skips. -/
theorem Profile.mem_skips_all {name : Text} :
    name ∈ (Profile.all.flatMap Profile.skips).map String.toList ↔
      ∃ profile : Profile, name ∈ profile.skips.map String.toList := by
  rw [List.map_flatMap, List.mem_flatMap]
  constructor
  · intro h
    obtain ⟨profile, -, h⟩ := h
    exact ⟨profile, h⟩
  · intro h
    obtain ⟨profile, h⟩ := h
    exact ⟨profile, by cases profile <;> decide, h⟩

namespace Scope

variable {skips exclude : List Text} {outputDir : Text}

/-- The names that a scope skips. -/
theorem mem_skips_make {name : Text} :
    name ∈ (make skips exclude outputDir).skips
      ↔ name = ".git".toList ∨ name ∈ skips := by
  simp [make]

/-- No glob matches a text that is not excluded. -/
theorem excludes_make_eq_false_iff {t : Text} :
    (make skips exclude outputDir).excludes t = false
      ↔ ∀ glob ∈ exclude, Glob.accepts glob t = false := by
  simp [make, excludes]

/-- When a directory is entered. -/
theorem enters_make_iff {path : Text} {name : Name} :
    (make skips exclude outputDir).enters path name = true ↔
      name ≠ ".git".toList ∧ name ∉ skips
        ∧ (Text.trimBoth (· == '/') outputDir = []
          ∨ path ≠ Text.trimBoth (· == '/') outputDir)
        ∧ Glob.accepts "*.egg-info".toList name = false
        ∧ (∀ glob ∈ exclude, Glob.accepts glob path = false)
        ∧ ∀ glob ∈ exclude, Glob.accepts glob name = false := by
  have hskips : (make skips exclude outputDir).skips.contains name = false
      ↔ name ≠ ".git".toList ∧ name ∉ skips := by
    rw [List.contains_eq_mem, decide_eq_false_iff_not, mem_skips_make, not_or]
  have hout : (!(make skips exclude outputDir).outputDir.isEmpty
        && path == (make skips exclude outputDir).outputDir) = false
      ↔ Text.trimBoth (· == '/') outputDir = []
        ∨ path ≠ Text.trimBoth (· == '/') outputDir := by
    rw [Bool.and_eq_false_iff, Bool.not_eq_false', List.isEmpty_iff,
      beq_eq_false_iff_ne]
    rfl
  unfold enters
  rw [Bool.not_eq_true', Bool.or_eq_false_iff, Bool.or_eq_false_iff,
    Bool.or_eq_false_iff, Bool.or_eq_false_iff, hskips, hout,
    excludes_make_eq_false_iff, excludes_make_eq_false_iff]
  simp only [and_assoc]

/-- What a survey of a scope can list at all: entries that are no
directories, not excluded, behind directories that are entered. -/
structure Reaches (scope : Scope) (root : Node) (p : Text) : Prop where
  leaf : root.LeafAt p
  entered : Node.Entered scope.enters [] (Path.components p)
  included : scope.excludes p = false

/-- A scope that skips more names reaches what has none of them above it. -/
theorem reaches_make_append_iff {more : List Text} {root : Node} {p : Text} :
    (make (skips ++ more) exclude outputDir).Reaches root p ↔
      (make skips exclude outputDir).Reaches root p
        ∧ ∀ up name, Path.Above (Path.components p) up name → name ∉ more := by
  -- What is reached is told directory by directory, and so is the difference.
  have henters :
      ∀ path name, (make (skips ++ more) exclude outputDir).enters path name
        = true ↔ (make skips exclude outputDir).enters path name = true
        ∧ name ∉ more := by
    intro path name
    rw [enters_make_iff, enters_make_iff, List.mem_append, not_or]
    constructor
    · intro h
      obtain ⟨hgit, ⟨hskips, hmore⟩, hrest⟩ := h
      exact ⟨⟨hgit, hskips, hrest⟩, hmore⟩
    · intro h
      obtain ⟨⟨hgit, hskips, hrest⟩, hmore⟩ := h
      exact ⟨hgit, ⟨hskips, hmore⟩, hrest⟩
  constructor
  · intro h
    obtain ⟨hleaf, hentered, hincl⟩ := h
    refine ⟨⟨hleaf, ?_, hincl⟩, ?_⟩
    · intro up name habove
      exact ((henters _ _).mp (hentered up name habove)).1
    · intro up name habove
      exact ((henters _ _).mp (hentered up name habove)).2
  · intro h
    obtain ⟨⟨hleaf, hentered, hincl⟩, hmore⟩ := h
    refine ⟨hleaf, ?_, hincl⟩
    intro up name habove
    exact (henters _ _).mpr ⟨hentered up name habove, hmore up name habove⟩

end Scope

-- ============================================================== filters

/-- What a filter of some extensions admits. -/
theorem Filter.admits_make_iff {extensions : List Text}
    {tests declarations : Bool} {name : Name} :
    (Filter.make extensions tests declarations).admits name = true ↔
      Path.extension name ∈ extensions
        ∧ (tests = true → isTestFile name = false)
        ∧ (declarations = true → ".d.ts".toList.isSuffixOf name = false) := by
  unfold admits make
  rw [Bool.and_eq_true, Bool.and_eq_true, and_assoc]
  cases tests <;> cases declarations <;> simp

-- ============================================================= listings

namespace Survey

variable {root : Node} {scope : Scope} {filter : Filter}

/-- The files that a survey lists. -/
theorem mem_list {f : SourceFile} (hwf : root.wellFormed = true) :
    f ∈ list scope filter root ↔
      scope.Reaches root f.path ∧ filter.admits (Path.base f.path) = true
        ∧ f.extension = Path.extension (Path.base f.path) := by
  unfold list
  rw [Ordered.mem_ofList, List.mem_map]
  constructor
  · intro h
    obtain ⟨path, hpath, rfl⟩ := h
    obtain ⟨hwalk, hkeep⟩ := List.mem_filter.mp hpath
    obtain ⟨hleaf, hentered⟩ := (Node.mem_walk hwf).mp hwalk
    obtain ⟨hpass, hincl⟩ := Bool.and_eq_true_iff.mp hkeep
    exact ⟨⟨hleaf, hentered, by simpa using hincl⟩, hpass, rfl⟩
  · intro h
    obtain ⟨⟨hleaf, hentered, hincl⟩, hpass, hext⟩ := h
    refine ⟨f.path, List.mem_filter.mpr
      ⟨(Node.mem_walk hwf).mpr ⟨hleaf, hentered⟩, ?_⟩, ?_⟩
    · rw [hpass, hincl]
      rfl
    · rw [← hext]

/-- The paths that a survey lists. -/
theorem path_mem_list {p : Text} (hwf : root.wellFormed = true) :
    (∃ f ∈ list scope filter root, f.path = p) ↔
      scope.Reaches root p ∧ filter.admits (Path.base p) = true := by
  constructor
  · intro h
    obtain ⟨f, hf, rfl⟩ := h
    obtain ⟨hreach, hpass, -⟩ := (mem_list hwf).mp hf
    exact ⟨hreach, hpass⟩
  · intro h
    obtain ⟨hreach, hpass⟩ := h
    exact ⟨⟨p, Path.extension (Path.base p)⟩,
      (mem_list hwf).mpr ⟨hreach, hpass, rfl⟩, rfl⟩

-- =============================================================== memory

/-- The filters that a survey has answered. -/
def asked (s : Survey) : List Filter := s.answers.map (·.1)

/-- Every answer is what a walk over the tree lists. -/
def Faithful (root : Node) (s : Survey) : Prop :=
  ∀ answer ∈ s.answers, answer.2 = list s.scope answer.1 root

/-- A survey that was never asked. -/
theorem faithful_new (root : Node) (scope : Scope) :
    Faithful root ⟨scope, []⟩ := by
  intro answer h
  cases h

/-- What asking does: an answer that is there is given again, a new one is
made and remembered. -/
theorem enumerate_cases (s : Survey) (root : Node) (filter : Filter) :
    (∃ files, (filter, files) ∈ s.answers
      ∧ s.enumerate root filter = (files, s))
      ∨ filter ∉ s.asked
        ∧ s.enumerate root filter = (list s.scope filter root,
          { s with answers := s.answers
            ++ [(filter, list s.scope filter root)] }) := by
  unfold enumerate
  cases h : s.answers.lookup filter with
  | some files =>
      obtain ⟨before, after, hs, -⟩ := List.lookup_eq_some_iff.mp h
      refine Or.inl ⟨files, ?_, rfl⟩
      rw [hs]
      simp
  | none =>
      refine Or.inr ⟨fun hasked => ?_, rfl⟩
      obtain ⟨answer, hmem, rfl⟩ := List.mem_map.mp hasked
      simpa using List.lookup_eq_none_iff.mp h answer hmem

/-- A faithful survey answers what a walk lists. -/
theorem enumerate_fst {s : Survey} (h : s.Faithful root) :
    (s.enumerate root filter).1 = list s.scope filter root := by
  rcases enumerate_cases s root filter with ⟨files, hmem, he⟩ | ⟨-, he⟩
  · rw [he]
    exact h _ hmem
  · rw [he]

/-- Asking does not change the scope. -/
theorem enumerate_scope (s : Survey) :
    (s.enumerate root filter).2.scope = s.scope := by
  rcases enumerate_cases s root filter with ⟨files, -, he⟩ | ⟨-, he⟩
  all_goals rw [he]

/-- Asking one filter does not change the answer to another one. -/
theorem enumerate_enumerate (s : Survey) (root : Node) (first filter : Filter) :
    ((s.enumerate root first).2.enumerate root filter).1
      = (s.enumerate root filter).1 := by
  rcases enumerate_cases s root first with ⟨files, -, he⟩ | ⟨-, he⟩
  · rw [he]
  · rw [he]
    unfold enumerate
    rw [List.lookup_append]
    cases s.answers.lookup filter with
    | some files => rfl
    | none =>
        rw [Option.none_or, List.lookup_cons, List.lookup_nil]
        by_cases hf : filter = first
        · rw [hf, beq_self_eq_true]
        · rw [beq_eq_false_iff_ne.mpr hf]

/-- Asking keeps the answers faithful. -/
theorem faithful_enumerate {s : Survey} (h : s.Faithful root) :
    (s.enumerate root filter).2.Faithful root := by
  rcases enumerate_cases s root filter with ⟨files, -, he⟩ | ⟨-, he⟩
  · rw [he]
    exact h
  · rw [he]
    intro answer hmem
    rcases List.mem_append.1 hmem with hmem | hmem
    · exact h answer hmem
    · rw [List.mem_singleton.1 hmem]

/-- Afterwards the filter has been asked, and nothing else that had not. -/
theorem mem_asked_enumerate {s : Survey} {other : Filter} :
    other ∈ (s.enumerate root filter).2.asked
      ↔ other = filter ∨ other ∈ s.asked := by
  rcases enumerate_cases s root filter with ⟨files, hmem, he⟩ | ⟨-, he⟩
  · rw [he]
    have hasked : filter ∈ s.asked := List.mem_map.mpr ⟨_, hmem, rfl⟩
    constructor
    · exact Or.inr
    · intro h
      rcases h with rfl | h
      · exact hasked
      · exact h
  · rw [he]
    simp only [asked, List.map_append, List.mem_append, List.map_cons,
      List.map_nil, List.mem_singleton]
    exact or_comm

/-- Asking once more what was asked before changes nothing. -/
theorem enumerate_snd_of_asked {s : Survey} (h : filter ∈ s.asked) :
    (s.enumerate root filter).2 = s := by
  rcases enumerate_cases s root filter with ⟨files, -, he⟩ | ⟨hnew, -⟩
  · rw [he]
  · exact absurd h hnew

/-- What is answered to a filter that was asked before is among the paths of
all answers. -/
theorem path_mem_allPaths {s : Survey} {f : SourceFile}
    (hasked : filter ∈ s.asked) (hf : f ∈ (s.enumerate root filter).1) :
    f.path ∈ s.allPaths := by
  rcases enumerate_cases s root filter with ⟨files, hmem, he⟩ | ⟨hnew, -⟩
  · rw [he] at hf
    unfold allPaths
    rw [Ordered.mem_ofList, List.mem_flatMap]
    exact ⟨(filter, files), hmem, List.mem_map.mpr ⟨f, hf, rfl⟩⟩
  · exact absurd hasked hnew

/-- The paths of all answers: what the scope reaches and some filter that
was asked admits. -/
theorem mem_allPaths {s : Survey} {p : Text} (hwf : root.wellFormed = true)
    (h : s.Faithful root) :
    p ∈ s.allPaths ↔
      s.scope.Reaches root p
        ∧ ∃ filter ∈ s.asked, filter.admits (Path.base p) = true := by
  unfold allPaths
  rw [Ordered.mem_ofList, List.mem_flatMap]
  constructor
  · intro hlisted
    obtain ⟨⟨filter, files⟩, hmem, hp⟩ := hlisted
    obtain ⟨f, hf, rfl⟩ := List.mem_map.mp hp
    have hfiles : files = list s.scope filter root := h _ hmem
    rw [hfiles] at hf
    obtain ⟨hreach, hpass⟩ := (path_mem_list hwf).mp ⟨f, hf, rfl⟩
    exact ⟨hreach, filter, List.mem_map.mpr ⟨_, hmem, rfl⟩, hpass⟩
  · intro hreached
    obtain ⟨hreach, filter, hasked, hpass⟩ := hreached
    obtain ⟨⟨_, files⟩, hmem, rfl⟩ := List.mem_map.mp hasked
    obtain ⟨f, hf, hp⟩ := (path_mem_list hwf).mpr ⟨hreach, hpass⟩
    rw [← h _ hmem] at hf
    exact ⟨_, hmem, List.mem_map.mpr ⟨f, hf, hp⟩⟩

end Survey

end SourceAtlas
