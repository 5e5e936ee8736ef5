/-
The edges that import extraction finds. Each stage loses and invents
nothing: a target of a file is what some specifier of its text resolves to,
an edge of a file joins it to a target other than itself, and the edges of a
project are those of the files listed for its resolver that can be opened.
Dropping empty targets changes nothing, since no specifier resolves to the
empty path.

Consumed by the theory of the run's graph.
-/
import SourceAtlas.Proofs.Extract.Basic
import SourceAtlas.Proofs.Graph.Edges
import SourceAtlas.Proofs.Import.Containment

namespace SourceAtlas

/-- Removing duplicates keeps the non-empty items. -/
theorem Text.mem_dedupe {items : List Text} {t : Text} :
    t ∈ dedupe items ↔ t ∈ items ∧ t ≠ [] := by
  unfold dedupe
  rw [List.mem_eraseDups, List.mem_filter]
  simp

/-- The targets of a text are what its specifiers resolve to. -/
theorem Import.Resolver.mem_targets {root : Node} {f : SourceFile}
    {text t : Text} {r : Import.Resolver} :
    t ∈ r.targets root f text ↔
      ∃ specifier ∈ Import.specifiers text r.language,
        r.resolve root f specifier = some t := by
  unfold targets
  rw [Text.mem_dedupe, List.mem_filterMap]
  constructor
  · intro h
    obtain ⟨h, -⟩ := h
    exact h
  · intro h
    obtain ⟨specifier, hspec, hres⟩ := h
    exact ⟨⟨specifier, hspec, hres⟩, ne_nil_of_resolve hres⟩

namespace Extract

variable {root : Node}

/-- What one file of a project depends on. -/
def Imports (root : Node) (r : Import.Resolver) (f : SourceFile)
    (target : Text) : Prop :=
  ∃ text, f.read root = some text
    ∧ ∃ specifier ∈ Import.specifiers text r.language,
      r.resolve root f specifier = some target

/-- The edges of one file. -/
theorem mem_fileEdges {r : Import.Resolver} {f : SourceFile} {text : Text}
    {e : Edge} :
    e ∈ (fileEdges root r f text).edges ↔
      e.source = f.path ∧ e.target ∈ r.targets root f text
        ∧ e.source ≠ e.target := by
  unfold fileEdges
  rw [EdgeSet.mem_ofList, List.mem_map]
  constructor
  · intro h
    obtain ⟨⟨target, htarget, rfl⟩, hne⟩ := h
    exact ⟨rfl, htarget, hne⟩
  · intro h
    obtain ⟨hsource, htarget, hne⟩ := h
    exact ⟨⟨e.target, htarget, by rw [← hsource]⟩, hne⟩

/-- The edges of a project. -/
theorem mem_edges {resolver : Option Import.Resolver} {survey : Survey}
    {e : Edge} (h : survey.Faithful root) :
    e ∈ (edges root resolver survey).1.edges ↔
      ∃ r, resolver = some r
        ∧ ∃ f ∈ Survey.list survey.scope (importFilter r) root,
        f.path = e.source ∧ Imports root r f e.target
          ∧ e.source ≠ e.target := by
  cases resolver with
  | none =>
      constructor
      · intro he
        cases he
      · intro himport
        obtain ⟨r, hr, -⟩ := himport
        cases hr
  | some r =>
      simp only [edges]
      -- The edges start from none, so each one comes from a file that was read.
      rw [EdgeSet.mem_foldl_merge, Survey.enumerate_fst h]
      constructor
      · intro hedge
        rcases hedge with ⟨⟨f, text⟩, hmem, he⟩ | he
        · obtain ⟨hf, hread⟩ := mem_texts.mp hmem
          obtain ⟨hsource, htarget, hne⟩ := mem_fileEdges.mp he
          exact ⟨r, rfl, f, hf, hsource.symm,
            ⟨text, hread, Import.Resolver.mem_targets.mp htarget⟩, hne⟩
        · cases he
      · intro himport
        obtain ⟨r', hr, f, hf, hsource, ⟨text, hread, hspec⟩, hne⟩ := himport
        injection hr with hr
        subst hr
        refine Or.inl ⟨(f, text), mem_texts.mpr ⟨hf, hread⟩,
          mem_fileEdges.mpr ?_⟩
        exact ⟨hsource.symm, Import.Resolver.mem_targets.mpr hspec, hne⟩

end Extract

end SourceAtlas
