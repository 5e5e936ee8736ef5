/-
Which edges survive: the edge set drops edges from a file to itself and
nothing else, however it is filled, and pruning keeps the edges whose ends
are known. A target with a closing slash is known if some known path is
that target followed by one name. Sets with the same members are equal
(`EdgeSet.ext_mem`).

Consumed by the theories of import extraction, of the run, of map-reduce and
of the written forms of a graph.
-/
import SourceAtlas.Graph.Basic
import SourceAtlas.Proofs.Text.Split

namespace SourceAtlas

-- ============================================================= edge sets

namespace EdgeSet

/-- Adding an edge adds it, unless it leads from a file to itself. -/
theorem mem_add {s : EdgeSet} {e x : Edge} :
    e ∈ (s.add x).edges ↔ (e = x ∧ x.source ≠ x.target) ∨ e ∈ s.edges := by
  unfold add
  split
  · next hself => simp [hself]
  · next hself => simp [hself]

/-- The set of a list has its edges between different files. -/
theorem mem_ofList {edges : List Edge} {e : Edge} :
    e ∈ (ofList edges).edges ↔ e ∈ edges ∧ e.source ≠ e.target := by
  have hfold : ∀ s : EdgeSet, e ∈ (edges.foldl add s).edges
      ↔ (e ∈ edges ∧ e.source ≠ e.target) ∨ e ∈ s.edges := by
    induction edges with
    | nil => simp
    | cons x rest ih =>
        intro s
        rw [List.foldl_cons, ih, mem_add, List.mem_cons]
        constructor
        · intro h
          rcases h with ⟨h, hne⟩ | ⟨rfl, hne⟩ | h
          · exact Or.inl ⟨Or.inr h, hne⟩
          · exact Or.inl ⟨Or.inl rfl, hne⟩
          · exact Or.inr h
        · intro h
          rcases h with ⟨rfl | h, hne⟩ | h
          · exact Or.inr (Or.inl ⟨rfl, hne⟩)
          · exact Or.inl ⟨h, hne⟩
          · exact Or.inr (Or.inr h)
  unfold ofList
  rw [hfold]
  simp [empty]

/-- Filtering keeps what is asked for. -/
theorem mem_filter {s : EdgeSet} {keep : Edge → Bool} {e : Edge} :
    e ∈ (s.filter keep).edges ↔ e ∈ s.edges ∧ keep e = true :=
  List.mem_filter

/-- Merging unites. -/
theorem mem_merge {s other : EdgeSet} {e : Edge} :
    e ∈ (s.merge other).edges ↔ e ∈ other.edges ∨ e ∈ s.edges := by
  unfold merge
  exact Ordered.mem_insertAll

/-- Merging one set per item unites them all. -/
theorem mem_foldl_merge {α : Type} {items : List α} {part : α → EdgeSet}
    {s : EdgeSet} {e : Edge} :
    e ∈ (items.foldl (fun acc item => acc.merge (part item)) s).edges
      ↔ (∃ item ∈ items, e ∈ (part item).edges) ∨ e ∈ s.edges := by
  induction items generalizing s with
  | nil => simp
  | cons item rest ih =>
      rw [List.foldl_cons, ih, mem_merge]
      constructor
      · intro h
        rcases h with ⟨x, hx, he⟩ | he | he
        · exact Or.inl ⟨x, List.mem_cons_of_mem _ hx, he⟩
        · exact Or.inl ⟨item, List.mem_cons_self, he⟩
        · exact Or.inr he
      · intro h
        rcases h with ⟨x, hx, he⟩ | he
        · rcases List.mem_cons.1 hx with rfl | hx
          · exact Or.inr (Or.inl he)
          · exact Or.inl ⟨x, hx, he⟩
        · exact Or.inr (Or.inr he)

end EdgeSet

namespace EdgeSet

/-- Sets of edges are equal if they have the same members. -/
theorem ext_mem {s t : EdgeSet} (h : ∀ e, e ∈ s.edges ↔ e ∈ t.edges) :
    s = t := by
  have hedges := Ordered.eq_of_mem_iff s.increasing t.increasing h
  cases s
  cases t
  simpa using hedges

end EdgeSet

-- =============================================================== pruning

namespace DependencyGraph

/-- Whether a path lies directly in a directory that is written with a
closing slash. -/
def DirectlyIn (dir p : Text) : Prop :=
  ['/'] <:+ dir ∧ ∃ name, '/' ∉ name ∧ p = dir ++ name

/-- The known directories are those that a known path lies directly in. -/
theorem mem_knownDirectories {known : List Text} {dir : Text} :
    dir ∈ knownDirectories known ↔ ∃ p ∈ known, DirectlyIn dir p := by
  unfold knownDirectories
  rw [List.mem_map]
  constructor
  · intro h
    obtain ⟨p, hp, rfl⟩ := h
    obtain ⟨hknown, hslash⟩ := List.mem_filter.mp hp
    have hmem : '/' ∈ p := by simpa using hslash
    refine ⟨p, hknown, List.suffix_append _ _, ?_⟩
    cases hcut : Text.cutLast? ['/'] p with
    | none => exact absurd hmem (Text.cutLast?_eq_none_iff.mp hcut)
    | some cut =>
        obtain ⟨above, name⟩ := cut
        obtain ⟨hp', hname⟩ := Text.eq_append_of_cutLast? hcut
        refine ⟨name, hname, ?_⟩
        unfold Path.parent
        rw [hcut]
        simpa using hp'
  · intro h
    obtain ⟨p, hknown, ⟨above, rfl⟩, name, hname, rfl⟩ := h
    refine ⟨above ++ ['/'] ++ name, List.mem_filter.mpr ⟨hknown, by simp⟩, ?_⟩
    unfold Path.parent
    rw [List.append_assoc, List.singleton_append,
      Text.cutLast?_append above hname]
    rfl

/-- What pruning asks of a target: to be known or, with a closing slash, to
hold a known path directly. -/
def KnownTarget (known : List Text) (target : Text) : Prop :=
  if ['/'] <:+ target then ∃ p ∈ known, DirectlyIn target p else target ∈ known

/-- What pruning keeps. -/
theorem keeps_iff {known : List Text} {e : Edge} :
    keeps known e = true ↔ e.source ∈ known ∧ KnownTarget known e.target := by
  unfold keeps KnownTarget
  by_cases hslash : ['/'] <:+ e.target
  · rw [if_pos (List.isSuffixOf_iff_suffix.mpr hslash), if_pos hslash,
      ← mem_knownDirectories]
    simp
  · rw [if_neg (by simpa using hslash), if_neg hslash]
    simp

/-- The edges of a pruned graph. -/
theorem mem_prune {g : DependencyGraph} {known : List Text} {e : Edge} :
    e ∈ (g.prune known).edges.edges ↔
      e ∈ g.edges.edges ∧ e.source ∈ known ∧ KnownTarget known e.target := by
  unfold prune
  rw [EdgeSet.mem_filter, keeps_iff]

/-- Where no known path has a closing slash, a target is known as a file or
as a directory. -/
theorem knownTarget_iff {known : List Text} {target : Text}
    (h : ∀ p ∈ known, ¬ ['/'] <:+ p) :
    KnownTarget known target
      ↔ target ∈ known ∨ ∃ p ∈ known, DirectlyIn target p := by
  unfold KnownTarget
  split
  · next hslash =>
    constructor
    · exact Or.inr
    · intro hknown
      rcases hknown with hmem | hdir
      · exact absurd hslash (h target hmem)
      · exact hdir
  · next hslash =>
    constructor
    · exact Or.inl
    · intro hknown
      rcases hknown with hmem | ⟨p, -, hdir, -⟩
      · exact hmem
      · exact absurd hdir hslash

end DependencyGraph

end SourceAtlas
