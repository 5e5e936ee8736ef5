/-
Paths through the modules of a crate. A path names a module in one of three
ways: from the root of the crate, from the module it stands in, or from a module
some levels above that one. The answer to an import depends on the module that
is named and not on the way (`resolveRust_congr`), so what has to be shown is
that the three ways name the same module.

The first segment is read apart from those behind it, and a leading `super` is
the only one that is both: it leaves the module it stands in like the others,
but before they are looked at.
-/
import SourceAtlas.Import.Resolve
import SourceAtlas.Proofs.Text.Split

namespace SourceAtlas.Import

variable {root : Node} {f : SourceFile} {dir : Text} {here path : List Text}

-- ============================================================ segments

/-- What can stand between the double colons of a path. -/
structure IsSegment (s : Text) : Prop where
  ne_nil : s ≠ []
  no_colon : ':' ∉ s

instance (s : Text) : Decidable (IsSegment s) :=
  decidable_of_iff (s ≠ [] ∧ ':' ∉ s) ⟨fun h => ⟨h.1, h.2⟩, fun h => ⟨h.1, h.2⟩⟩

/-- The path with some segments. -/
def usePath (segments : List Text) : Text := Text.join "::".toList segments

/-- A use path splits into its segments. -/
theorem splitSeq_usePath {segments : List Text} (hne : segments ≠ [])
    (h : ∀ s ∈ segments, IsSegment s) :
    Text.splitSeq "::" (usePath segments) = segments :=
  Text.splitSeq_join [':'] hne fun s hs => (h s hs).no_colon

theorem filter_segments (h : ∀ s ∈ path, IsSegment s) :
    (path.filter fun s => !s.isEmpty) = path := by
  rw [List.filter_eq_self]
  intro s hs
  simpa using (h s hs).ne_nil

-- ============================================================ climbing

/-- Each leading `super` leaves one module, as long as there is one. -/
theorem climb_replicate (here : List Text) (k : Nat)
    (hpath : path.head? ≠ some "super".toList) :
    climb here (List.replicate k "super".toList ++ path)
      = (here.take (here.length - k), path) := by
  induction k generalizing here with
  | zero =>
      rw [List.replicate_zero, List.nil_append, Nat.sub_zero, List.take_length]
      cases path with
      | nil => rfl
      | cons first rest =>
          have hfirst : first ≠ "super".toList := by simpa using hpath
          rw [climb, if_neg hfirst]
  | succ k ih =>
      rw [List.replicate_succ, List.cons_append, climb, if_pos rfl, ih]
      have hlength : min (here.length - 1 - k) (here.length - 1)
          = here.length - (k + 1) := by omega
      rw [List.length_dropLast, List.dropLast_eq_take, List.take_take, hlength]

theorem isSegment_climbing (k : Nat) (h : ∀ s ∈ path, IsSegment s) :
    ∀ s ∈ List.replicate k "super".toList ++ path, IsSegment s := by
  intro s hs
  rcases List.mem_append.mp hs with hs | hs
  · rw [List.eq_of_mem_replicate hs]
    decide
  · exact h s hs

-- ======================================================== named modules

/-- The module that a path names from the root of the crate. -/
theorem targetModule_crate (here : List Text) (h : ∀ s ∈ path, IsSegment s) :
    targetModule here (usePath ("crate".toList :: path)) = path := by
  have hall : ∀ s ∈ "crate".toList :: path, IsSegment s :=
    List.forall_mem_cons.mpr ⟨by decide, h⟩
  unfold targetModule
  rw [splitSeq_usePath (List.cons_ne_nil _ _) hall]
  exact filter_segments h

/-- The module that a path names from a module, after going up some levels. -/
theorem targetModule_self (here : List Text) (k : Nat)
    (h : ∀ s ∈ path, IsSegment s) (hpath : path.head? ≠ some "super".toList) :
    targetModule here (usePath
      ("self".toList :: (List.replicate k "super".toList ++ path)))
      = here.take (here.length - k) ++ path := by
  have hall :
      ∀ s ∈ "self".toList :: (List.replicate k "super".toList ++ path),
        IsSegment s :=
    List.forall_mem_cons.mpr ⟨by decide, isSegment_climbing k h⟩
  have hcrate : "self".toList ≠ "crate".toList := by decide
  have hsuper : "self".toList ≠ "super".toList := by decide
  unfold targetModule
  rw [splitSeq_usePath (List.cons_ne_nil _ _) hall]
  simp only [if_neg hcrate, if_neg hsuper]
  rw [climb_replicate here k hpath, filter_segments h]

/-- The same without a `self` in front: the first `super` is the first
segment. -/
theorem targetModule_super (here : List Text) (k : Nat)
    (h : ∀ s ∈ path, IsSegment s) (hpath : path.head? ≠ some "super".toList) :
    targetModule here (usePath (List.replicate (k + 1) "super".toList ++ path))
      = here.take (here.length - (k + 1)) ++ path := by
  have hcrate : "super".toList ≠ "crate".toList := by decide
  have hclimb : climb here.dropLast (List.replicate k "super".toList ++ path)
      = climb here (List.replicate (k + 1) "super".toList ++ path) := by
    rw [List.replicate_succ, List.cons_append, climb, if_pos rfl]
  unfold targetModule
  rw [splitSeq_usePath (by simp) (isSegment_climbing (k + 1) h),
    List.replicate_succ, List.cons_append]
  simp only [if_neg hcrate, if_true]
  rw [hclimb, climb_replicate here (k + 1) hpath, filter_segments h]

-- ============================================================= answers

/-- The answer depends on the module that is named. -/
theorem resolveRust_congr (root : Node) {specifier specifier' : Text}
    (hlocation : crateLocation f.path = some (dir, here))
    (h : targetModule here specifier = targetModule here specifier') :
    resolveRust root f specifier = resolveRust root f specifier' := by
  unfold resolveRust
  rw [hlocation]
  simp only [h]

/-- Relative and absolute paths agree: a path from the module of the file is
the path from the root of the crate with that module in front, and a path from
some levels above is the one with as many segments less in front, with or
without a `self` before the levels. -/
theorem Resolver.relative_paths_agree (root : Node)
    (hlocation : crateLocation f.path = some (dir, here))
    (hhere : ∀ s ∈ here, IsSegment s) (hpath : ∀ s ∈ path, IsSegment s)
    (hsuper : path.head? ≠ some "super".toList) :
    rust.resolve root f (usePath ("self".toList :: path))
        = rust.resolve root f (usePath ("crate".toList :: (here ++ path)))
    ∧ ∀ k, 1 ≤ k →
      rust.resolve root f (usePath (List.replicate k "super".toList ++ path))
          = rust.resolve root f
              (usePath ("crate".toList
                :: (here.take (here.length - k) ++ path)))
      ∧ rust.resolve root f
            (usePath ("self".toList
              :: (List.replicate k "super".toList ++ path)))
          = rust.resolve root f
              (usePath ("crate".toList
                :: (here.take (here.length - k) ++ path))) := by
  have hcrate (k : Nat) :
      targetModule here (usePath
        ("crate".toList :: (here.take (here.length - k) ++ path)))
        = here.take (here.length - k) ++ path := by
    refine targetModule_crate here fun s hs => ?_
    rcases List.mem_append.mp hs with hs | hs
    · exact hhere s (List.mem_of_mem_take hs)
    · exact hpath s hs
  -- Both paths name the same module, and only the module is looked up.
  refine ⟨?_, fun k hk => ⟨?_, ?_⟩⟩
  · have hself := targetModule_self here 0 hpath hsuper
    have habsolute := hcrate 0
    rw [List.replicate_zero, List.nil_append] at hself
    rw [Nat.sub_zero, List.take_length] at hself habsolute
    exact resolveRust_congr root hlocation (hself.trans habsolute.symm)
  · obtain ⟨k, rfl⟩ := Nat.exists_eq_add_of_le' hk
    exact resolveRust_congr root hlocation
      ((targetModule_super here k hpath hsuper).trans (hcrate (k + 1)).symm)
  · exact resolveRust_congr root hlocation
      ((targetModule_self here k hpath hsuper).trans (hcrate k).symm)

/-- Modules in both layouts, one of them next to the other two. -/
def nestedCrate : Node :=
  .directory [("src".toList, .directory [("net".toList, .directory
    [("tls.rs".toList, .file [] true), ("http".toList, .directory
      [("mod.rs".toList, .file [] true),
        ("client.rs".toList, .file [] true)])])])]

/-- Two levels up from a plain file and one from a module directory, to the
same module. -/
theorem Resolver.relative_paths_agree_nested :
    rust.resolve nestedCrate (.ofPath "src/net/http/client.rs".toList)
        "super::super::tls".toList = some "src/net/tls.rs".toList
      ∧ rust.resolve nestedCrate (.ofPath "src/net/http/client.rs".toList)
          "super::super::tls".toList
        = rust.resolve nestedCrate (.ofPath "src/net/http/client.rs".toList)
          "crate::net::tls".toList
      ∧ rust.resolve nestedCrate (.ofPath "src/net/http/mod.rs".toList)
          "self::super::tls".toList
        = rust.resolve nestedCrate (.ofPath "src/net/http/mod.rs".toList)
          "crate::net::tls".toList
      ∧ rust.resolve nestedCrate (.ofPath "src/net/http/mod.rs".toList)
        "self::client".toList
        = rust.resolve nestedCrate (.ofPath "src/net/http/mod.rs".toList)
          "crate::net::http::client".toList := by
  have hplain :
    crateLocation (SourceFile.ofPath "src/net/http/client.rs".toList).path
      = some ("src".toList,
        ["net".toList, "http".toList, "client".toList]) := by decide
  have hdirectory :
    crateLocation (SourceFile.ofPath "src/net/http/mod.rs".toList).path
      = some ("src".toList, ["net".toList, "http".toList]) := by decide
  have htls : ∀ s ∈ ["tls".toList], IsSegment s := by decide
  have hclient : ∀ s ∈ ["client".toList], IsSegment s := by decide
  have hplainPaths :=
    relative_paths_agree nestedCrate hplain (by decide) htls (by decide)
  have hdirectoryPaths :=
    relative_paths_agree nestedCrate hdirectory (by decide) htls (by decide)
  have hinside :=
    relative_paths_agree nestedCrate hdirectory (by decide) hclient (by decide)
  exact ⟨by decide, (hplainPaths.2 2 (by decide)).1,
    (hdirectoryPaths.2 1 (by decide)).2, hinside.1⟩

end SourceAtlas.Import
