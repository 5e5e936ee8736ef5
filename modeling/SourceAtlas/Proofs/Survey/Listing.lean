/-
The listing that a survey gives when it is asked for the first time, said
without the walk: which files are in it, by what the tree holds and by what
is asked of a file and of each directory above it, and in which order. A
walk prunes a directory where it meets it; the listing is the same as if
every file were tried against all directories above it.

Files are ordered by path and then by extension. As the path settles the
extension, the paths of a listing are strictly increasing by themselves.
-/
import SourceAtlas.Proofs.Survey

namespace SourceAtlas

-- ================================================================= order

/-- Path and extension of a source file. -/
def SourceFile.parts (f : SourceFile) : List Text := [f.path, f.extension]

/-- Source files are ordered as the lists of their parts are. -/
theorem SourceFile.lt_iff (f g : SourceFile) : f < g ↔ f.parts < g.parts :=
  Ordered.pair_lt_pair_iff.symm

/-- A source file is its two parts. -/
theorem SourceFile.parts_inj (f g : SourceFile) (h : f.parts = g.parts) :
    f = g := by
  obtain ⟨path, extension⟩ := f
  obtain ⟨path', extension'⟩ := g
  simpa [SourceFile.parts] using h

instance :
    Trans (fun f g : SourceFile => f < g) (fun f g => f < g)
      (fun f g => f < g) :=
  ⟨Ordered.lt_trans_of_key SourceFile.lt_iff⟩

instance : Std.Asymm fun f g : SourceFile => f < g :=
  Ordered.asymm_of_key SourceFile.lt_iff

instance : Std.Trichotomous fun f g : SourceFile => f < g :=
  Ordered.trichotomous_of_key SourceFile.lt_iff SourceFile.parts_inj

namespace Survey

variable {root : Node}

/-- The paths of a listing are strictly increasing. -/
theorem pairwise_list (scope : Scope) (filter : Filter)
    (hwf : root.wellFormed = true) :
    (list scope filter root).Pairwise fun f g => f.path < g.path := by
  have hfiles : (list scope filter root).Pairwise (· < ·) :=
    Ordered.pairwise_ofList _
  refine hfiles.imp_of_mem ?_
  intro f g hf hg hlt
  obtain ⟨-, -, hext⟩ := (mem_list hwf).mp hf
  obtain ⟨-, -, hext'⟩ := (mem_list hwf).mp hg
  rcases hlt with hlt | ⟨hpath, hlt⟩
  · exact hlt
  · rw [hext, hext', hpath] at hlt
    exact absurd hlt (List.lt_irrefl _)

-- ============================================================ membership

/-- What a survey is set up with and asked for. -/
structure Request where
  skips : List Text
  exclude : List Text
  outputDir : Text
  extensions : List Text
  skipTests : Bool
  skipDeclarations : Bool

/-- The survey of a request that was never asked anything. -/
def Request.fresh (r : Request) : Survey :=
  ⟨.make r.skips r.exclude r.outputDir, []⟩

/-- The filter of a request. -/
def Request.filter (r : Request) : Filter :=
  .make r.extensions r.skipTests r.skipDeclarations

/-- What a request asks of a directory, by its path and its name, for
anything below it to be listed. -/
structure Request.Enters (r : Request) (path name : Text) : Prop where
  notSkipped : name ∉ r.skips
  notVersioned : name ≠ ".git".toList
  notOutput : Text.trimBoth (· == '/') r.outputDir ≠ [] →
    path ≠ Text.trimBoth (· == '/') r.outputDir
  notMetadata : Glob.accepts "*.egg-info".toList name = false
  pathIncluded : ∀ glob ∈ r.exclude, Glob.accepts glob path = false
  nameIncluded : ∀ glob ∈ r.exclude, Glob.accepts glob name = false

/-- What a request lists: an entry that is no directory, under the extension
of its name, which is asked for, no test and no declaration file unless they
are wanted, that no glob excludes, below directories that are all entered. -/
structure Request.Lists (r : Request) (root : Node) (f : SourceFile) :
    Prop where
  leaf : root.LeafAt f.path
  extension : f.extension = Path.extension (Path.base f.path)
  wanted : f.extension ∈ r.extensions
  notTest : r.skipTests = true → isTestFile (Path.base f.path) = false
  notDeclaration : r.skipDeclarations = true
    → ¬ ".d.ts".toList <:+ Path.base f.path
  included : ∀ glob ∈ r.exclude, Glob.accepts glob f.path = false
  below : ∀ up name, Path.Above (Path.components f.path) up name →
    r.Enters (Text.join ['/'] (up ++ [name])) name

/-- The walk enters the directories that a request lets in. -/
theorem Request.enters_iff (r : Request) {path name : Text} :
    (Scope.make r.skips r.exclude r.outputDir).enters path name = true
      ↔ r.Enters path name := by
  rw [Scope.enters_make_iff]
  constructor
  · intro h
    obtain ⟨hgit, hskip, hout, hegg, hpath, hname⟩ := h
    exact ⟨hskip, hgit, fun hne => hout.resolve_left hne, hegg, hpath, hname⟩
  · intro h
    obtain ⟨hskip, hgit, hout, hegg, hpath, hname⟩ := h
    refine ⟨hgit, hskip, ?_, hegg, hpath, hname⟩
    by_cases hempty : Text.trimBoth (· == '/') r.outputDir = []
    · exact Or.inl hempty
    · exact Or.inr (hout hempty)

/-- The listing holds what the request lists. -/
theorem Request.mem_list_iff (r : Request) (hwf : root.wellFormed = true)
    {f : SourceFile} :
    f ∈ list (.make r.skips r.exclude r.outputDir) r.filter root
      ↔ r.Lists root f := by
  have hsuffix : ".d.ts".toList.isSuffixOf (Path.base f.path) = false
      ↔ ¬ ".d.ts".toList <:+ Path.base f.path := by
    rw [← Bool.not_eq_true, List.isSuffixOf_iff_suffix]
  unfold Request.filter
  rw [mem_list hwf, Filter.admits_make_iff]
  constructor
  · intro h
    obtain ⟨⟨hleaf, hentered, hincl⟩, ⟨hext, htest, hdecl⟩, hf⟩ := h
    refine ⟨hleaf, hf, hf ▸ hext, htest, fun hskip => hsuffix.mp (hdecl hskip),
      Scope.excludes_make_eq_false_iff.mp hincl, ?_⟩
    · intro up name habove
      exact r.enters_iff.mp (hentered up name habove)
  · intro h
    obtain ⟨hleaf, hf, hext, htest, hdecl, hincl, hbelow⟩ := h
    refine ⟨⟨hleaf, ?_, Scope.excludes_make_eq_false_iff.mpr hincl⟩,
      ⟨hf ▸ hext, htest, fun hskip => hsuffix.mpr (hdecl hskip)⟩, hf⟩
    · intro up name habove
      exact r.enters_iff.mpr (hbelow up name habove)

-- =========================================================== the theorem

/-- Asked for the first time, a survey lists exactly the files that the
request lists, in strictly increasing order of their paths. -/
theorem first_listing_is_exact (r : Request) (hwf : root.wellFormed = true) :
    (r.fresh.enumerate root r.filter).1.Pairwise (fun f g => f.path < g.path)
      ∧ ∀ f, f ∈ (r.fresh.enumerate root r.filter).1 ↔ r.Lists root f := by
  have hlist : (r.fresh.enumerate root r.filter).1
      = list (.make r.skips r.exclude r.outputDir) r.filter root := rfl
  rw [hlist]
  exact ⟨pairwise_list _ _ hwf, fun _ => r.mem_list_iff hwf⟩

/-- A tree with sources in every kind of place that a request can leave
out. -/
def mixedTree : Node :=
  .directory
    [("b.ts".toList, .file [] true), ("a.ts".toList, .dangling),
     ("a.d.ts".toList, .file [] true), ("a.test.ts".toList, .file [] true),
     ("lib".toList, .directory
       [("c.ts".toList, .file [] false),
        ("out".toList, .directory [("d.ts".toList, .file [] true)]),
        ("old".toList, .directory [("e.ts".toList, .file [] true)])]),
     ("x.egg-info".toList, .directory [("f.ts".toList, .file [] true)]),
     (".git".toList, .directory [("g.ts".toList, .file [] true)])]

/-- The TypeScript sources of the tree, without tests and declarations,
without `lib/out` and without what is called `old`. -/
def mixedRequest : Request :=
  { skips := [], exclude := ["old".toList], outputDir := "/lib/out/".toList
    extensions := [".ts".toList], skipTests := true, skipDeclarations := true }

/-- Three files are left, in the order of their paths. -/
theorem first_listing_is_exact_mixed :
    mixedTree.wellFormed = true
      ∧ (mixedRequest.fresh.enumerate mixedTree mixedRequest.filter).1.map
          (·.path)
        = ["a.ts".toList, "b.ts".toList, "lib/c.ts".toList]
      ∧ mixedRequest.Lists mixedTree ⟨"lib/c.ts".toList, ".ts".toList⟩
      ∧ ¬ mixedRequest.Lists mixedTree
        ⟨"lib/out/d.ts".toList, ".ts".toList⟩ := by
  have hwf : mixedTree.wellFormed = true := by decide
  obtain ⟨-, hiff⟩ := first_listing_is_exact mixedRequest hwf
  refine ⟨hwf, by decide +kernel, ?_, ?_⟩
  · exact (hiff _).mp (by decide +kernel)
  · exact fun h => absurd ((hiff _).mpr h) (by decide +kernel)

end Survey

end SourceAtlas
