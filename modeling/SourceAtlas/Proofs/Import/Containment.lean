/-
Import resolution never leaves the project. Bases are put together from
directories, dots, alias targets and arbitrary specifier text, so nothing is
known about a candidate; what counts is that every answer has passed through
`firstExisting` or, for packages, through `clean?` and the look at the tree.
The two spec lemmas at the top say what those give, and each resolver only
has to show that its answer came from one of them.

Consumed by the theory of the dependency graph, which needs that a target is
never empty.
-/
import SourceAtlas.Import.Resolve
import SourceAtlas.Proofs.Path.Clean

namespace SourceAtlas.Import

variable {root : Node} {f : SourceFile} {specifier t : Text}

-- ====================================================== what is named

/-- A clean path at which the tree has a regular file. -/
structure NamesFile (root : Node) (t : Text) : Prop where
  clean : Path.IsClean t
  file : root.fileAt (Path.components t) = true

/-- A clean path with a closing slash behind it at which the tree has a
directory. -/
def NamesPackage (root : Node) (t : Text) : Prop :=
  ∃ p, t = p ++ ['/'] ∧ Path.IsClean p
    ∧ root.directoryAt (Path.components p) = true

/-- The first existing candidate is a file of the tree, whatever the
candidates are. -/
theorem namesFile_of_firstExisting {candidates : List Text}
    (h : firstExisting root candidates = some t) : NamesFile root t := by
  obtain ⟨candidate, -, hc⟩ := List.exists_of_findSome?_eq_some h
  obtain ⟨hclean, hfile⟩ := Option.filter_eq_some_iff.mp hc
  exact ⟨Path.isClean_of_clean? hclean, hfile⟩

/-- The first answer to some lists of candidates is a file of the tree. -/
theorem namesFile_of_findSome? {α : Type} {items : List α}
    {tried : α → List Text}
    (h : items.findSome? (fun item => firstExisting root (tried item))
      = some t) : NamesFile root t := by
  obtain ⟨item, -, hi⟩ := List.exists_of_findSome?_eq_some h
  exact namesFile_of_firstExisting hi

/-- A clean candidate is asked for as it is. -/
theorem firstExisting_cons_of_isClean (root : Node) {p : Text}
    (h : Path.IsClean p) (rest : List Text) :
    firstExisting root (p :: rest)
      = if root.fileAt (Path.components p) then some p
        else firstExisting root rest := by
  unfold firstExisting
  rw [List.findSome?_cons, Path.clean?_of_isClean h, Option.filter_some]
  by_cases hfile : root.fileAt (Path.components p) = true
  · rw [if_pos hfile, if_pos hfile]
  · rw [if_neg hfile, if_neg hfile]

-- ======================================================== each resolver

/-- What a script import resolves to is a file inside the root. -/
theorem namesFile_of_resolveScript {aliases : List Alias}
    (h : resolveScript root aliases f specifier = some t) : NamesFile root t :=
  namesFile_of_findSome? h

theorem namesFile_of_resolveRelative
    (h : resolveRelative root f specifier = some t) : NamesFile root t := by
  simp only [resolveRelative] at h
  split at h
  case h_1 => cases h
  case h_2 =>
    split at h
    · exact namesFile_of_firstExisting h
    · exact namesFile_of_firstExisting h

theorem namesFile_of_resolvePython
    (h : resolvePython root f specifier = some t) : NamesFile root t := by
  unfold resolvePython at h
  split at h
  · exact namesFile_of_resolveRelative h
  · exact namesFile_of_findSome? h

theorem namesPackage_of_resolveGo {moduleName : Text}
    (h : resolveGo root moduleName specifier = some t) :
    NamesPackage root t := by
  simp only [resolveGo] at h
  split at h
  case isTrue => cases h
  case isFalse =>
    obtain ⟨p, hp, rfl⟩ := Option.map_eq_some_iff.mp h
    obtain ⟨hclean, hdir⟩ := Option.filter_eq_some_iff.mp hp
    exact ⟨p, rfl, Path.isClean_of_clean? hclean, hdir⟩

theorem namesFile_of_resolveRust
    (h : resolveRust root f specifier = some t) : NamesFile root t := by
  unfold resolveRust at h
  split at h
  case h_1 => cases h
  case h_2 => exact namesFile_of_findSome? h

-- ======================================================== all resolvers

/-- What a resolver may answer: a package directory in Go, and a file
otherwise. -/
def Resolver.Names (root : Node) (t : Text) : Resolver → Prop
  | go _ => NamesPackage root t
  | _ => NamesFile root t

/-- Every answer of a resolver is in the tree. -/
theorem Resolver.names_of_resolve {r : Resolver}
    (h : r.resolve root f specifier = some t) : r.Names root t := by
  cases r with
  | script aliases => exact namesFile_of_resolveScript h
  | python => exact namesFile_of_resolvePython h
  | go moduleName => exact namesPackage_of_resolveGo h
  | rust => exact namesFile_of_resolveRust h

/-- No answer is empty. -/
theorem Resolver.ne_nil_of_resolve {r : Resolver}
    (h : r.resolve root f specifier = some t) : t ≠ [] := by
  have hn := names_of_resolve h
  cases r with
  | go _ =>
      obtain ⟨p, rfl, -⟩ := hn
      simp
  | script _ => exact hn.clean.ne_nil
  | python => exact hn.clean.ne_nil
  | rust => exact hn.clean.ne_nil

/-- Resolution stays inside the project and names only what is there: for
every tree, source, specifier and alias list, an answer is a clean path,
equal to its own clean form, at which the tree has a regular file, or in Go
a clean path with a closing slash at which it has a directory. -/
theorem Resolver.resolve_stays_inside {r : Resolver}
    (h : r.resolve root f specifier = some t) :
    match r with
    | go _ => ∃ p, t = p ++ ['/'] ∧ Path.IsClean p ∧ Path.clean? p = some p
        ∧ root.directoryAt (Path.components p) = true
    | script _ | python | rust => Path.IsClean t ∧ Path.clean? t = some t
        ∧ root.fileAt (Path.components t) = true := by
  have hn := names_of_resolve h
  cases r with
  | go _ =>
      obtain ⟨p, ht, hclean, hdir⟩ := hn
      exact ⟨p, ht, hclean, Path.clean?_of_isClean hclean, hdir⟩
  | script _ => exact ⟨hn.clean, Path.clean?_of_isClean hn.clean, hn.file⟩
  | python => exact ⟨hn.clean, Path.clean?_of_isClean hn.clean, hn.file⟩
  | rust => exact ⟨hn.clean, Path.clean?_of_isClean hn.clean, hn.file⟩

/-- A script and a package that are reached through climbing and doubled
slashes. -/
def climbingTree : Node :=
  .directory [("src".toList, .directory [("app".toList, .directory []),
    ("x.ts".toList, .file [] true)])]

/-- The first target of the alias climbs out and is passed over; the second
one climbs and comes back, and so does the Go import. -/
theorem Resolver.resolve_stays_inside_climbing :
    ((script [⟨"@/".toList,
        ["../src/".toList, "src//app/..//".toList], true⟩]).resolve
        climbingTree ⟨"src/app/main.ts".toList, ".ts".toList⟩ "@/./x".toList
      = some "src/x.ts".toList
      ∧ Path.IsClean "src/x.ts".toList
      ∧ Path.clean? "src/x.ts".toList = some "src/x.ts".toList
      ∧ climbingTree.fileAt (Path.components "src/x.ts".toList) = true)
    ∧ ((go "m/".toList).resolve climbingTree ⟨"main.go".toList, ".go".toList⟩
        "m/src/x/..//app".toList = some "src/app/".toList
      ∧ ∃ p, "src/app/".toList = p ++ ['/'] ∧ Path.IsClean p
        ∧ Path.clean? p = some p
        ∧ climbingTree.directoryAt (Path.components p) = true) := by
  have hscript :
    (script [⟨"@/".toList, ["../src/".toList, "src//app/..//".toList],
      true⟩]).resolve climbingTree ⟨"src/app/main.ts".toList, ".ts".toList⟩
      "@/./x".toList = some "src/x.ts".toList := by decide
  have hgo :
    (go "m/".toList).resolve climbingTree ⟨"main.go".toList, ".go".toList⟩
      "m/src/x/..//app".toList = some "src/app/".toList := by decide
  exact ⟨⟨hscript, resolve_stays_inside hscript⟩,
    ⟨hgo, resolve_stays_inside hgo⟩⟩

end SourceAtlas.Import
