/-
Which file holds a module, and which module a file holds. The two are written
without each other: from a file, the first `src` of its path is looked for and
what stands behind it is read as a module path; from a module path, the files of
its longest part that has one are looked for behind the source directory. On
modules that identifiers name they undo each other, wherever further components
are called `src`, because the source directory of a file ends in the first one
(`exists_of_crateLocation`) and stays in front (`crateLocation_of_components`).

Both files of a module are told apart by their last component only, so the
question is which last components are read back as written: all but those that
have a meaning of their own.
-/
import Mathlib.Data.List.Basic
import SourceAtlas.Proofs.Import.Containment
import SourceAtlas.Proofs.Import.ModulePath

namespace SourceAtlas.Import

open SourceAtlas.Path (IsClean IsName)

variable {root : Node} {f : SourceFile} {dir t name : Text}
  {up inner names here path : List Text}

-- ====================================================== source directories

/-- What precedes the first component of a name. -/
theorem takeWhile_ne_append (h : name ∉ up) (inner : List Text) :
    (up ++ name :: inner).takeWhile (· != name) = up := by
  have hne : ∀ part ∈ up, (part != name) = true := by
    intro part hpart
    rw [bne_iff_ne]
    rintro rfl
    exact h hpart
  rw [List.takeWhile_append_of_pos hne, List.takeWhile_cons_of_neg (by simp),
    List.append_nil]

/-- Up to a name nothing is dropped behind its first occurrence. -/
theorem dropWhile_ne_append (h : name ∉ up) (inner : List Text) :
    (up ++ name :: inner).dropWhile (· != name) = name :: inner := by
  have hall :=
    List.takeWhile_append_dropWhile (p := (· != name))
      (l := up ++ name :: inner)
  rw [takeWhile_ne_append h] at hall
  exact List.append_cancel_left hall

/-- The source directory in some directory. -/
def sourceDirectory (up : List Text) : Text :=
  Text.join ['/'] (up ++ ["src".toList])

/-- The module that a file behind the source directory holds, by the last
component of its path and those before it. -/
def moduleOf (inner : List Text) (name : Text) : List Text :=
  if crateRoots.contains name && inner.isEmpty then []
  else if name = "mod.rs".toList then inner
  else inner ++ [name.take (name.length - 3)]

/-- A source directory divides a path into where it lies and the module. -/
theorem crateLocation_of_components (hup : "src".toList ∉ up)
    (h : Path.components t = up ++ "src".toList :: (inner ++ [name])) :
    crateLocation t = some (sourceDirectory up, moduleOf inner name) := by
  have hin :
      (up ++ "src".toList :: (inner ++ [name])).dropLast.contains "src".toList
        = true := by
    have hlast : up ++ "src".toList :: (inner ++ [name])
        = (up ++ "src".toList :: inner) ++ [name] := by simp
    rw [hlast, List.dropLast_concat, List.contains_iff_mem]
    exact List.mem_append_right up List.mem_cons_self
  have hroot : ((inner ++ [name]).length == 1) = inner.isEmpty := by
    cases inner with
    | nil => rfl
    | cons first rest => simp
  simp only [crateLocation, h]
  rw [if_pos hin, takeWhile_ne_append hup, dropWhile_ne_append hup,
    List.drop_one, List.tail_cons, List.getLast?_concat]
  simp only [moduleOf, hroot, List.dropLast_concat]
  split
  case isTrue => rfl
  case isFalse =>
    split
    case isTrue => rfl
    case isFalse => rfl

/-- The source directory ends in the first component called `src`. -/
theorem exists_of_crateLocation (h : crateLocation t = some (dir, here)) :
    ∃ up inner, Path.components t = up ++ "src".toList :: inner
      ∧ "src".toList ∉ up
      ∧ dir = sourceDirectory up := by
  have hin : "src".toList ∈ (Path.components t).dropLast := by
    simp only [crateLocation] at h
    split at h
    case isTrue hin => exact List.contains_iff_mem.mp hin
    case isFalse => cases h
  obtain ⟨up, inner, hparts, hup⟩ :=
    List.eq_append_cons_of_mem ((List.dropLast_sublist _).mem hin)
  refine ⟨up, inner, hparts, hup, ?_⟩
  rcases List.eq_nil_or_concat' inner with rfl | ⟨before, name, rfl⟩
  · -- the last component is no directory
    rw [hparts, List.dropLast_concat] at hin
    exact absurd hin hup
  · rw [crateLocation_of_components hup hparts] at h
    injection h with h
    exact (congrArg Prod.fst h).symm

-- ======================================================= files of a module

/-- What can name a module. -/
structure IsIdentifier (s : Text) : Prop where
  ne_nil : s ≠ []
  no_slash : '/' ∉ s
  no_colon : ':' ∉ s
  no_dot : '.' ∉ s

instance (s : Text) : Decidable (IsIdentifier s) :=
  decidable_of_iff (s ≠ [] ∧ '/' ∉ s ∧ ':' ∉ s ∧ '.' ∉ s)
    ⟨fun h => ⟨h.1, h.2.1, h.2.2.1, h.2.2.2⟩, fun h => ⟨h.1, h.2, h.3, h.4⟩⟩

/-- Identifiers are segments of a use path. -/
theorem IsIdentifier.isSegment {s : Text} (h : IsIdentifier s) : IsSegment s :=
  ⟨h.ne_nil, h.no_colon⟩

theorem IsIdentifier.isName {s : Text} (h : IsIdentifier s) : IsName s := by
  refine ⟨h.ne_nil, ?_, ?_, h.no_slash⟩
  · rintro rfl
    exact h.no_dot List.mem_cons_self
  · rintro rfl
    exact h.no_dot List.mem_cons_self

/-- The path of a module behind a source directory, without an extension. -/
def moduleStem (dir : Text) (names : List Text) : Text :=
  dir ++ '/' :: Text.join ['/'] names

/-- The file that a module has for itself. -/
def plainFile (dir : Text) (names : List Text) : Text :=
  moduleStem dir names ++ ".rs".toList

/-- The file of a module that is a directory. -/
def directoryFile (dir : Text) (names : List Text) : Text :=
  moduleStem dir names ++ "/mod.rs".toList

/-- The files of a module lie below the source directory. -/
theorem moduleStem_eq_join (up : List Text) (hne : names ≠ []) :
    moduleStem (sourceDirectory up) names
      = Text.join ['/'] (up ++ "src".toList :: names) := by
  have hall : up ++ "src".toList :: names
      = (up ++ ["src".toList]) ++ names := by simp
  rw [hall, Text.join_append (by simp) hne, moduleStem, sourceDirectory]
  simp

/-- One of the two files of a module is called after it. -/
theorem plainFile_eq_join (up inner : List Text) (name : Text) :
    plainFile (sourceDirectory up) (inner ++ [name])
      = Text.join ['/'] (up
        ++ "src".toList :: (inner ++ [name ++ ".rs".toList])) := by
  have hbehind (last : Text) :
      Text.join ['/'] (up ++ "src".toList :: (inner ++ [last]))
        = Text.join ['/'] (up ++ "src".toList :: inner) ++ ['/'] ++ last := by
    rw [← Text.join_concat (by simp)]
    simp
  rw [plainFile, moduleStem_eq_join up (by simp), hbehind, hbehind,
    List.append_assoc]

theorem directoryFile_eq_join (up : List Text) (hne : names ≠ []) :
    directoryFile (sourceDirectory up) names
      = Text.join ['/'] (up
        ++ "src".toList :: (names ++ ["mod.rs".toList])) := by
  have hbehind : up ++ "src".toList :: (names ++ ["mod.rs".toList])
      = (up ++ "src".toList :: names) ++ ["mod.rs".toList] := by simp
  rw [directoryFile, moduleStem_eq_join up hne, hbehind,
    Text.join_concat (by simp), List.append_assoc]
  rfl

section

variable (hup : ∀ part ∈ up, IsName part)
include hup

/-- Names behind a source directory are the components of a clean path. -/
theorem isClean_behind (hinner : ∀ part ∈ inner, IsName part) :
    IsClean (Text.join ['/'] (up ++ "src".toList :: inner))
      ∧ Path.components (Text.join ['/'] (up ++ "src".toList :: inner))
        = up ++ "src".toList :: inner := by
  have hnames : ∀ part ∈ up ++ "src".toList :: inner, IsName part := by
    rw [List.forall_mem_append, List.forall_mem_cons]
    exact ⟨hup, by decide, hinner⟩
  exact ⟨Path.isClean_join (by simp) hnames,
    Path.components_join_names (by simp) hnames⟩

/-- The first file has a clean path, with the module behind the source
directory. -/
theorem plainFile_behind (hinner : ∀ s ∈ inner, IsIdentifier s)
    (hname : IsIdentifier name) :
    IsClean (plainFile (sourceDirectory up) (inner ++ [name]))
      ∧ Path.components (plainFile (sourceDirectory up) (inner ++ [name]))
        = up ++ "src".toList :: (inner ++ [name ++ ".rs".toList]) := by
  rw [plainFile_eq_join]
  apply isClean_behind hup
  rw [List.forall_mem_append, List.forall_mem_singleton]
  refine ⟨fun s hs => (hinner s hs).isName, Path.isName_of_length ?_ ?_⟩
  · rw [List.length_append]
    exact Nat.lt_add_left name.length (by decide)
  · rw [List.mem_append]
    exact not_or.mpr ⟨hname.no_slash, by decide⟩

theorem directoryFile_behind (hne : names ≠ [])
    (hnames : ∀ s ∈ names, IsIdentifier s) :
    IsClean (directoryFile (sourceDirectory up) names)
      ∧ Path.components (directoryFile (sourceDirectory up) names)
        = up ++ "src".toList :: (names ++ ["mod.rs".toList]) := by
  rw [directoryFile_eq_join up hne]
  apply isClean_behind hup
  rw [List.forall_mem_append, List.forall_mem_singleton]
  exact ⟨fun s hs => (hnames s hs).isName, by decide⟩

/-- A module's own file is found at that module, unless its name means
something else at the end of a path. -/
theorem crateLocation_plainFile (hsrc : "src".toList ∉ up)
    (hinner : ∀ s ∈ inner, IsIdentifier s) (hname : IsIdentifier name)
    (hmod : name ≠ "mod".toList)
    (hroot : inner = [] → name ≠ "lib".toList ∧ name ≠ "main".toList) :
    crateLocation (plainFile (sourceDirectory up) (inner ++ [name]))
      = some (sourceDirectory up, inner ++ [name]) := by
  have hcut {s : Text} (h : name ++ ".rs".toList = s ++ ".rs".toList) : name
      = s :=
    List.append_cancel_right h
  have hmodule : moduleOf inner (name ++ ".rs".toList) = inner ++ [name] := by
    unfold moduleOf
    rw [if_neg, if_neg]
    · simp
    · exact fun h => hmod (hcut h)
    · intro h
      rw [Bool.and_eq_true, List.isEmpty_iff, List.contains_iff_mem] at h
      obtain ⟨hnotLib, hnotMain⟩ := hroot h.2
      rcases List.mem_cons.mp h.1 with h | h
      · exact hnotLib (hcut h)
      · exact hnotMain (hcut (List.mem_singleton.mp h))
  rw [crateLocation_of_components hsrc (plainFile_behind hup hinner hname).2,
    hmodule]

/-- The location of the second file is its module. -/
theorem crateLocation_directoryFile (hsrc : "src".toList ∉ up)
    (hne : names ≠ []) (hnames : ∀ s ∈ names, IsIdentifier s) :
    crateLocation (directoryFile (sourceDirectory up) names)
      = some (sourceDirectory up, names) := by
  rw [crateLocation_of_components hsrc (directoryFile_behind hup hne hnames).2]
  rfl

end

-- =================================================== longest initial parts

/-- Initial parts of a path are its names up to one of them. -/
theorem mem_initialParts :
    names ∈ initialParts path
      ↔ ∃ j, 1 ≤ j ∧ j ≤ path.length ∧ names = path.take j := by
  unfold initialParts
  rw [List.mem_reverse, List.mem_map]
  constructor
  · rintro ⟨n, hn, rfl⟩
    exact ⟨n + 1, by omega, List.mem_range.mp hn, rfl⟩
  · rintro ⟨j, hj, hle, rfl⟩
    obtain ⟨n, rfl⟩ := Nat.exists_eq_add_of_le' hj
    exact ⟨n, List.mem_range.mpr hle, rfl⟩

/-- The search among initial parts ends at the longest that has an answer. -/
theorem findSome?_initialParts {ask : List Text → Option Text} {j : Nat}
    (hj : 1 ≤ j) (hle : j ≤ path.length) (h : ask (path.take j) = some t)
    (hlonger : ∀ i, j < i → i ≤ path.length → ask (path.take i) = none) :
    (initialParts path).findSome? ask = some t := by
  have hsearch (n : Nat) (hjn : j ≤ n) (hn : n ≤ path.length) :
      ((List.range n).map fun i => path.take (i + 1)).reverse.findSome? ask
        = some t := by
    induction n with
    | zero => omega
    | succ n ih =>
        rw [List.range_succ, List.map_append, List.reverse_append,
          List.map_singleton, List.reverse_singleton, List.singleton_append,
          List.findSome?_cons]
        by_cases hlast : j = n + 1
        · rw [← hlast, h]
        · rw [hlonger (n + 1) (by omega) hn]
          exact ih (by omega) (by omega)
  exact hsearch path.length hle (Nat.le_refl _)

-- ============================================================= answers

/-- A module that has a file. -/
def HasFile (root : Node) (dir : Text) (names : List Text) : Prop :=
  root.fileAt (Path.components (plainFile dir names)) = true
    ∨ root.fileAt (Path.components (directoryFile dir names)) = true

instance (root : Node) (dir : Text) (names : List Text) :
    Decidable (HasFile root dir names) :=
  inferInstanceAs (Decidable (_ ∨ _))

/-- The file of a module that has one: its own file, or else that of its
directory. -/
def fileOf (root : Node) (dir : Text) (names : List Text) : Text :=
  if root.fileAt (Path.components (plainFile dir names))
    then plainFile dir names
  else directoryFile dir names

/-- A crate path is looked up by its longest initial part that has a file. -/
theorem resolveRust_crate (root : Node)
    (hlocation : crateLocation f.path = some (dir, here))
    (hpath : ∀ s ∈ path, IsIdentifier s) :
    resolveRust root f (usePath ("crate".toList :: path))
      = (initialParts path).findSome? fun names =>
          firstExisting root [plainFile dir names,
            directoryFile dir names] := by
  unfold resolveRust
  rw [hlocation]
  simp only [targetModule_crate here fun s hs => (hpath s hs).isSegment]
  rfl

/-- The files of a module are asked for as they are. -/
theorem firstExisting_files (root : Node) (hup : ∀ part ∈ up, IsName part)
    (hne : names ≠ []) (hnames : ∀ s ∈ names, IsIdentifier s) :
    firstExisting root
        [plainFile (sourceDirectory up) names,
          directoryFile (sourceDirectory up) names]
      = if HasFile root (sourceDirectory up) names then
          some (fileOf root (sourceDirectory up) names)
        else none := by
  have hplain : IsClean (plainFile (sourceDirectory up) names) := by
    obtain ⟨inner, name, rfl⟩ := (List.eq_nil_or_concat' names).resolve_left hne
    obtain ⟨hinner, hname⟩ := List.forall_mem_append.mp hnames
    exact (plainFile_behind hup hinner (hname name List.mem_cons_self)).1
  have hdirectory := (directoryFile_behind hup hne hnames).1
  rw [firstExisting_cons_of_isClean root hplain,
    firstExisting_cons_of_isClean root hdirectory]
  split
  case isTrue hfile => rw [if_pos (.inl hfile), fileOf, if_pos hfile]
  case isFalse hnot =>
    split
    case isTrue hfile => rw [if_pos (.inr hfile), fileOf, if_neg hnot]
    case isFalse hnotDirectory =>
      have hnone : ¬ HasFile root (sourceDirectory up) names :=
        not_or.mpr ⟨hnot, hnotDirectory⟩
      rw [if_neg hnone]
      rfl

/-- The file of a module is found at that module. -/
theorem crateLocation_fileOf (root : Node) (hup : ∀ part ∈ up, IsName part)
    (hsrc : "src".toList ∉ up) (hne : names ≠ [])
    (hnames : ∀ s ∈ names, IsIdentifier s)
    (hmod : names.getLast? ≠ some "mod".toList)
    (hroot : names ≠ ["lib".toList] ∧ names ≠ ["main".toList]) :
    crateLocation (fileOf root (sourceDirectory up) names)
      = some (sourceDirectory up, names) := by
  unfold fileOf
  split
  case isTrue =>
    obtain ⟨inner, name, rfl⟩ := (List.eq_nil_or_concat' names).resolve_left hne
    obtain ⟨hinner, hname⟩ := List.forall_mem_append.mp hnames
    apply crateLocation_plainFile hup hsrc hinner
      (hname name List.mem_cons_self)
    · rintro rfl
      exact hmod List.getLast?_concat
    · rintro rfl
      simpa using hroot
  case isFalse => exact crateLocation_directoryFile hup hsrc hne hnames

/-- Finding a module undoes locating a file. A path of identifiers from the
root of the crate leads to the file of its longest initial part that has one,
the module's own file before that of its directory, and to nothing if there is
none. The file found is located at just that part, unless the part ends in
`mod` or is `lib` or `main`, whose own files stand for other modules. -/
theorem Resolver.crate_paths_undo_location (root : Node)
    (hclean : IsClean f.path)
    (hlocation : crateLocation f.path = some (dir, here))
    (hpath : ∀ s ∈ path, IsIdentifier s) :
    (∀ j, 1 ≤ j → j ≤ path.length → HasFile root dir (path.take j) →
      (∀ i, j < i → i ≤ path.length → ¬ HasFile root dir (path.take i)) →
      rust.resolve root f (usePath ("crate".toList :: path))
          = some (fileOf root dir (path.take j))
      ∧ ((path.take j).getLast? ≠ some "mod".toList →
          path.take j ≠ ["lib".toList] ∧ path.take j ≠ ["main".toList] →
          crateLocation (fileOf root dir (path.take j))
            = some (dir, path.take j)))
    ∧ ((∀ j, 1 ≤ j → j ≤ path.length → ¬ HasFile root dir (path.take j)) →
      rust.resolve root f (usePath ("crate".toList :: path)) = none) := by
  have hsearch : rust.resolve root f (usePath ("crate".toList :: path)) = _ :=
    resolveRust_crate root hlocation hpath
  obtain ⟨up, inner, hparts, hsrc, rfl⟩ := exists_of_crateLocation hlocation
  have hup : ∀ part ∈ up, IsName part := by
    intro part hpart
    refine hclean.isName ?_
    rw [hparts]
    exact List.mem_append_left _ hpart
  have hidentifiers (j : Nat) : ∀ s ∈ path.take j, IsIdentifier s := fun s hs =>
    hpath s (List.mem_of_mem_take hs)
  have hne {j : Nat} (hj : 1 ≤ j) (hle : j ≤ path.length) :
      path.take j ≠ [] := by
    rw [← List.length_pos_iff, List.length_take]
    omega
  rw [hsearch]
  constructor
  · intro j hj hle hfile hlonger
    refine ⟨?_, crateLocation_fileOf root hup hsrc (hne hj hle)
      (hidentifiers j)⟩
    -- The search tries the longer parts first, and none of them has a file.
    apply findSome?_initialParts hj hle
    · rw [firstExisting_files root hup (hne hj hle) (hidentifiers j),
        if_pos hfile]
    · intro i hji hi
      rw [firstExisting_files root hup (hne (by omega) hi) (hidentifiers i),
        if_neg (hlonger i hji hi)]
  · intro hnone
    refine List.findSome?_eq_none_iff.mpr fun names hnames => ?_
    obtain ⟨j, hj, hle, rfl⟩ := mem_initialParts.mp hnames
    rw [firstExisting_files root hup (hne hj hle) (hidentifiers j),
      if_neg (hnone j hj hle)]

/-- A crate in a subdirectory, with modules in both layouts, one of them called
`src` like the directory. -/
def nestedSources : Node :=
  .directory [("tools".toList, .directory [("src".toList, .directory
    [("main.rs".toList, .file [] true), ("net".toList, .directory
      [("mod.rs".toList, .file [] true), ("src.rs".toList, .file [] true)])])])]

/-- An item of a module called `src`, one of a module that is a directory, and
a path that leads nowhere. -/
theorem Resolver.crate_paths_undo_location_src :
    rust.resolve nestedSources (.ofPath "tools/src/main.rs".toList)
        "crate::net::src::Frame".toList = some "tools/src/net/src.rs".toList
      ∧ crateLocation "tools/src/net/src.rs".toList
        = some ("tools/src".toList, ["net".toList, "src".toList])
      ∧ rust.resolve nestedSources (.ofPath "tools/src/main.rs".toList)
        "crate::net::Wire".toList = some "tools/src/net/mod.rs".toList
      ∧ crateLocation "tools/src/net/mod.rs".toList
        = some ("tools/src".toList, ["net".toList])
      ∧ rust.resolve nestedSources (.ofPath "tools/src/main.rs".toList)
        "crate::disk::Wire".toList = none := by
  have hclean : IsClean (SourceFile.ofPath "tools/src/main.rs".toList).path :=
    ⟨by decide, by decide, by decide⟩
  have hlocation :
      crateLocation (SourceFile.ofPath "tools/src/main.rs".toList).path
        = some ("tools/src".toList, []) := by decide
  have hframe :
      ∀ s ∈ ["net".toList, "src".toList, "Frame".toList], IsIdentifier s := by
    decide
  have hwire : ∀ s ∈ ["net".toList, "Wire".toList], IsIdentifier s := by decide
  have hdisk : ∀ s ∈ ["disk".toList, "Wire".toList], IsIdentifier s := by decide
  have hlonger : ∀ i, 2 < i → i ≤ 3 →
      ¬ HasFile nestedSources "tools/src".toList
        (["net".toList, "src".toList, "Frame".toList].take i) := by
    intro i hlt hle
    obtain rfl : i = 3 := by omega
    decide
  have hlonger' : ∀ i, 1 < i → i ≤ 2
      → ¬ HasFile nestedSources "tools/src".toList
        (["net".toList, "Wire".toList].take i) := by
    intro i hlt hle
    obtain rfl : i = 2 := by omega
    decide
  have hnone : ∀ i, 1 ≤ i → i ≤ 2
      → ¬ HasFile nestedSources "tools/src".toList
        (["disk".toList, "Wire".toList].take i) := by
    intro i hlt hle
    obtain rfl | rfl : i = 1 ∨ i = 2 := by omega
    · decide
    · decide
  obtain ⟨hfound, hlocated⟩ :=
    (crate_paths_undo_location nestedSources hclean hlocation hframe).1 2
      (by decide) (by decide) (by decide) hlonger
  obtain ⟨hfound', hlocated'⟩ :=
    (crate_paths_undo_location nestedSources hclean hlocation hwire).1 1
      (by decide) (by decide) (by decide) hlonger'
  refine ⟨hfound, hlocated (by decide) (by decide), hfound',
    hlocated' (by decide) (by decide), ?_⟩
  exact (crate_paths_undo_location nestedSources hclean hlocation hdisk).2 hnone

end SourceAtlas.Import
