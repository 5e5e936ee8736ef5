/-
When there is a snapshot, and what it is made of. Of an output directory only
the first part of a relative path counts, so a relative path that has no parts
but is not empty has no snapshot (`build_directory`). Of the entries at the root
their names count and whether they are directories, and of the configuration
files their bytes (`build_congr`).

- `Nameless`: the output directories without snapshot.
- `shape`: what the listing of the root says, as a finite map.

Consumed by the theories of the commands and of the artifact store.
-/
import SourceAtlas.Artifact.Snapshot
import SourceAtlas.Proofs.Except
import SourceAtlas.Proofs.Path.Plain
import SourceAtlas.Proofs.Tree.Kind

namespace SourceAtlas.Snapshot

open Node PlainPath

variable {before after : Table Node} {ignore : List Name} {name : Name}
  {root : Except Fault Node} {outputDir : Text} {generated : Int}

-- ====================================================== output directories

/-- A path that is relative and not empty and names nothing. -/
def Nameless (path : Text) : Prop :=
  path ≠ [] ∧ path.head? ≠ some '/'
    ∧ ∀ part ∈ Path.components path, IsSilent part

instance (path : Text) : Decidable (Nameless path) :=
  inferInstanceAs (Decidable (_ ∧ _ ∧ _))

/-- The first name of a relative path, if it has one. -/
def topLevel (path : Text) : List Name :=
  if path.head? = some '/' then []
  else ((Path.components path).filter fun part => ¬ IsSilent part).take 1

/-- The top level of a path is its first name. -/
theorem topLevel_join_names {first : Name} {more : List Name}
    (h : ∀ part ∈ first :: more, Path.IsName part) :
    topLevel (Text.join ['/'] (first :: more)) = [first] := by
  rw [topLevel, if_neg (head?_join_names h),
    Path.components_join_names (List.cons_ne_nil first more) h, filter_names h]
  rfl

/-- A path of names is not nameless. -/
theorem not_nameless_join_names {first : Name} {more : List Name}
    (h : ∀ part ∈ first :: more, Path.IsName part) :
    ¬ Nameless (Text.join ['/'] (first :: more)) := by
  rintro ⟨-, -, hsilent⟩
  rw [Path.components_join_names (List.cons_ne_nil first more) h] at hsilent
  obtain ⟨hne, hdot, -⟩ := h first List.mem_cons_self
  exact (hsilent first List.mem_cons_self).elim hne hdot

/-- What is ignored, if that can be said. -/
theorem ignored_eq (outputDir : Text) : ignored outputDir
    = if Nameless outputDir then .error .noOutputName
      else .ok (topLevel outputDir) := by
  unfold ignored
  simp only
  -- Empty and absolute output directories ignore nothing; in a relative one the
  -- first part that is not silent counts, if there is one.
  by_cases hempty : outputDir = []
  · subst hempty
    rfl
  by_cases hslash : outputDir.head? = some '/'
  · have habsolute := (isAbsolute_ofText outputDir).mpr hslash
    have hnamed : ¬ Nameless outputDir := fun h => h.2.1 hslash
    rw [if_neg hnamed, topLevel, if_pos hslash, habsolute,
      Bool.or_true, if_pos rfl]
  · have hrelative : (PlainPath.ofText outputDir).isAbsolute = false :=
      Bool.eq_false_iff.mpr (mt (isAbsolute_ofText outputDir).mp hslash)
    have hsome : outputDir.isEmpty = false :=
      List.isEmpty_eq_false_iff.mpr hempty
    rw [hrelative, hsome, Bool.or_self, if_neg (by decide), topLevel,
      if_neg hslash, parts_ofText]
    cases hparts : (Path.components outputDir).filter fun part =>
      ¬ IsSilent part with
    | nil =>
        have hsilent : ∀ part ∈ Path.components outputDir, IsSilent part := by
          simpa using List.filter_eq_nil_iff.mp hparts
        rw [if_pos ⟨hempty, hslash, hsilent⟩]
    | cons first rest =>
        have hnamed : ¬ Nameless outputDir := by
          rintro ⟨-, -, hsilent⟩
          obtain ⟨hmem, hfirst⟩ :=
            List.mem_filter.mp (hparts ▸ List.mem_cons_self)
          exact of_decide_eq_true hfirst (hsilent first hmem)
        rw [if_neg hnamed]
        rfl

example : ignored "./".toList = .error .noOutputName := rfl

example : ignored "../out".toList = .ok ["..".toList] := rfl

-- =============================================================== existence

/-- The snapshot of a directory. -/
theorem build_directory (entries : List (Name × Node)) (outputDir : Text)
    (generated : Int) :
    build (.ok (.directory entries)) outputDir generated
      = if Nameless outputDir then .error .noOutputName
        else .ok ⟨generated, hashOfStructure entries (topLevel outputDir),
          hashesOfConfig (.directory entries)⟩ := by
  unfold build
  rw [ignored_eq]
  split <;> rfl

/-- A snapshot is built if the artifacts have a directory and the root can be
listed. -/
theorem exists_build_eq_ok_iff :
    (∃ snapshot, build root outputDir generated = .ok snapshot) ↔
      (∃ ignore, ignored outputDir = .ok ignore)
        ∧ ∃ entries, root = .ok (.directory entries) := by
  unfold build
  constructor
  · rintro ⟨snapshot, h⟩
    obtain ⟨ignore, hignore, h⟩ := bind_eq_ok_iff.mp h
    obtain ⟨entries, hentries, -⟩ := bind_eq_ok_iff.mp h
    refine ⟨⟨ignore, hignore⟩, entries, ?_⟩
    unfold rootEntries at hentries
    split at hentries
    case h_1 =>
      injection hentries with hentries
      rw [hentries]
    all_goals cases hentries
  · rintro ⟨⟨ignore, hignore⟩, entries, rfl⟩
    exact ⟨_, bind_eq_ok_iff.mpr
      ⟨ignore, hignore, bind_eq_ok_iff.mpr ⟨entries, rfl, rfl⟩⟩⟩

-- ================================================================= listing

/-- The names that the listing of a root has, each with whether it is that of
a directory. -/
def shape (root : Table Node) (ignore : List Name) : Table Bool :=
  (root.filter fun name _ => name != ".git".toList && !ignore.contains name).map
    isDirectory

/-- The line of a name. -/
def line (entry : Name × Bool) : Text :=
  if entry.2 then entry.1 ++ ['/'] else entry.1

/-- A listing has one line for each entry of the shape, in order. -/
theorem listing_eq (root : Table Node) (ignore : List Name) :
    listing root.entries ignore
      = Text.join ['\n'] ((shape root ignore).sorted.map line) := by
  unfold listing shape
  rw [Table.sorted_map, List.map_map]
  rfl

/-- The shape tells of each entry that is not ignored whether it is a
directory. -/
theorem get?_shape (root : Table Node) (ignore : List Name) (name : Name) :
    (shape root ignore).get? name
      = if name ∈ ".git".toList :: ignore then none
        else (root.get? name).map isDirectory := by
  unfold shape Table.get? Table.map Table.filter
  rw [lookup_map isDirectory,
    lookup_filter fun key => key != ".git".toList && !ignore.contains key]
  have hkeep : (name != ".git".toList && !ignore.contains name) = true
      ↔ name ∉ ".git".toList :: ignore := by
    simp
  by_cases hname : name ∈ ".git".toList :: ignore
  · rw [if_pos hname, if_neg fun h => hkeep.mp h hname]
    rfl
  · rw [if_neg hname, if_pos (hkeep.mpr hname)]

/-- The listing depends on what can be seen at the root. -/
theorem listing_congr (h : ∀ name ∉ ".git".toList :: ignore,
      (after.get? name).map isDirectory = (before.get? name).map isDirectory) :
    listing after.entries ignore = listing before.entries ignore := by
  have hsorted : (shape after ignore).sorted
      = (shape before ignore).sorted := by
    refine Table.sorted_eq_iff.mpr fun name => ?_
    rw [get?_shape, get?_shape]
    split
    case isTrue => rfl
    case isFalse hname => exact h name hname
  rw [listing_eq, listing_eq, hsorted]

/-- The hashes depend on the bytes of the configuration files only. -/
theorem hashesOfConfig_congr {before after : Node}
    (h : ∀ name, after.bytesAt? [name] = before.bytesAt? [name]) :
    hashesOfConfig after = hashesOfConfig before := by
  unfold hashesOfConfig
  simp only [h]

/-- Two roots have the same snapshot if they look the same but for what is
ignored, and have the same bytes in their files. -/
theorem build_congr (before after : Table Node)
    (hlisted : ∀ name ∉ ".git".toList :: topLevel outputDir,
      (after.get? name).map isDirectory = (before.get? name).map isDirectory)
    (hbytes : ∀ name, (directory after.entries).bytesAt? [name]
      = (directory before.entries).bytesAt? [name]) :
    build (.ok (.directory after.entries)) outputDir generated
      = build (.ok (.directory before.entries)) outputDir generated := by
  rw [build_directory, build_directory, hashOfStructure, hashOfStructure,
    listing_congr hlisted, hashesOfConfig_congr hbytes]

end SourceAtlas.Snapshot
