/-
One file more in a tree. Writing a file where nothing is may make the
directories above it, so the trees before and after differ at more than one
path; removing a file leaves the directories. Both ways round the larger tree
has the file, and elsewhere it has what the smaller one has or a directory
that is new (`Gains`).

- `gains_of_writeFile`: the tree after writing gains the file.
- `gains_of_remove`: the tree before removing has gained it.

Consumed by the stability of import resolution.
-/
import SourceAtlas.Proofs.Tree.Edit

namespace SourceAtlas.Node

open Utf8 (Bytes)

variable {tree after : Node} {path : List Name}

/-- The tree `after` is `tree` with a new file at `path`, and perhaps with new
directories. -/
structure Gains (tree : Node) (path : List Name) (after : Node) : Prop where
  free : tree.kindAt path = none
  file : after.fileAt path = true
  elsewhere : ∀ q, q ≠ path → after.kindAt q = tree.kindAt q
    ∨ (tree.kindAt q = none ∧ after.kindAt q = some .directory)

namespace Gains

theorem fileAt_eq (h : Gains tree path after) {q : List Name} (hq : q ≠ path) :
    after.fileAt q = tree.fileAt q := by
  rw [Bool.eq_iff_iff, fileAt_iff_kindAt, fileAt_iff_kindAt]
  rcases h.elsewhere q hq with hsame | ⟨hnone, hdir⟩
  · rw [hsame]
  · simp [hnone, hdir]

theorem directoryAt_of_directoryAt (h : Gains tree path after) {q : List Name}
    (hq : tree.directoryAt q = true) : after.directoryAt q = true := by
  rw [directoryAt_iff_kindAt] at hq ⊢
  have hne : q ≠ path := by
    rintro rfl
    rw [h.free] at hq
    cases hq
  rcases h.elsewhere q hne with hsame | ⟨hnone, -⟩
  · rw [hsame, hq]
  · rw [hnone] at hq
    cases hq

end Gains

-- =============================================================== writing

/-- A file is written below directories that are made for it. -/
theorem writeFile_eq_ok {node : Node}
    (h : tree.writeFile path node = .ok after) :
    ∃ made above name, tree.makeDirectories path.dropLast = (.ok (), made)
      ∧ made.parentPlace path = .ok (above, name)
      ∧ made.kindAt (above ++ [name]) ≠ some .directory
      ∧ after = made.put (above ++ [name]) node := by
  unfold writeFile at h
  split at h
  case h_1 => cases h
  case h_2 made hmade =>
    obtain ⟨⟨above, name⟩, hparent, h⟩ := bind_eq_ok_iff.mp h
    simp only at h
    split at h
    case h_1 => cases h
    case h_2 hfree =>
      injection h with h
      refine ⟨made, above, name, hmade, hparent, ?_, h.symm⟩
      rw [Ne, ← directoryAt_iff_kindAt]
      unfold directoryAt
      cases hfound : made.find? (above ++ [name]) with
      | none => simp
      | some found =>
          cases found with
          | file content readable => simp [isDirectory]
          | dangling => simp [isDirectory]
          | directory entries => exact absurd hfound (hfree entries)

/-- Writing a new file is a gain. -/
theorem gains_of_writeFile (hup : upward ∉ path)
    (hfree : tree.find? path = none) {content : Bytes} {readable : Bool}
    (h : tree.writeFile path (.file content readable) = .ok after) :
    Gains tree path after := by
  obtain ⟨made, above, name, hmade, hparent, hplace, rfl⟩ := writeFile_eq_ok h
  obtain ⟨up, rfl, hnames, hlocated, habove⟩ := parentPlace_eq_ok hparent
  -- the path leads downwards only, so the file is put where it says
  obtain rfl : above = up := by
    apply eq_append_of_locateFrom _ (locate_eq_ok_iff.mp hlocated).2
    intro hmem
    exact hup (List.mem_append_left [name] hmem)
  have hput := kindAt_put habove hplace (bare_of_isDirectory_eq_false rfl :
    (Node.file content readable).Bare)
  refine ⟨by simp [kindAt, hfree], ?_, ?_⟩
  · rw [fileAt_iff_kindAt, hput, if_pos rfl]
    exact ⟨content, readable, rfl⟩
  · intro q hq
    have hchanges :
        ChangesOnly (above ++ [name]).dropLast (fun _ => False) tree made := by
      have hall : ChangesOnly _ (fun _ => False) tree
          (tree.makeDirectories (above ++ [name]).dropLast).2 :=
        changesOnly_makeDirectories tree _
      rwa [hmade] at hall
    rw [hput, if_neg hq]
    rcases hchanges q with hsame | ⟨hnone, hdir, -⟩ | ⟨hfalse, -⟩
    · exact .inl hsame
    · exact .inr ⟨hnone, hdir⟩
    · exact hfalse.elim

-- ============================================================== removing

theorem gains_of_remove (hne : path ≠ []) (hup : upward ∉ path)
    (hfile : tree.fileAt path = true) (h : tree.remove path = .ok after) :
    Gains after path tree := by
  obtain ⟨place, hlocated, hafter⟩ := bind_eq_ok_iff.mp h
  injection hafter with hafter
  obtain rfl : place = path :=
    eq_append_of_locateFrom hup (locate_eq_ok_iff.mp hlocated).2
  obtain ⟨content, readable, hkind⟩ := fileAt_iff_kindAt.mp hfile
  have hsome : tree.kindAt place ≠ none := by
    rw [hkind]
    exact nofun
  have hfree : tree.kindAt place ≠ some .directory := by
    rw [hkind]
    exact nofun
  obtain ⟨above, name, hplace⟩ := (List.eq_nil_or_concat place).resolve_left hne
  rw [List.concat_eq_append] at hplace
  subst hplace
  have herase := kindAt_erase (kindAt_of_kindAt_append hsome) hfree
  rw [hafter] at herase
  refine ⟨by rw [herase, if_pos rfl], hfile, ?_⟩
  intro q hq
  rw [herase, if_neg hq]
  exact .inl rfl

end SourceAtlas.Node
