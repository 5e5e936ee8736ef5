/-
What changing a file tree leaves behind. Each operation is first inverted:
what has to be there for it to succeed, and what the tree is then. From that
follows what it may have changed, said by one relation for all of them
(`ChangesOnly`): directories that lead along a path may be new, and files may
have been put at certain places.

- `changesOnly_makeDirectories`: making directories, whether it succeeds or
  not, makes only directories that lead to the last one.
- `ChangesOnly.trans`: what a run of changes leaves behind.

Consumed by the theory of the artifact store.
-/
import SourceAtlas.Proofs.Except
import SourceAtlas.Proofs.Tree.Kind

namespace SourceAtlas.Node

open Utf8 (Bytes)

variable {tree before between after left made : Node}
  {path place above : List Name} {name : Name} {files : List Name → Prop}

-- ============================================================= inversion

/-- The directory that holds the last name of a path is there. -/
theorem parentPlace_eq_ok (h : tree.parentPlace path = .ok (above, name)) :
    ∃ up, path = up ++ [name] ∧ areNames path = true
      ∧ tree.locate up = .ok above
      ∧ tree.kindAt above = some .directory := by
  unfold parentPlace at h
  split at h
  case h_1 => cases h
  case h_2 last hlast =>
    obtain ⟨up, rfl⟩ := List.getLast?_eq_some_iff.mp hlast
    rw [List.dropLast_concat] at h
    by_cases hnames : areNames (up ++ [last]) = true
    · simp only [hnames, Bool.not_true, Bool.false_eq_true, if_false] at h
      obtain ⟨found, hplace, h⟩ := bind_eq_ok_iff.mp h
      split at h
      case h_1 entries hfound =>
        injection h with h
        injection h with habove hname
        subst habove hname
        refine ⟨up, rfl, hnames, hplace, ?_⟩
        unfold kindAt
        rw [hfound]
        rfl
      case h_2 => cases h
      case h_3 => cases h
    · rw [Bool.not_eq_true] at hnames
      simp only [hnames, Bool.not_false, if_true] at h
      cases h

private theorem kindAt_eq_none_iff :
    tree.kindAt path = none ↔ (tree.find? path).isSome = false := by
  unfold kindAt
  cases tree.find? path <;> simp

/-- A directory is made under a free name, empty. -/
theorem makeDirectory_eq_ok (h : tree.makeDirectory path = .ok made) :
    ∃ above name, tree.parentPlace path = .ok (above, name) ∧ name ≠ upward
      ∧ tree.kindAt (above ++ [name]) = none
      ∧ made = tree.put (above ++ [name]) (directory []) := by
  unfold makeDirectory at h
  split at h
  case isTrue => cases h
  case isFalse =>
    obtain ⟨⟨above, name⟩, hparent, h⟩ := bind_eq_ok_iff.mp h
    simp only at h
    split at h
    case isTrue => cases h
    case isFalse hfree =>
      rw [Bool.or_eq_true, not_or, decide_eq_true_eq, Bool.not_eq_true] at hfree
      injection h with h
      exact ⟨above, name, hparent, hfree.1,
        kindAt_eq_none_iff.mpr hfree.2, h.symm⟩

/-- A file is created under a free name, empty. -/
theorem createFile_eq_ok (h : tree.createFile path = .ok (place, made)) :
    ∃ above name, tree.parentPlace path = .ok (above, name)
      ∧ place = above ++ [name]
      ∧ tree.kindAt (above ++ [name]) = none
      ∧ made = tree.put (above ++ [name]) (file [] true) := by
  unfold createFile at h
  obtain ⟨⟨above, name⟩, hparent, h⟩ := bind_eq_ok_iff.mp h
  simp only at h
  split at h
  case isTrue => cases h
  case isFalse hfree =>
    rw [Bool.or_eq_true, not_or, decide_eq_true_eq, Bool.not_eq_true] at hfree
    injection h with h
    injection h with hplace hmade
    exact ⟨above, name, hparent, hplace.symm,
      kindAt_eq_none_iff.mpr hfree.2, hmade.symm⟩

/-- Moving a file asks for no directory where it goes, and leaves nothing
where it was. -/
theorem rename_eq_ok {target : List Name}
    (h : tree.rename place path = .ok (target, left)) :
    ∃ above name node, tree.parentPlace path = .ok (above, name) ∧ name ≠ upward
      ∧ target = above ++ [name] ∧ tree.kindAt target ≠ some .directory
      ∧ tree.find? place = some node
      ∧ left = if place = target then tree
        else (tree.erase place).put target node := by
  unfold rename at h
  obtain ⟨⟨above, name⟩, hparent, h⟩ := bind_eq_ok_iff.mp h
  simp only at h
  split at h
  case isTrue => cases h
  case isFalse hname =>
    split at h
    case h_1 => cases h
    case h_3 => cases h
    case h_2 node hfound htarget =>
      have hfree : tree.kindAt (above ++ [name]) ≠ some .directory := by
        intro hdir
        obtain ⟨inner, hinner, hkind⟩ := Option.map_eq_some_iff.mp hdir
        cases inner with
        | file content readable => cases hkind
        | dangling => cases hkind
        | directory entries => exact htarget entries hinner
      refine ⟨above, name, node, hparent, hname, ?_⟩
      split at h
      -- A file moved to where it is stays there.
      case isTrue hsame =>
        injection h with h
        injection h with htarget hleft
        subst htarget hleft
        exact ⟨rfl, hfree, hfound, (if_pos hsame).symm⟩
      case isFalse hother =>
        injection h with h
        injection h with htarget hleft
        subst htarget hleft
        exact ⟨rfl, hfree, hfound, (if_neg hother).symm⟩

-- ======================================================= what may change

/-- The tree `after` differs from `before` only in directories that are new
and that a beginning of `path` leads to, and in readable files at places in
`files`, which were no directories. -/
def ChangesOnly (path : List Name) (files : List Name → Prop)
    (before after : Node) : Prop :=
  ∀ q, after.kindAt q = before.kindAt q
    ∨ (before.kindAt q = none ∧ after.kindAt q = some .directory
        ∧ ∃ up, up <+: path ∧ after.locate up = .ok q)
    ∨ (files q ∧ before.kindAt q ≠ some .directory
        ∧ ∃ content, after.kindAt q = some (.file content true))

namespace ChangesOnly

/-- A tree that stays as it is changes nothing. -/
theorem refl (tree : Node) : ChangesOnly path files tree tree :=
  fun _ => .inl rfl

/-- No directory goes. -/
theorem keepsDirectories (h : ChangesOnly path files before after) :
    KeepsDirectories before after := by
  intro q hq
  rcases h q with hsame | ⟨hnone, -, -⟩ | ⟨-, hnot, -⟩
  · rw [hsame, hq]
  · rw [hnone] at hq
    cases hq
  · exact absurd hq hnot

/-- Away from the places in `files`, what is no directory is as it was. -/
theorem leafAt?_eq (h : ChangesOnly path files before after) {q : List Name}
    (hq : ¬ files q) : after.leafAt? q = before.leafAt? q := by
  rw [leafAt?_eq_kindAt, leafAt?_eq_kindAt]
  rcases h q with hsame | ⟨hnone, hdir, -⟩ | ⟨hfile, -, -⟩
  · rw [hsame]
  · rw [hnone, hdir]
    rfl
  · exact absurd hfile hq

/-- A directory is old, or it is new and on the path. -/
theorem directoryAt_cases (h : ChangesOnly path files before after)
    {q : List Name} (hq : after.directoryAt q = true) :
    before.directoryAt q = true
      ∨ (before.find? q = none
        ∧ ∃ up, up <+: path ∧ after.locate up = .ok q) := by
  rw [directoryAt_iff_kindAt] at hq ⊢
  rcases h q with hsame | ⟨hnone, -, hup⟩ | ⟨-, -, content, hcontent⟩
  · exact .inl (hsame.symm.trans hq)
  · exact .inr ⟨Option.map_eq_none_iff.mp hnone, hup⟩
  · rw [hcontent] at hq
    cases hq

theorem directoryAt_of_directoryAt (h : ChangesOnly path files before after)
    {q : List Name} (hq : before.directoryAt q = true) :
    after.directoryAt q = true :=
  directoryAt_iff_kindAt.mpr
    (h.keepsDirectories q (directoryAt_iff_kindAt.mp hq))

/-- Changes are allowed further up and in more files. -/
theorem mono {path' : List Name} {files' : List Name → Prop}
    (hpath : path <+: path') (hfiles : ∀ q, files q → files' q)
    (h : ChangesOnly path files before after) :
    ChangesOnly path' files' before after := by
  intro q
  rcases h q with hsame | ⟨hnone, hdir, up, hup, hlocated⟩
    | ⟨hfile, hnot, hcontent⟩
  · exact .inl hsame
  · exact .inr (.inl ⟨hnone, hdir, up, hup.trans hpath, hlocated⟩)
  · exact .inr (.inr ⟨hfiles q hfile, hnot, hcontent⟩)

/-- One change after another. A directory made by the first is still where
its path leads after the second. -/
theorem trans (first : ChangesOnly path files before between)
    (second : ChangesOnly path files between after) :
    ChangesOnly path files before after := by
  intro q
  rcases first q with hsame | ⟨hnone, hdir, up, hup, hlocated⟩
    | ⟨hfile, hnot, content, hcontent⟩
  · rcases second q with hsame' | ⟨hnone', hdir', hup'⟩
      | ⟨hfile', hnot', hcontent'⟩
    · exact .inl (hsame'.trans hsame)
    · exact .inr (.inl ⟨hsame.symm.trans hnone', hdir', hup'⟩)
    · exact .inr (.inr ⟨hfile', hsame ▸ hnot', hcontent'⟩)
  · have hkept := second.keepsDirectories
    exact .inr (.inl ⟨hnone, hkept q hdir, up, hup,
      locate_of_keepsDirectories hkept hlocated hdir⟩)
  · rcases second q with hsame' | ⟨hnone', -, -⟩ | ⟨-, -, hcontent'⟩
    · exact .inr (.inr ⟨hfile, hnot, content, hsame'.trans hcontent⟩)
    · rw [hcontent] at hnone'
      cases hnone'
    · exact .inr (.inr ⟨hfile, hnot, hcontent'⟩)

end ChangesOnly

-- =========================================================== directories

theorem changesOnly_makeDirectory (h : tree.makeDirectory path = .ok made) :
    ChangesOnly path files tree made := by
  obtain ⟨above, name, hparent, hname, hfree, rfl⟩ := makeDirectory_eq_ok h
  obtain ⟨up, rfl, hnames, hup, habove⟩ := parentPlace_eq_ok hparent
  have hput : ∀ q, (tree.put (above ++ [name]) (directory [])).kindAt q
      = if q = above ++ [name] then some .directory else tree.kindAt q :=
    kindAt_put habove (by rw [hfree]; exact nofun) fun _ _ => rfl
  have hkept :
      KeepsDirectories tree (tree.put (above ++ [name]) (directory [])) := by
    intro q hq
    rw [hput]
    split
    case isTrue => rfl
    case isFalse => exact hq
  intro q
  rw [hput]
  split
  case isFalse => exact .inl rfl
  case isTrue hq =>
    subst hq
    refine .inr (.inl ⟨hfree, rfl, up ++ [name], List.prefix_rfl, ?_⟩)
    have hup' := locate_of_keepsDirectories hkept hup habove
    refine locate_concat hnames hname (locate_eq_ok_iff.mp hup').2 ?_
    rw [hput, if_pos rfl]
    exact nofun

/-- Making the directories of a path, the last name first: whatever the
result, only directories that lead along the path are new. -/
theorem changesOnly_makeDirectoriesUp (tree : Node) (names : List Name) :
    ChangesOnly names.reverse files tree (tree.makeDirectoriesUp names).2 := by
  induction names with
  | nil => exact .refl tree
  | cons name above ih =>
      have hstep : above.reverse <+: (name :: above).reverse := by
        rw [List.reverse_cons]
        exact List.prefix_append _ _
      rw [makeDirectoriesUp]
      split
      case h_1 made hmade => exact changesOnly_makeDirectory hmade
      case h_3 => exact .refl tree
      case h_2 =>
        -- the directory above is missing and is made first
        have hbelow := ih.mono hstep fun _ h => h
        split
        case h_2 fault between hup =>
          rw [hup] at hbelow
          exact hbelow
        case h_1 between hup =>
          rw [hup] at hbelow
          split
          case h_1 made hmade =>
              exact hbelow.trans (changesOnly_makeDirectory hmade)
          case h_2 => exact hbelow

theorem changesOnly_makeDirectories (tree : Node) (path : List Name) :
    ChangesOnly path files tree (tree.makeDirectories path).2 := by
  have h :
      ChangesOnly path.reverse.reverse files tree
        (tree.makeDirectories path).2 :=
    changesOnly_makeDirectoriesUp tree path.reverse
  rwa [List.reverse_reverse] at h

end SourceAtlas.Node
