/-
Changing a well-formed tree leaves a well-formed one. Everything that changes
a tree puts a node somewhere or removes one (`wellFormed_put`,
`wellFormed_erase`); putting asks for names on the way, and these are there:
the names above are those of a directory that the path was found to lead to,
and the last one is part of the path, where it is a name or leads upwards
(`CanFollow`).

Consumed by the theory of the artifact store.
-/
import SourceAtlas.Proofs.Tree.Edit

namespace SourceAtlas.Node

open Utf8 (Bytes)

variable {tree node made left : Node} {path place above : List Name}
  {name : Name}

-- ============================================================ two updates

/-- What is found in a well-formed tree is well-formed. -/
theorem wellFormed_of_find? (hwf : tree.wellFormed = true)
    (h : tree.find? path = some node) : node.wellFormed = true := by
  induction path generalizing tree with
  | nil =>
      rw [find?_nil, Option.some_inj] at h
      rwa [← h]
  | cons name rest ih =>
      obtain ⟨entries, child, rfl, hlook, hrest⟩ := exists_of_find?_cons h
      obtain ⟨hnodup, hall⟩ := wellFormed_directory.mp hwf
      exact ih (hall _ ((lookup_eq_some_iff hnodup).mp hlook)).2 hrest

/-- A named, well-formed entry keeps a directory well-formed. -/
theorem wellFormed_putEntry {entries : List (Name × Node)}
    (hwf : (directory entries).wellFormed = true) (hname : Path.IsName name)
    (hnode : node.wellFormed = true) :
    (directory (Table.putEntry name node entries)).wellFormed = true := by
  obtain ⟨hnodup, hall⟩ := wellFormed_directory.mp hwf
  have hdistinct := Table.nodup_putEntry hnodup name node
  refine wellFormed_directory.mpr ⟨hdistinct, ?_⟩
  intro entry hmem
  have hget := (lookup_eq_some_iff hdistinct).mpr hmem
  rw [Table.lookup_putEntry] at hget
  split at hget
  case isTrue hother =>
    rw [Option.some_inj] at hget
    rw [hother, ← hget]
    exact ⟨hname, hnode⟩
  case isFalse => exact hall _ ((lookup_eq_some_iff hnodup).mp hget)

/-- Putting a well-formed node at names keeps a tree well-formed. -/
theorem wellFormed_put (hwf : tree.wellFormed = true)
    (hnode : node.wellFormed = true) (hpath : ∀ name ∈ path, Path.IsName name) :
    (tree.put path node).wellFormed = true := by
  induction path generalizing tree with
  | nil =>
      rw [put]
      exact hnode
  | cons name rest ih =>
      cases tree with
      | file content readable => rfl
      | dangling => rfl
      | directory entries =>
          rw [List.forall_mem_cons] at hpath
          obtain ⟨hnodup, hall⟩ := wellFormed_directory.mp hwf
          have hinner : ((entries.lookup name).getD (directory [])).wellFormed
              = true := by
            cases hlook : entries.lookup name with
            | none => rfl
            | some child =>
                exact (hall _ ((lookup_eq_some_iff hnodup).mp hlook)).2
          exact wellFormed_putEntry hwf hpath.1 (ih hinner hpath.2)

theorem wellFormed_filter {entries : List (Name × Node)}
    (hwf : (directory entries).wellFormed = true) (keep : Name × Node → Bool) :
    (directory (entries.filter keep)).wellFormed = true := by
  obtain ⟨hnodup, hall⟩ := wellFormed_directory.mp hwf
  refine wellFormed_directory.mpr ⟨?_, ?_⟩
  · exact hnodup.sublist (List.filter_sublist.map _)
  · intro entry hentry
    exact hall entry (List.mem_filter.mp hentry).1

theorem wellFormed_erase (hwf : tree.wellFormed = true) (path : List Name) :
    (tree.erase path).wellFormed = true := by
  induction path generalizing tree with
  | nil => cases tree <;> exact hwf
  | cons name rest ih =>
      cases tree with
      | file content readable => rfl
      | dangling => rfl
      | directory entries =>
          cases rest with
          | nil => exact wellFormed_filter hwf _
          | cons next more =>
              rw [erase_cons (List.cons_ne_nil next more)]
              obtain ⟨hnodup, hall⟩ := wellFormed_directory.mp hwf
              cases hlook : entries.lookup name with
              | none => exact hwf
              | some child =>
                  obtain ⟨hname, hchild⟩ :=
                    hall _ ((lookup_eq_some_iff hnodup).mp hlook)
                  exact wellFormed_putEntry hwf hname (ih hchild)

-- ============================================================ operations

/-- What can be followed: the name of an entry, or the one that leads
upwards. -/
def CanFollow (name : Name) : Prop := name = upward ∨ Path.IsName name

/-- A path that leads somewhere is made of names. -/
theorem isName_of_kindAt (hwf : tree.wellFormed = true)
    (h : tree.kindAt path ≠ none) : ∀ name ∈ path, Path.IsName name := by
  cases hfound : tree.find? path with
  | none => simp [kindAt, hfound] at h
  | some node => exact isName_of_find? hwf hfound

/-- The entry that an operation makes has names on the way and a name. -/
theorem isName_of_parentPlace (hwf : tree.wellFormed = true)
    (h : tree.parentPlace path = .ok (above, name)) (hname : Path.IsName name) :
    ∀ part ∈ above ++ [name], Path.IsName part := by
  obtain ⟨-, -, -, -, habove⟩ := parentPlace_eq_ok h
  intro part hpart
  rcases List.mem_append.1 hpart with hpart | hpart
  · exact isName_of_kindAt hwf (by rw [habove]; exact nofun) part hpart
  · rw [List.mem_singleton.1 hpart]
    exact hname

/-- Making a directory keeps a tree well-formed. -/
theorem wellFormed_makeDirectory (hwf : tree.wellFormed = true)
    (hpath : ∀ name ∈ path, CanFollow name)
    (h : tree.makeDirectory path = .ok made) : made.wellFormed = true := by
  obtain ⟨above, name, hparent, hup, -, rfl⟩ := makeDirectory_eq_ok h
  obtain ⟨up, rfl, -⟩ := parentPlace_eq_ok hparent
  have hname := (hpath name (by simp)).resolve_left hup
  exact wellFormed_put hwf rfl (isName_of_parentPlace hwf hparent hname)

theorem wellFormed_makeDirectoriesUp (hwf : tree.wellFormed = true)
    {names : List Name} (hnames : ∀ name ∈ names, CanFollow name) :
    (tree.makeDirectoriesUp names).2.wellFormed = true := by
  induction names with
  | nil => exact hwf
  | cons name above ih =>
      have hpath : ∀ part ∈ (name :: above).reverse, CanFollow part := by
        intro part hpart
        exact hnames part (List.mem_reverse.1 hpart)
      rw [List.forall_mem_cons] at hnames
      have hbelow := ih hnames.2
      rw [makeDirectoriesUp]
      split
      case h_1 made hmade => exact wellFormed_makeDirectory hwf hpath hmade
      case h_3 => exact hwf
      case h_2 =>
        split
        case h_2 fault between hup =>
          rw [hup] at hbelow
          exact hbelow
        case h_1 between hup =>
          rw [hup] at hbelow
          split
          case h_1 made hmade =>
              exact wellFormed_makeDirectory hbelow hpath hmade
          case h_2 => exact hbelow

theorem wellFormed_makeDirectories (hwf : tree.wellFormed = true)
    (hpath : ∀ name ∈ path, CanFollow name) :
    (tree.makeDirectories path).2.wellFormed = true := by
  apply wellFormed_makeDirectoriesUp hwf
  intro name hname
  exact hpath name (List.mem_reverse.1 hname)

theorem wellFormed_createFile {up : List Name} (hwf : tree.wellFormed = true)
    (hname : Path.IsName name)
    (h : tree.createFile (up ++ [name]) = .ok (place, made)) :
    made.wellFormed = true := by
  obtain ⟨above, last, hparent, -, -, rfl⟩ := createFile_eq_ok h
  obtain ⟨up', hpath, -⟩ := parentPlace_eq_ok hparent
  obtain ⟨-, hlast⟩ := List.append_inj' hpath rfl
  obtain rfl : name = last := List.singleton_inj.mp hlast
  exact wellFormed_put hwf rfl (isName_of_parentPlace hwf hparent hname)

theorem wellFormed_rename {up target : List Name} (hwf : tree.wellFormed = true)
    (hname : Path.IsName name)
    (h : tree.rename place (up ++ [name]) = .ok (target, left)) :
    left.wellFormed = true := by
  obtain ⟨above, last, node, hparent, -, rfl, -, hnode, hleft⟩ := rename_eq_ok h
  obtain ⟨up', hpath, -⟩ := parentPlace_eq_ok hparent
  obtain ⟨-, hlast⟩ := List.append_inj' hpath rfl
  obtain rfl : name = last := List.singleton_inj.mp hlast
  split at hleft
  case isTrue => rwa [hleft]
  case isFalse =>
    rw [hleft]
    exact wellFormed_put (wellFormed_erase hwf place)
      (wellFormed_of_find? hwf hnode) (isName_of_parentPlace hwf hparent hname)

-- ============================================================== following

/-- A path that leads somewhere in a well-formed tree can be followed. -/
theorem canFollow_of_locateFrom {here : List Name}
    (hwf : tree.wellFormed = true) (h : tree.locateFrom here path = .ok place) :
    ∀ name ∈ path, CanFollow name := by
  induction path generalizing here with
  | nil => simp
  | cons name rest ih =>
      rw [locateFrom_cons] at h
      rw [List.forall_mem_cons]
      split at h
      case h_1 =>
        split at h
        case isTrue hup => exact ⟨.inl hup, ih h⟩
        case isFalse hup =>
          split at h
          case isTrue hthere =>
            have hname :=
              isName_of_kindAt hwf (Option.isSome_iff_ne_none.mp hthere)
                name (by simp)
            exact ⟨.inr hname, ih h⟩
          case isFalse => cases h
      case h_2 => cases h
      case h_3 => cases h

end SourceAtlas.Node
