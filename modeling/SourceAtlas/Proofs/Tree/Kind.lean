/-
A file tree as a map from paths: what is at a path, without what lies below
it (`kindAt`). Putting a file or an empty directory somewhere, and removing
one, are updates of this map at one path, as long as no directory is in the
way. Where a path leads depends on the map alone, and a path to a directory
leads to the same place as long as directories are kept.

- `leafAt?_eq_kindAt`: all but directories is known by this map.
- `kindAt_put`, `kindAt_erase`: the two updates.
- `locateFrom_of_keepsDirectories`: paths lead where they led.

Consumed by the theory of changing a tree.
-/
import SourceAtlas.Tree.Edit
import SourceAtlas.Proofs.Tree.WellFormed

namespace SourceAtlas.Node

open Utf8 (Bytes)

-- ================================================================= kinds

/-- What a node is, without what lies below it. -/
inductive Kind where
  | file (content : Bytes) (readable : Bool)
  | dangling
  | directory
  deriving DecidableEq

/-- The kind of a node. -/
def kind : Node → Kind
  | file content readable => .file content readable
  | dangling => .dangling
  | directory _ => .directory

/-- The kind of what is at a path. -/
def kindAt (tree : Node) (path : List Name) : Option Kind :=
  (tree.find? path).map kind

variable {tree before after node : Node} {path here above : List Name}
  {name : Name}

/-- A node of the kind of a directory is one. -/
theorem kind_eq_directory_iff :
    node.kind = .directory ↔ node.isDirectory = true := by
  cases node <;> simp [kind, isDirectory]

/-- What is at a path, unless that is a directory. -/
def leafAt? (tree : Node) (path : List Name) : Option Node :=
  (tree.find? path).filter fun node => !node.isDirectory

/-- The node of a kind that says all about it. -/
def Kind.leaf? : Kind → Option Node
  | .file content readable => some (.file content readable)
  | .dangling => some .dangling
  | .directory => none

/-- A node that is no directory is known by its kind. -/
theorem leafAt?_eq_kindAt (tree : Node) (path : List Name) :
    tree.leafAt? path = (tree.kindAt path).bind Kind.leaf? := by
  unfold leafAt? kindAt
  cases tree.find? path with
  | none => rfl
  | some node => cases node <;> rfl

/-- A directory is there if its kind is. -/
theorem directoryAt_iff_kindAt :
    tree.directoryAt path = true ↔ tree.kindAt path = some .directory := by
  unfold directoryAt kindAt
  cases tree.find? path with
  | none => simp
  | some node => simp [kind_eq_directory_iff]

/-- Where a directory is, it has entries. -/
theorem exists_entries_of_kindAt (h : tree.kindAt path = some .directory) :
    ∃ entries, tree.find? path = some (directory entries) := by
  obtain ⟨found, hfound, hkind⟩ := Option.map_eq_some_iff.mp h
  cases found with
  | file content readable => cases hkind
  | dangling => cases hkind
  | directory entries => exact ⟨entries, hfound⟩

theorem fileAt_iff_kindAt : tree.fileAt path = true ↔
    ∃ content readable, tree.kindAt path = some (.file content readable) := by
  unfold fileAt kindAt
  cases tree.find? path with
  | none => simp
  | some node => cases node <;> simp [kind, isFile]

/-- The empty path leads to the node itself. -/
theorem kindAt_nil (tree : Node) : tree.kindAt [] = some tree.kind := by
  unfold kindAt
  rw [find?_nil, Option.map_some]

/-- A path into a directory leads through the entry of its first name. -/
theorem kindAt_directory_cons (entries : List (Name × Node)) (name : Name)
    (rest : List Name) :
    (directory entries).kindAt (name :: rest)
      = (entries.lookup name).bind (·.kindAt rest) := by
  unfold kindAt
  rw [find?_directory_cons, Option.map_bind]
  rfl

/-- Only directories have something below them. -/
theorem kindAt_cons_of_not_directory (h : tree.kind ≠ .directory) (name : Name)
    (rest : List Name) : tree.kindAt (name :: rest) = none := by
  cases tree with
  | file content readable => rfl
  | dangling => rfl
  | directory entries => exact absurd rfl h

/-- A path is followed part by part. -/
theorem kindAt_append (tree : Node) (up below : List Name) :
    tree.kindAt (up ++ below) = (tree.find? up).bind (·.kindAt below) := by
  unfold kindAt
  rw [find?_append, Option.map_bind]
  rfl

/-- A directory above something. -/
theorem kindAt_of_kindAt_append_cons {rest : List Name}
    (h : tree.kindAt (path ++ name :: rest) ≠ none) :
    tree.kindAt path = some .directory := by
  rw [kindAt_append] at h
  unfold kindAt
  cases hfound : tree.find? path with
  | none =>
      rw [hfound] at h
      exact absurd rfl h
  | some found =>
      rw [hfound, Option.bind_some] at h
      by_cases hdir : found.kind = .directory
      · rw [Option.map_some, hdir]
      · exact absurd (kindAt_cons_of_not_directory hdir name rest) h

/-- The directory that holds something. -/
theorem kindAt_of_kindAt_append {name : Name}
    (h : tree.kindAt (path ++ [name]) ≠ none) :
    tree.kindAt path = some .directory :=
  kindAt_of_kindAt_append_cons h

-- =============================================================== updates

/-- A node without anything below it. -/
def Bare (node : Node) : Prop :=
  ∀ first rest, node.kindAt (first :: rest) = none

/-- Nothing lies below what is no directory. -/
theorem bare_of_isDirectory_eq_false (h : node.isDirectory = false) :
    node.Bare := by
  intro first rest
  refine kindAt_cons_of_not_directory ?_ first rest
  intro hdir
  rw [kind_eq_directory_iff, h] at hdir
  cases hdir

/-- Below a path without a directory there is nothing. -/
private theorem kindAt_cons_append (h : tree.kindAt [name] ≠ some .directory)
    (first : Name) (rest : List Name) :
    tree.kindAt (name :: first :: rest) = none := by
  cases tree with
  | file content readable => rfl
  | dangling => rfl
  | directory entries =>
      rw [kindAt_directory_cons] at h ⊢
      cases hchild : entries.lookup name with
      | none => rfl
      | some child =>
          rw [hchild, Option.bind_some, kindAt_nil, Ne, Option.some.injEq] at h
          exact kindAt_cons_of_not_directory h first rest

/-- The tree with other entries in the directory at a path. -/
def changeAt (change : List (Name × Node) → List (Name × Node)) :
    Node → List Name → Node
  | directory entries, [] => directory (change entries)
  | directory entries, up :: rest =>
    match entries.lookup up with
    | some inner =>
      directory (Table.putEntry up (inner.changeAt change rest) entries)
    | none => directory entries
  | other, _ => other

/-- Putting a node into a directory assigns an entry there. -/
theorem put_eq_changeAt (habove : tree.kindAt above = some .directory)
    (name : Name) (node : Node) : tree.put (above ++ [name]) node
      = tree.changeAt (Table.putEntry name node) above := by
  induction above generalizing tree with
  | nil =>
      obtain ⟨entries, hentries⟩ := exists_entries_of_kindAt habove
      rw [find?_nil, Option.some.injEq] at hentries
      subst hentries
      rw [List.nil_append, put, put, changeAt]
  | cons up rest ih =>
      cases tree with
      | file content readable => cases habove
      | dangling => cases habove
      | directory entries =>
          rw [kindAt_directory_cons] at habove
          obtain ⟨child, hchild, habove⟩ := Option.bind_eq_some_iff.mp habove
          rw [List.cons_append, put, changeAt, hchild,
            Option.getD_some, ih habove]

/-- Erasing deeper down changes the entry of the first name. -/
theorem erase_cons {entries : List (Name × Node)} {rest : List Name}
    (h : rest ≠ []) :
    (directory entries).erase (name :: rest) = match entries.lookup name with
      | some inner => directory (Table.putEntry name (inner.erase rest) entries)
      | none => directory entries := by
  cases rest with
  | nil => exact absurd rfl h
  | cons next more => rfl

/-- Removing a node drops an entry of the directory that holds it. -/
theorem erase_eq_changeAt (tree : Node) (above : List Name) (name : Name) :
    tree.erase (above ++ [name])
      = tree.changeAt (List.filter fun entry => entry.1 != name) above := by
  induction above generalizing tree with
  | nil => cases tree <;> rfl
  | cons up rest ih =>
      cases tree with
      | file content readable => rfl
      | dangling => rfl
      | directory entries =>
          rw [List.cons_append, erase_cons (by simp), changeAt]
          cases entries.lookup up with
          | none => rfl
          | some child => simp only [ih child]

/-- A change of the entries under one name, where no directory is before or
anything below it afterwards, changes what is at that path. -/
theorem kindAt_changeAt {change : List (Name × Node) → List (Name × Node)}
    {new : Option Node}
    (hchange : ∀ entries other, (change entries).lookup other = if other = name
      then new else entries.lookup other)
    (hbare : ∀ node, new = some node → node.Bare)
    (habove : tree.kindAt above = some .directory)
    (hfree : tree.kindAt (above ++ [name]) ≠ some .directory) (q : List Name) :
    (tree.changeAt change above).kindAt q
      = if q = above ++ [name] then new.map kind else tree.kindAt q := by
  -- Down to the directory nothing changes but the entry on the way.
  induction above generalizing tree q with
  | nil =>
      cases tree with
      | file content readable => cases habove
      | dangling => cases habove
      | directory entries =>
          rw [List.nil_append] at hfree ⊢
          rw [changeAt]
          cases q with
          | nil =>
              rw [if_neg (List.cons_ne_nil name []).symm, kindAt_nil,
                kindAt_nil, kind, kind]
          | cons first rest =>
              rw [kindAt_directory_cons, hchange]
              by_cases hfirst : first = name
              · rw [if_pos hfirst, hfirst]
                cases rest with
                | nil =>
                    rw [if_pos rfl]
                    cases new with
                    | none => rfl
                    | some node => exact kindAt_nil node
                | cons second more =>
                    rw [if_neg (by simp), kindAt_cons_append hfree]
                    cases new with
                    | none => rfl
                    | some node => exact hbare node rfl second more
              · rw [if_neg hfirst, if_neg (by simp [hfirst]),
                  kindAt_directory_cons]
  | cons up rest ih =>
      cases tree with
      | file content readable => cases habove
      | dangling => cases habove
      | directory entries =>
          rw [List.cons_append, kindAt_directory_cons] at hfree
          rw [kindAt_directory_cons] at habove
          obtain ⟨child, hchild, habove⟩ := Option.bind_eq_some_iff.mp habove
          rw [hchild, Option.bind_some] at hfree
          rw [List.cons_append, changeAt, hchild]
          cases q with
          | nil =>
              rw [if_neg (List.cons_ne_nil _ _).symm, kindAt_nil,
                kindAt_nil, kind, kind]
          | cons first more =>
              rw [kindAt_directory_cons, Table.lookup_putEntry,
                kindAt_directory_cons]
              by_cases hfirst : first = up
              · rw [if_pos hfirst, hfirst, Option.bind_some,
                  ih habove hfree more, hchild, Option.bind_some]
                simp
              · rw [if_neg hfirst, if_neg (by simp [hfirst])]

/-- Putting a bare node into a directory, where no directory is yet, changes
what is at that path. -/
theorem kindAt_put (habove : tree.kindAt above = some .directory)
    (hfree : tree.kindAt (above ++ [name]) ≠ some .directory)
    (hbare : node.Bare) (q : List Name) :
    (tree.put (above ++ [name]) node).kindAt q
      = if q = above ++ [name] then some node.kind else tree.kindAt q := by
  rw [put_eq_changeAt habove]
  apply kindAt_changeAt
    (fun entries other => Table.lookup_putEntry name other node entries) ?_
    habove hfree
  intro new hnew
  exact Option.some.inj hnew ▸ hbare

/-- Removing what is no directory from a directory leaves nothing at its
path. -/
theorem kindAt_erase (habove : tree.kindAt above = some .directory)
    (hfree : tree.kindAt (above ++ [name]) ≠ some .directory) (q : List Name) :
    (tree.erase (above ++ [name])).kindAt q
      = if q = above ++ [name] then none else tree.kindAt q := by
  rw [erase_eq_changeAt]
  apply kindAt_changeAt
    (fun entries other => lookup_filter_ne entries name other) ?_ habove hfree
  intro new hnew
  cases hnew

-- ============================================================== locating

/-- One step of locating: the directory that it starts from leads upwards, or
to an entry that it has. -/
theorem locateFrom_cons (tree : Node) (here : List Name) (name : Name)
    (rest : List Name) :
    tree.locateFrom here (name :: rest) =
      match tree.kindAt here with
      | some .directory =>
        if name = upward then tree.locateFrom here.dropLast rest
        else if (tree.kindAt (here ++ [name])).isSome
          then tree.locateFrom (here ++ [name]) rest
        else .error .notFound
      | some (.file _ _) => .error .notDirectory
      | _ => .error .notFound := by
  have hchild : tree.kindAt (here ++ [name])
      = (tree.find? here).bind (·.kindAt [name]) :=
    kindAt_append tree here [name]
  rw [locateFrom, hchild]
  unfold kindAt
  cases tree.find? here with
  | none => rfl
  | some node =>
      cases node with
      | file content readable => rfl
      | dangling => rfl
      | directory entries =>
          -- The kind of a child is there exactly if its entry is.
          have hlook : ((directory entries).kindAt [name]).isSome
              = (entries.lookup name).isSome := by
            rw [kindAt_directory_cons]
            cases entries.lookup name with
            | none => rfl
            | some child => rw [Option.bind_some, kindAt_nil]; rfl
          unfold kindAt at hlook
          simp only [Option.bind_some, hlook, Option.map_some, kind]

/-- A path is located part by part. -/
theorem locateFrom_append (tree : Node) (here first rest : List Name) :
    tree.locateFrom here (first ++ rest)
      = tree.locateFrom here first >>= fun place =>
        tree.locateFrom place rest := by
  induction first generalizing here with
  | nil => rfl
  | cons name more ih =>
      rw [List.cons_append, locateFrom_cons, locateFrom_cons]
      cases tree.kindAt here with
      | none => rfl
      | some k =>
          cases k with
          | file content readable => rfl
          | dangling => rfl
          | directory =>
              by_cases hup : name = upward
              · simp only [if_pos hup]
                exact ih here.dropLast
              · simp only [if_neg hup]
                split
                · exact ih (here ++ [name])
                · rfl

/-- A path that leads to a directory starts from one. -/
theorem kindAt_of_locateFrom {place : List Name}
    (h : tree.locateFrom here path = .ok place)
    (hplace : tree.kindAt place = some .directory) :
    tree.kindAt here = some .directory := by
  cases path with
  | nil =>
      injection h with h
      rw [h]
      exact hplace
  | cons name rest =>
      rw [locateFrom_cons] at h
      split at h
      case h_1 hdir => exact hdir
      case h_2 => cases h
      case h_3 => cases h

/-- Names that lead downwards are followed as they are. -/
theorem eq_append_of_locateFrom {place : List Name} (hup : upward ∉ path)
    (h : tree.locateFrom here path = .ok place) : place = here ++ path := by
  induction path generalizing here with
  | nil =>
      injection h with h
      rw [← h, List.append_nil]
  | cons name rest ih =>
      rw [List.mem_cons, not_or] at hup
      rw [locateFrom_cons] at h
      split at h
      case h_1 =>
        rw [if_neg (Ne.symm hup.1)] at h
        split at h
        case isTrue =>
          rw [ih hup.2 h]
          simp
        case isFalse => cases h
      case h_2 => cases h
      case h_3 => cases h

/-- What was a directory is one. -/
def KeepsDirectories (before after : Node) : Prop :=
  ∀ q, before.kindAt q = some .directory → after.kindAt q = some .directory

/-- While directories are kept, paths to them lead where they led. -/
theorem locateFrom_of_keepsDirectories (h : KeepsDirectories before after)
    {place : List Name} (hlocated : before.locateFrom here path = .ok place)
    (hplace : before.kindAt place = some .directory) :
    after.locateFrom here path = .ok place := by
  induction path generalizing here with
  | nil => exact hlocated
  | cons name rest ih =>
      have hhere := kindAt_of_locateFrom hlocated hplace
      rw [locateFrom_cons, hhere] at hlocated
      rw [locateFrom_cons, h here hhere]
      simp only at hlocated ⊢
      split at hlocated
      case isTrue hup =>
        rw [if_pos hup]
        exact ih hlocated
      case isFalse hup =>
        rw [if_neg hup]
        split at hlocated
        case isFalse => cases hlocated
        case isTrue =>
          -- the entry is on the way to a directory, so it is one itself
          have hentry := h _ (kindAt_of_locateFrom hlocated hplace)
          rw [if_pos (Option.isSome_of_eq_some hentry)]
          exact ih hlocated

/-- A path is located if it is made of names that lead somewhere. -/
theorem locate_eq_ok_iff {place : List Name} :
    tree.locate path = .ok place
      ↔ areNames path = true ∧ tree.locateFrom [] path = .ok place := by
  unfold locate
  split
  · next h => simp [h]
  · next h => simp [h]

/-- A directory that is kept is found at its place. -/
theorem locate_of_keepsDirectories (h : KeepsDirectories before after)
    {place : List Name} (hlocated : before.locate path = .ok place)
    (hplace : before.kindAt place = some .directory) :
    after.locate path = .ok place := by
  obtain ⟨hnames, hlocated⟩ := locate_eq_ok_iff.mp hlocated
  exact locate_eq_ok_iff.mpr
    ⟨hnames, locateFrom_of_keepsDirectories h hlocated hplace⟩

/-- The place of an entry of a directory that a path leads to. -/
theorem locate_concat (hnames : areNames (path ++ [name]) = true)
    (hname : name ≠ upward) (hplace : tree.locateFrom [] path = .ok here)
    (hthere : tree.kindAt (here ++ [name]) ≠ none) :
    tree.locate (path ++ [name]) = .ok (here ++ [name]) := by
  refine locate_eq_ok_iff.mpr ⟨hnames, ?_⟩
  rw [locateFrom_append, hplace]
  show tree.locateFrom here [name] = _
  rw [locateFrom_cons, kindAt_of_kindAt_append hthere]
  simp only
  rw [if_neg hname, if_pos (Option.isSome_iff_ne_none.mpr hthere)]
  rfl

end SourceAtlas.Node
