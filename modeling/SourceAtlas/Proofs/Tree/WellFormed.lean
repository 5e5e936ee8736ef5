/-
File trees as a file system gives them: every entry of a directory has a
name of its own, and names hold no slash and are neither empty nor a dot nor
a double dot. In such a tree looking a name up and finding it among the
entries are the same, so paths and entries correspond.

This is a condition on trees and no part of them: a node nests the list of its
entries, and a field of it cannot speak of their names. What changes a tree
keeps it (`Preserve`), and a theorem without it holds of every tree.

Consumed by the theory of walks.
-/
import SourceAtlas.Tree.Basic
import SourceAtlas.Proofs.Path.Components
import SourceAtlas.Proofs.Table

namespace SourceAtlas.Node

-- ============================================================= induction

/-- An entry is smaller than the directory that holds it. -/
theorem sizeOf_entry_lt {entries : List (Name × Node)} {entry : Name × Node}
    (h : entry ∈ entries) : sizeOf entry.2 < sizeOf (directory entries) := by
  have hmem := List.sizeOf_lt_of_mem h
  have hentry : sizeOf entry.2 < sizeOf entry := by
    obtain ⟨name, node⟩ := entry
    simp only [Prod.mk.sizeOf_spec]
    omega
  simp only [directory.sizeOf_spec]
  omega

/-- Induction over a tree: what holds of every entry of a directory holds of
the directory. -/
@[elab_as_elim, induction_eliminator]
theorem induct {motive : Node → Prop}
    (file : ∀ content readable, motive (file content readable))
    (dangling : motive dangling)
    (directory : ∀ entries, (∀ entry ∈ entries, motive entry.2) →
      motive (directory entries)) (node : Node) : motive node :=
  match node with
  | .file content readable => file content readable
  | .dangling => dangling
  | .directory entries =>
      directory entries fun entry _ => induct file dangling directory entry.2
termination_by sizeOf node
decreasing_by exact sizeOf_entry_lt ‹_›

-- =========================================================== well-formed

mutual

/-- Whether all names below a node are names and no directory holds two
entries of one name. -/
def wellFormed : Node → Bool
  | directory entries => wellFormedEntries entries
  | file _ _ => true
  | dangling => true

/-- `wellFormed` for each of the entries, all of different names. -/
def wellFormedEntries : List (Name × Node) → Bool
  | [] => true
  | (name, node) :: rest =>
    decide (Path.IsName name) && !(rest.map (·.1)).contains name
      && node.wellFormed && wellFormedEntries rest

end

/-- Entries are well-formed if their names are distinct and each is a name with
a well-formed node. -/
theorem wellFormedEntries_iff {entries : List (Name × Node)} :
    wellFormedEntries entries = true ↔ (entries.map (·.1)).Nodup
      ∧ ∀ entry ∈ entries, Path.IsName entry.1 ∧ entry.2.wellFormed = true := by
  induction entries with
  | nil => simp [wellFormedEntries]
  | cons entry rest ih =>
      obtain ⟨name, node⟩ := entry
      rw [wellFormedEntries, List.map_cons, List.nodup_cons,
        List.forall_mem_cons]
      simp only [Bool.and_eq_true, decide_eq_true_eq, Bool.not_eq_true', ih,
        List.contains_eq_mem, decide_eq_false_iff_not]
      constructor
      · intro h
        obtain ⟨⟨⟨hname, hfresh⟩, hnode⟩, hnodup, hrest⟩ := h
        exact ⟨⟨hfresh, hnodup⟩, ⟨hname, hnode⟩, hrest⟩
      · intro h
        obtain ⟨⟨hfresh, hnodup⟩, ⟨hname, hnode⟩, hrest⟩ := h
        exact ⟨⟨⟨hname, hfresh⟩, hnode⟩, hnodup, hrest⟩

/-- What a well-formed directory promises. -/
theorem wellFormed_directory {entries : List (Name × Node)} :
    (directory entries).wellFormed = true ↔ (entries.map (·.1)).Nodup
      ∧ ∀ entry ∈ entries, Path.IsName entry.1 ∧ entry.2.wellFormed = true := by
  rw [wellFormed]
  exact wellFormedEntries_iff

-- ============================================================= look-ups

@[simp] theorem find?_nil (tree : Node) : tree.find? [] = some tree := by
  cases tree <;> rfl

theorem find?_directory_cons (entries : List (Name × Node)) (name : Name)
    (rest : List Name) : (directory entries).find? (name :: rest)
      = (entries.lookup name).bind (·.find? rest) :=
  rfl

/-- Only directories have something below them. -/
theorem exists_of_find?_cons {tree node : Node} {name : Name} {rest : List Name}
    (h : tree.find? (name :: rest) = some node) :
    ∃ entries child, tree = directory entries ∧ entries.lookup name = some child
      ∧ child.find? rest = some node := by
  cases tree with
  | file => cases h
  | dangling => cases h
  | directory entries =>
      obtain ⟨child, hchild, hrest⟩ := Option.bind_eq_some_iff.mp h
      exact ⟨entries, child, rfl, hchild, hrest⟩

/-- A path is followed one part after the other. -/
theorem find?_append (tree : Node) (up below : List Name) :
    tree.find? (up ++ below) = (tree.find? up).bind (·.find? below) := by
  induction up generalizing tree with
  | nil => simp
  | cons name rest ih =>
      cases tree with
      | file => rfl
      | dangling => rfl
      | directory entries =>
          rw [List.cons_append, find?_directory_cons, find?_directory_cons,
            Option.bind_assoc]
          congr 1
          funext child
          exact ih child

/-- The names on the way to a node of a well-formed tree are names. -/
theorem isName_of_find? {tree node : Node} {path : List Name}
    (hwf : tree.wellFormed = true) (h : tree.find? path = some node) :
    ∀ name ∈ path, Path.IsName name := by
  induction path generalizing tree with
  | nil => simp
  | cons name rest ih =>
      obtain ⟨entries, child, rfl, hlook, hrest⟩ := exists_of_find?_cons h
      obtain ⟨hnodup, hall⟩ := wellFormed_directory.mp hwf
      obtain ⟨hname, hchild⟩ := hall _ ((lookup_eq_some_iff hnodup).mp hlook)
      intro n hn
      rcases List.mem_cons.1 hn with rfl | hn
      · exact hname
      · exact ih hchild hrest n hn

end SourceAtlas.Node
