/-
What a walk lists: the entries of a well-formed tree that are no
directories, under the path that leads to them, as long as every directory
on the way is entered. The induction is over the tree, with the directory
walked so far as a parameter; a walk over entries is first turned into one
walk per entry, so that only `walkNode` needs an induction.

Consumed by the theory of the survey.
-/
import SourceAtlas.Proofs.Tree.WellFormed

namespace SourceAtlas.Node

variable {enter : Text → Name → Bool}

-- =========================================================== entry paths

/-- The path of an entry is its name behind the names of its directory. -/
theorem entryPath_join {here : List Name} (h : ∀ name ∈ here, Path.IsName name)
    (name : Name) :
    entryPath (Text.join ['/'] here) name
      = Text.join ['/'] (here ++ [name]) := by
  unfold entryPath
  by_cases hhere : here = []
  · subst hhere
    rfl
  · have hne : Text.join ['/'] here ≠ [] := fun hnil =>
      hhere ((Text.join_eq_nil_iff fun n hn => (h n hn).ne_nil).mp hnil)
    rw [if_neg (by simpa using hne), Text.join_concat hhere]
    simp

/-- A walk over entries is one walk per entry. -/
theorem walkEntries_eq_flatMap (dir : Text) (entries : List (Name × Node)) :
    walkEntries enter dir entries
      = entries.flatMap fun entry => walkNode enter dir entry.1 entry.2 := by
  induction entries with
  | nil => rw [walkEntries, List.flatMap_nil]
  | cons entry rest ih =>
      obtain ⟨name, node⟩ := entry
      rw [walkEntries, ih, List.flatMap_cons]

-- ================================================================ walks

/-- Whether every directory above the last of some names, in the directory
`here`, is entered. -/
def Entered (enter : Text → Name → Bool) (here names : List Name) : Prop :=
  ∀ up name, Path.Above names up name →
    enter (Text.join ['/'] (here ++ up ++ [name])) name = true

/-- Nothing is entered on the way to an entry of the directory itself. -/
theorem entered_singleton (here : List Name) (name : Name) :
    Entered enter here [name] :=
  fun _ _ h => absurd h Path.not_above_singleton

/-- To get further down, the first directory has to be entered. -/
theorem entered_cons_iff {here rest : List Name} {name : Name}
    (hrest : rest ≠ []) :
    Entered enter here (name :: rest) ↔
      enter (Text.join ['/'] (here ++ [name])) name = true
        ∧ Entered enter (here ++ [name]) rest := by
  constructor
  · intro h
    constructor
    · have hfirst :=
        h [] name ((Path.above_cons_iff hrest).mpr (Or.inl ⟨rfl, rfl⟩))
      rwa [List.append_nil] at hfirst
    · intro up dir hup
      have hmore := h (name :: up) dir
        ((Path.above_cons_iff hrest).mpr (Or.inr ⟨up, rfl, hup⟩))
      rwa [List.append_cons here name up] at hmore
  · intro h up dir hup
    obtain ⟨hfirst, hmore⟩ := h
    rcases (Path.above_cons_iff hrest).mp hup with ⟨rfl, rfl⟩
      | ⟨more, rfl, habove⟩
    · rwa [List.append_nil]
    · rw [List.append_cons here name more]
      exact hmore more dir habove

/-- The walk of one entry that is no directory. -/
private theorem mem_walkNode_leaf {node : Node} {here : List Name} {name : Name}
    {p : Text} (hnode : node.isDirectory = false)
    (hhere : ∀ n ∈ here, Path.IsName n) :
    p ∈ walkNode enter (Text.join ['/'] here) name node ↔
      ∃ rest leaf, node.find? rest = some leaf ∧ leaf.isDirectory = false
        ∧ p = Text.join ['/'] (here ++ name :: rest)
        ∧ Entered enter here (name :: rest) := by
  have hwalk : walkNode enter (Text.join ['/'] here) name node
      = [Text.join ['/'] (here ++ [name])] := by
    rw [← entryPath_join hhere]
    cases node with
    | file => rw [walkNode]
    | dangling => rw [walkNode]
    | directory => cases hnode
  rw [hwalk, List.mem_singleton]
  constructor
  · intro hp
    exact ⟨[], node, find?_nil node, hnode, hp, entered_singleton here name⟩
  · intro h
    obtain ⟨rest, leaf, hfind, -, hp, -⟩ := h
    cases rest with
    | nil => exact hp
    | cons next more =>
        obtain ⟨entries, -, hdir, -⟩ := exists_of_find?_cons hfind
        rw [hdir] at hnode
        cases hnode

/-- The walk of one entry, in a directory reached by names. -/
theorem mem_walkNode {node : Node} {here : List Name} {name : Name} {p : Text}
    (hwf : node.wellFormed = true) (hhere : ∀ n ∈ here, Path.IsName n)
    (hname : Path.IsName name) :
    p ∈ walkNode enter (Text.join ['/'] here) name node ↔
      ∃ rest leaf, node.find? rest = some leaf ∧ leaf.isDirectory = false
        ∧ p = Text.join ['/'] (here ++ name :: rest)
        ∧ Entered enter here (name :: rest) := by
  induction node generalizing here name with
  | file content readable => exact mem_walkNode_leaf rfl hhere
  | dangling => exact mem_walkNode_leaf rfl hhere
  | directory inner ih =>
      obtain ⟨hnodup, hall⟩ := wellFormed_directory.mp hwf
      have hin : ∀ n ∈ here ++ [name], Path.IsName n := by
        intro n hn
        rcases List.mem_append.1 hn with hn | hn
        · exact hhere n hn
        · rw [List.mem_singleton.1 hn]
          exact hname
      rw [walkNode, entryPath_join hhere]
      constructor
      · intro hp
        split at hp
        case isFalse => cases hp
        case isTrue henter =>
          rw [walkEntries_eq_flatMap, List.mem_flatMap] at hp
          obtain ⟨⟨next, child⟩, hmem, hp⟩ := hp
          obtain ⟨hnext, hchild⟩ := hall _ hmem
          obtain ⟨rest, leaf, hfind, hleaf, rfl, hentered⟩ :=
            (ih _ hmem hchild hin hnext).mp hp
          refine ⟨next :: rest, leaf, ?_, hleaf, ?_, ?_⟩
          · rw [find?_directory_cons, (lookup_eq_some_iff hnodup).mpr hmem]
            exact hfind
          · rw [List.append_cons here name (next :: rest)]
          · exact (entered_cons_iff (List.cons_ne_nil _ _)).mpr
              ⟨henter, hentered⟩
      · intro h
        obtain ⟨rest, leaf, hfind, hleaf, rfl, hentered⟩ := h
        cases rest with
        | nil =>
            -- the directory itself is not listed
            rw [find?_nil] at hfind
            injection hfind with hfind
            rw [← hfind] at hleaf
            cases hleaf
        | cons next more =>
            obtain ⟨child, hlook, hfind⟩ := Option.bind_eq_some_iff.mp hfind
            have hmem := (lookup_eq_some_iff hnodup).mp hlook
            obtain ⟨hnext, hchild⟩ := hall _ hmem
            obtain ⟨henter, hentered⟩ :=
              (entered_cons_iff (List.cons_ne_nil _ _)).mp hentered
            rw [if_pos henter, walkEntries_eq_flatMap, List.mem_flatMap]
            refine ⟨(next, child), hmem, (ih _ hmem hchild hin hnext).mpr ?_⟩
            exact ⟨more, leaf, hfind,
              hleaf, by rw [List.append_cons here name], hentered⟩

/-- Whether the tree has an entry that is no directory at a path. -/
def LeafAt (tree : Node) (p : Text) : Prop :=
  ∃ leaf, tree.find? (Path.components p) = some leaf ∧ leaf.isDirectory = false

/-- The top directory is reached by no names at all. -/
private theorem isName_of_mem_nil :
    ∀ name ∈ ([] : List Name), Path.IsName name := by
  simp

/-- A walk lists the entries that are no directories, behind directories
that are entered. -/
theorem mem_walk {tree : Node} {p : Text} (hwf : tree.wellFormed = true) :
    p ∈ tree.walk enter ↔
      tree.LeafAt p ∧ Entered enter [] (Path.components p) := by
  unfold walk
  rw [walkEntries_eq_flatMap, List.mem_flatMap]
  constructor
  · intro h
    obtain ⟨⟨name, child⟩, hmem, hp⟩ := h
    cases tree with
    | file => cases hmem
    | dangling => cases hmem
    | directory entries =>
        obtain ⟨hnodup, hall⟩ := wellFormed_directory.mp hwf
        obtain ⟨hname, hchild⟩ := hall _ hmem
        obtain ⟨rest, leaf, hfind, hleaf, rfl, hentered⟩ :=
          (mem_walkNode hchild isName_of_mem_nil hname).mp hp
        rw [List.nil_append]
        -- The path listed is that of the names on the way, whose components are
        -- these names.
        have hroot : (directory entries).find? (name :: rest) = some leaf := by
          rw [find?_directory_cons, (lookup_eq_some_iff hnodup).mpr hmem]
          exact hfind
        have hc := Path.components_join_names (List.cons_ne_nil name rest)
          (isName_of_find? hwf hroot)
        unfold LeafAt
        rw [hc]
        exact ⟨⟨leaf, hroot, hleaf⟩, hentered⟩
  · intro h
    obtain ⟨⟨leaf, hfind, hleaf⟩, hentered⟩ := h
    cases hparts : Path.components p with
    | nil => exact absurd hparts (Text.split_ne_nil '/' p)
    | cons name rest =>
        rw [hparts] at hfind hentered
        obtain ⟨entries, child, rfl, hlook, hrest⟩ := exists_of_find?_cons hfind
        obtain ⟨hnodup, hall⟩ := wellFormed_directory.mp hwf
        have hmem := (lookup_eq_some_iff hnodup).mp hlook
        obtain ⟨hname, hchild⟩ := hall _ hmem
        refine ⟨(name, child), hmem,
          (mem_walkNode hchild isName_of_mem_nil hname).mpr ?_⟩
        refine ⟨rest, leaf, hrest, hleaf, ?_, hentered⟩
        rw [List.nil_append, ← hparts, Path.join_components]

end SourceAtlas.Node
