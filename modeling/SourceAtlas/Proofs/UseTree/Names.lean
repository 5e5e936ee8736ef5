/-
The last names of a use tree, and how they go with its full paths. Two
readings of the same text cut it into leaves on their own: one keeps the
paths in front of the lists, the other keeps the last identifier of each
leaf and knows no path at all. They see the same leaves: what the second
finds is the last identifier of what the first finds, as long as the tree
has no star, no `self` and no leaf that ends in a reserved word. Stars and
`self` have no last name of their own, so in a list they make no difference
to the second reading.

Both facts go through `Tree.named`, which says on the tree what the second
reading finds (`names_eq_named`).
-/
import SourceAtlas.Proofs.UseTree.Paths

namespace SourceAtlas.UseTree

open Text (Blank collapse)

-- ================================================================= trees

/-- The last identifier of a path. -/
def ModulePath.last (path : ModulePath) : Ident :=
  path.idents.getLast path.nonempty

/-- Whether a tree is a path with a star. -/
def Tree.isGlob : Tree → Bool
  | .glob _ => true
  | _ => false

mutual

/-- No star, no `self`, and no leaf that ends in a reserved word. -/
def Tree.Plain : Tree → Prop
  | .leaf path _ =>
      path.last.text ∉ ["self".toList, "super".toList, "crate".toList]
  | .glob _ => False
  | .group _ items => items.Plain

/-- All items are plain. -/
def Items.Plain : Items → Prop
  | .nil => True
  | .tree first rest => first.Plain ∧ rest.Plain
  | .self _ _ => False

end

mutual

/-- The tree without the stars and the `self` in its lists. -/
def Tree.bare : Tree → Tree
  | .leaf path newName => .leaf path newName
  | .glob path => .glob path
  | .group path items => .group path items.bare

/-- All items without their stars and selves. -/
def Items.bare : Items → Items
  | .nil => .nil
  | .tree first rest =>
      if first.isGlob then rest.bare else .tree first.bare rest.bare
  | .self _ rest => rest.bare

end

mutual

/-- The last identifiers of the leaves, from left to right; a star and a
reserved word name nothing of their own. -/
def Tree.named : Tree → List Text
  | .leaf path _ => if path.last.text ∈ reserved then [] else [path.last.text]
  | .glob _ => []
  | .group _ items => items.named

/-- The names that the items bring in. -/
def Items.named : Items → List Text
  | .nil => []
  | .tree first rest => first.named ++ rest.named
  | .self _ rest => rest.named

end

variable {u rename before after : Text} {segments : List Text}
  {idents : List Ident} {newName : Option Ident} {fuel : Nat}

-- ======================================================== the last segment

/-- What follows the last colons of a path is its last identifier. -/
theorem afterLast_pathText (hne : idents ≠ []) :
    Text.afterLast "::".toList (pathText idents)
      = (idents.getLast hne).text := by
  have hcolon := (idents.getLast hne).colon_not_mem
  have hsplit : idents.dropLast ++ [idents.getLast hne] = idents :=
    List.dropLast_concat_getLast hne
  have htext : pathText idents
      = aboveText idents.dropLast ++ (idents.getLast hne).text := by
    conv => lhs; rw [← hsplit]
    exact (aboveText_append_pathText _ (List.cons_ne_nil _ _)).symm
  rw [htext]
  by_cases hfirst : idents.dropLast = []
  · rw [hfirst]
    exact Text.afterLast_of_not_mem _ hcolon
  · rw [← pathText_append_colons hfirst]
    exact Text.afterLast_double_append _ hcolon

-- ============================================================ one reading

/-- A leaf brings in its last name, unless that is reserved. -/
theorem leafNames_path (path : LeafPath) :
    leafNames (pathText path.idents)
      = if path.last.text ∈ reserved then [] else [path.last.text] := by
  have hlast :
      Text.trim (Text.afterLast "::".toList (leafPath (pathText path.idents)))
        = path.last.text := by
    rw [leafPath_of_isWord (isWord_pathText path.nonempty),
      afterLast_pathText path.nonempty]
    exact Text.trim_of_tight path.last.isWord.tight
  have hempty : path.last.text.isEmpty = false := by
    simpa using path.last.nonempty
  unfold leafNames
  simp only [hlast, hempty, Bool.false_or, List.contains_iff_mem]

theorem leafNames_glob (path : LeafPath) :
    leafNames (pathText path.idents ++ "::*".toList) = [] := by
  have hlast :
      Text.afterLast "::".toList
        (leafPath (pathText path.idents ++ "::*".toList)) = "*".toList := by
    rw [leafPath_of_isWord (isWord_glob path)]
    have htext : pathText path.idents ++ "::*".toList
        = pathText path.idents ++ "::".toList ++ "*".toList := by
      rw [List.append_assoc]
      rfl
    rw [htext]
    exact Text.afterLast_double_append _ (by decide)
  unfold leafNames
  rw [hlast]
  decide

/-- Collapsing blanks beforehand does not show. -/
theorem namesWithin_collapse (fuel : Nat) (t : Text) :
    namesWithin fuel (collapse t) = namesWithin fuel t := by
  cases fuel with
  | zero => rfl
  | succ fuel => simp only [namesWithin, Text.squeeze_collapse]

theorem namesWithin_of_blank {t : Text} (h : Blank t) :
    namesWithin fuel t = [] := by
  cases fuel with
  | zero => rfl
  | succ fuel =>
      simp only [namesWithin, Text.squeeze_of_blank h]
      rfl

/-- Reading a leaf. -/
theorem namesWithin_leaf (hbefore : Blank before) (hu : IsWord u)
    (h : Renames newName rename) (hafter : Blank after) :
    namesWithin (fuel + 1) (before ++ (u ++ rename) ++ after)
      = leafNames u := by
  have hbrace : ¬ (u ++ collapse rename).contains '\x7b' = true := by
    rw [List.contains_iff_mem]
    exact brace_not_mem_leaf hu h
  simp only [namesWithin, squeeze_leaf hbefore hu h hafter]
  rw [if_neg hbrace]
  unfold leafNames
  rw [leafPath_leaf hu h, leafPath_of_isWord hu]

/-- Reading a list: what stands before the braces is left out. -/
theorem namesWithin_group (hbefore : Blank before) (hu : IsWord u)
    (hafter : Blank after) (hne : segments ≠ [])
    (hpass : ∀ segment ∈ segments.map collapse, Passes 0 segment) :
    namesWithin (fuel + 1)
        (before ++ (u ++ '\x7b' :: Text.join [','] segments ++ ['\x7d'])
          ++ after)
      = segments.flatMap (namesWithin fuel) := by
  have hbrace :
      (u ++ '\x7b' :: Text.join [','] (segments.map collapse)
        ++ ['\x7d']).contains '\x7b' = true := by
    simp
  have hitems :
      (items (Text.join [','] (segments.map collapse))).flatMap
        (namesWithin fuel) = (segments.map collapse).flatMap
        (namesWithin fuel) := by
    refine flatMap_items_join (by simpa using hne) hpass
      fun segment hblank => ?_
    exact namesWithin_of_blank (Text.trim_eq_nil_iff.mp hblank)
  simp only [namesWithin, squeeze_group hbefore hu hafter]
  rw [if_pos hbrace, inside_append hu.brace_not_mem, hitems, List.flatMap_map]
  simp only [namesWithin_collapse]

-- ============================================================ all readings

mutual

/-- The names found in a spelled tree are those it brings in. With the next
lemma this is one induction on the tree. -/
theorem Tree.Spells.namesWithin_eq :
    ∀ {t : Tree} {core : Text}, t.Spells core → ∀ {fuel : Nat}, t.depth ≤ fuel →
      ∀ {before after : Text}, Blank before → Blank after →
        namesWithin (fuel + 1) (before ++ core ++ after) = t.named
  | _, _, .leaf path h, fuel, _, before, after, hbefore, hafter => by
      rw [namesWithin_leaf hbefore (isWord_pathText path.nonempty) h hafter,
        leafNames_path]
      rfl
  | _, _, .glob path, fuel, _, before, after, hbefore, hafter => by
      have hread :
          namesWithin (fuel + 1)
            (before ++ (pathText path.idents ++ "::*".toList ++ []) ++ after)
            = _ :=
        namesWithin_leaf hbefore (isWord_glob path) Renames.kept hafter
      rw [List.append_nil] at hread
      rw [hread, leafNames_glob]
      rfl
  | .group _ items, _, .group path h hne, fuel, hfuel, before, after, hbefore,
      hafter => by
      obtain ⟨less, rfl⟩ : ∃ less, fuel = less + 1 :=
        ⟨fuel - 1, by simp only [Tree.depth] at hfuel; omega⟩
      rw [namesWithin_group hbefore (isWord_head path) hafter hne
        (h.passes_collapse (Int.le_refl 0))]
      exact h.flatMap_namesWithin (by simp only [Tree.depth] at hfuel; omega)

/-- The names found in spelled items are those they bring in. -/
theorem Items.Spells.flatMap_namesWithin :
    ∀ {items : Items} {segments : List Text}, items.Spells segments
      → ∀ {fuel : Nat},
      items.depth ≤ fuel → segments.flatMap (namesWithin (fuel + 1))
        = items.named
  | _, _, .nil, _, _ => rfl
  | _, _, .blank hblank h, _, hfuel => by
      rw [List.flatMap_cons, namesWithin_of_blank hblank, List.nil_append]
      exact h.flatMap_namesWithin hfuel
  | _, _, .tree hbefore hfirst hafter h, _, hfuel => by
      obtain ⟨hdepth, hrest⟩ := Nat.max_le.mp hfuel
      rw [List.flatMap_cons, hfirst.namesWithin_eq hdepth hbefore hafter,
        h.flatMap_namesWithin hrest]
      rfl
  | _, _, .self hbefore hrename hafter h, _, hfuel => by
      rw [List.flatMap_cons,
        namesWithin_leaf hbefore (by decide) hrename hafter,
        h.flatMap_namesWithin hfuel]
      rfl

end

/-- What reading any spelling of a tree finds. -/
theorem names_eq_named {t : Tree} {text : Text} (h : t.Written text) :
    names text = t.named := by
  obtain ⟨before, core, after, hbefore, hcore, hafter, rfl, hdepth⟩ :=
    h.exists_depth_le
  exact hcore.namesWithin_eq hdepth hbefore hafter

-- ============================================================ comparison

mutual

/-- Stars and `self` in a list have no last name of their own. -/
theorem Tree.named_bare : ∀ t : Tree, t.bare.named = t.named
  | .leaf _ _ => rfl
  | .glob _ => rfl
  | .group _ items => items.named_bare

/-- Stars and selves bring in no names. -/
theorem Items.named_bare : ∀ items : Items, items.bare.named = items.named
  | .nil => rfl
  | .tree (.glob _) rest => rest.named_bare
  | .tree (.leaf _ _) rest => congrArg (_ ++ ·) rest.named_bare
  | .tree (.group _ items) rest => by
      show items.bare.named ++ rest.bare.named = items.named ++ rest.named
      rw [items.named_bare, rest.named_bare]
  | .self _ rest => rest.named_bare

end

mutual

/-- The leaves of a plain tree end in the names that it has. -/
theorem Tree.Plain.last_leaves :
    ∀ {t : Tree}, t.Plain → ∀ ups : List Ident,
      (t.leaves ups).map (fun idents =>
        Text.afterLast "::".toList (pathText idents)) = t.named
  | .leaf path _, h, ups => by
      have hlast : Text.afterLast "::".toList (pathText (ups ++ path.idents))
          = path.last.text := by
        rw [afterLast_pathText
          (List.append_ne_nil_of_right_ne_nil ups path.nonempty),
          List.getLast_append_of_ne_nil _ path.nonempty]
        rfl
      have hstar : path.last.text ≠ "*".toList := by
        intro heq
        exact absurd (path.last.plain '*' (by rw [heq]; decide)) (by decide)
      have hreserved : path.last.text ∉ reserved := by
        intro hmem
        rcases List.mem_cons.mp hmem with heq | hmem
        · exact hstar heq
        · exact h hmem
      show [Text.afterLast "::".toList (pathText (ups ++ path.idents))] = _
      rw [hlast]
      exact (if_neg hreserved).symm
  | .group path items, h, ups => Items.Plain.last_leaves h (ups ++ path.idents)

/-- Of plain items the names are the last parts of the paths. -/
theorem Items.Plain.last_leaves :
    ∀ {items : Items}, items.Plain → ∀ ups : List Ident,
      (items.leaves ups).map
        (fun idents => Text.afterLast "::".toList (pathText idents))
        = items.named
  | .nil, _, _ => rfl
  | .tree first rest, h, ups => by
      show (first.leaves ups ++ rest.leaves ups).map _
        = first.named ++ rest.named
      rw [List.map_append, Tree.Plain.last_leaves h.1 ups,
        Items.Plain.last_leaves h.2 ups]

end

/-- The two readings of a plain use tree see the same leaves in any layout:
one finds the last segments of what the other finds, in order. Adding stars
and `self` anywhere in the lists does not change what it finds. -/
theorem readings_see_the_same_leaves {t : Tree} (hplain : t.Plain) {text : Text}
    (h : t.Written text) :
    names text = (paths [] text).map (Text.afterLast "::".toList)
      ∧ ∀ (more : Tree) (longer : Text), more.bare = t → more.Written longer →
        names longer = names text := by
  constructor
  · have hpaths : paths [] text = (t.leaves []).map pathText := by
      obtain ⟨before, core, after, hbefore, hcore, hafter, rfl, hdepth⟩ :=
        h.exists_depth_le
      exact hcore.pathsWithin_eq hdepth [] hbefore hafter
    rw [names_eq_named h, hpaths, List.map_map]
    exact (hplain.last_leaves []).symm
  · intro more longer hmore hlonger
    rw [names_eq_named hlonger, names_eq_named h, ← hmore, more.named_bare]

/-- The tree of one leaf that is left without the star and `self`. -/
def readText : Text := " std::\x7bio::\x7b Read as\n R\x7d\x7d".toList

theorem readings_see_the_same_leaves_stream :
    streamTree.bare.Plain ∧ streamTree.bare.Written readText
      ∧ paths [] readText = ["std::io::Read".toList]
      ∧ names readText = ["Read".toList]
      ∧ names streamText = ["Read".toList] := by
  have hplain : streamTree.bare.Plain := by
    show ("Read".toList ∉ ["self".toList, "super".toList, "crate".toList]
      ∧ True) ∧ True
    decide
  have hread : Renames (some (ident "R" (by decide))) " as\n R".toList :=
    .changed _ (by decide : Blank " ".toList) (by decide)
      (by decide : Blank "\n ".toList) (by decide)
  have hnone : Blank [] := by decide
  have hinner := Items.Spells.tree (by decide : Blank " ".toList)
    (.leaf (single (ident "Read" (by decide)) (by decide)) hread) hnone .nil
  have houter := Items.Spells.tree hnone
    (.group (single (ident "io" (by decide)) (by decide)).toModulePath hinner
      (List.cons_ne_nil _ _)) hnone .nil
  have hwritten : streamTree.bare.Written readText :=
    ⟨" ".toList, _, [], by decide, .group _ houter (List.cons_ne_nil _ _),
      hnone, rfl⟩
  obtain ⟨hnames, hmore⟩ := readings_see_the_same_leaves hplain hwritten
  have hpaths : paths [] readText = ["std::io::Read".toList] := by
    decide +kernel
  rw [hpaths] at hnames
  exact ⟨hplain, hwritten, hpaths, hnames,
    (hmore streamTree streamText rfl written_streamTree).trans hnames⟩

end SourceAtlas.UseTree
