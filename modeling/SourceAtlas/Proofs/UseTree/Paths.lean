/-
The full paths of a use tree. What a tree names is said on identifiers: a
leaf names its path below the paths in front of the lists around it, under
whatever new name and with or without a star, and `self` names the path in
front of its list (`Tree.leaves`). Reading any spelling of the tree gives
just these paths, from left to right.

One step of the reading is taken apart once for each form of a text, a leaf
(`pathsWithin_leaf`) and a list (`pathsWithin_group`); the rest is an
induction over the spelling, with the depth of the tree as what bounds the
steps.

Consumed by the comparison with the other reading.
-/
import SourceAtlas.Proofs.UseTree.Grammar

namespace SourceAtlas.UseTree

open Text (Blank collapse)

-- ================================================================ leaves

mutual

/-- What a tree names below some identifiers, from left to right. -/
def Tree.leaves : Tree → List Ident → List (List Ident)
  | .leaf path _, above => [above ++ path.idents]
  | .glob path, above => [above ++ path.idents]
  | .group path items, above => items.leaves (above ++ path.idents)

/-- What the items of a list name. -/
def Items.leaves : Items → List Ident → List (List Ident)
  | .nil, _ => []
  | .tree first rest, above => first.leaves above ++ rest.leaves above
  | .self _ rest, above => above :: rest.leaves above

end

variable {u rename before after above : Text} {segments : List Text}
  {idents ups : List Ident} {newName : Option Ident} {fuel : Nat}

-- ========================================================== paths as text

/-- A path goes on behind a double colon. -/
theorem pathText_cons (i : Ident) (hne : idents ≠ []) :
    pathText (i :: idents) = i.text ++ "::".toList ++ pathText idents := by
  obtain ⟨j, rest, rfl⟩ := List.exists_cons_of_ne_nil hne
  rfl

/-- A path in front of another one. -/
theorem aboveText_append_pathText (ups : List Ident) (hne : idents ≠ []) :
    aboveText ups ++ pathText idents = pathText (ups ++ idents) := by
  induction ups with
  | nil => rfl
  | cons i rest ih =>
      rw [List.cons_append,
        pathText_cons i (List.append_ne_nil_of_right_ne_nil rest hne), ← ih]
      unfold aboveText
      rw [List.flatMap_cons]
      simp only [List.append_assoc]

/-- A path with its closing colons is what stands in front of a path. -/
theorem pathText_append_colons (hne : ups ≠ []) :
    pathText ups ++ "::".toList = aboveText ups := by
  have hsplit : ups.dropLast ++ [ups.getLast hne] = ups :=
    List.dropLast_concat_getLast hne
  rw [← hsplit, ← aboveText_append_pathText _ (List.cons_ne_nil _ _),
    List.append_assoc]
  unfold aboveText
  rw [List.flatMap_append, List.flatMap_singleton]
  rfl

/-- Without its closing colons it is the path again. -/
theorem trimEnd_aboveText (hne : ups ≠ []) :
    Text.trimEnd (· == ':') (aboveText ups) = pathText ups := by
  -- the last character of a path belongs to an identifier
  obtain ⟨rest, c, hlast, hc⟩ : ∃ rest c, pathText ups = rest ++ [c]
      ∧ c ≠ ':' := by
    have hsplit : ups.dropLast ++ [ups.getLast hne] = ups :=
      List.dropLast_concat_getLast hne
    have htext := (ups.getLast hne).nonempty
    refine ⟨aboveText ups.dropLast ++ (ups.getLast hne).text.dropLast,
      (ups.getLast hne).text.getLast htext, ?_, ?_⟩
    · conv => lhs; rw [← hsplit]
      rw [← aboveText_append_pathText _ (List.cons_ne_nil _ _),
        List.append_assoc, List.dropLast_concat_getLast htext]
      rfl
    · intro heq
      exact (ups.getLast hne).colon_not_mem (heq ▸ List.getLast_mem htext)
  rw [← pathText_append_colons hne, hlast]
  simp [Text.trimEnd, hc]

/-- Only the identifier `self` alone is written as `self`. -/
theorem LeafPath.pathText_ne_self (path : LeafPath) :
    pathText path.idents ≠ "self".toList := by
  intro heq
  obtain ⟨⟨idents, hne⟩, hself⟩ := path
  obtain ⟨i, rest, rfl⟩ := List.exists_cons_of_ne_nil hne
  cases rest with
  | nil => exact hself (congrArg (fun text => [text]) heq)
  | cons j more =>
      have hcolon : ':' ∈ pathText (i :: j :: more) := by
        rw [pathText_cons i (List.cons_ne_nil j more)]
        simp
      rw [heq] at hcolon
      exact absurd hcolon (by decide)

-- ============================================================ one reading

/-- A leaf stands for its path below what lies above. -/
theorem leafPaths_path (path : LeafPath) (above : Text) :
    leafPaths above (pathText path.idents)
      = [above ++ pathText path.idents] := by
  have hword := isWord_pathText path.nonempty
  have hstar : "::*".toList.isSuffixOf (pathText path.idents) = false := by
    rw [← Bool.not_eq_true, List.isSuffixOf_iff_suffix]
    intro hsuffix
    exact star_not_mem_pathText (hsuffix.mem (by decide))
  unfold leafPaths
  simp only [leafPath_of_isWord hword, hstar]
  rw [if_neg Bool.false_ne_true, if_neg path.pathText_ne_self,
    if_neg (by simpa using hword.nonempty)]

/-- A star stands for the path before it. -/
theorem leafPaths_glob (path : LeafPath) (above : Text) :
    leafPaths above (pathText path.idents ++ "::*".toList)
      = [above ++ pathText path.idents] := by
  have hstar : "::*".toList.isSuffixOf (pathText path.idents ++ "::*".toList)
      = true := by
    rw [List.isSuffixOf_iff_suffix]
    exact List.suffix_append _ _
  have htake :
      (pathText path.idents ++ "::*".toList).take
        ((pathText path.idents ++ "::*".toList).length - 3)
        = pathText path.idents := by
    simp
  unfold leafPaths
  simp only [leafPath_of_isWord (isWord_glob path), hstar, if_true, htake]
  rw [if_neg path.pathText_ne_self,
    if_neg (by simpa using (isWord_pathText path.nonempty).nonempty)]

/-- `self` stands for the path above it. -/
theorem leafPaths_self (hne : ups ≠ []) :
    leafPaths (aboveText ups) "self".toList = [pathText ups] := by
  have habove : (aboveText ups).isEmpty = false := by
    rw [← pathText_append_colons hne]
    simp
  have hself : leafPath "self".toList = "self".toList :=
    leafPath_of_isWord (by decide)
  have hstar : "::*".toList.isSuffixOf "self".toList = false := by decide
  unfold leafPaths
  simp only [hself, hstar, habove]
  rw [if_neg Bool.false_ne_true, if_pos rfl, if_neg Bool.false_ne_true,
    trimEnd_aboveText hne]

/-- Collapsing blanks beforehand does not show. -/
theorem pathsWithin_collapse (fuel : Nat) (above t : Text) :
    pathsWithin fuel above (collapse t) = pathsWithin fuel above t := by
  cases fuel with
  | zero => rfl
  | succ fuel => simp only [pathsWithin, Text.squeeze_collapse]

theorem pathsWithin_of_blank {t : Text} (h : Blank t) :
    pathsWithin fuel above t = [] := by
  cases fuel with
  | zero => rfl
  | succ fuel =>
      simp only [pathsWithin, Text.squeeze_of_blank h]
      rfl

/-- Reading a leaf. -/
theorem pathsWithin_leaf (hbefore : Blank before) (hu : IsWord u)
    (h : Renames newName rename) (hafter : Blank after) :
    pathsWithin (fuel + 1) above (before ++ (u ++ rename) ++ after)
      = leafPaths above u := by
  have hbrace : ¬ (u ++ collapse rename).contains '\x7b' = true := by
    rw [List.contains_iff_mem]
    exact brace_not_mem_leaf hu h
  simp only [pathsWithin, squeeze_leaf hbefore hu h hafter]
  rw [if_neg hbrace]
  unfold leafPaths
  rw [leafPath_leaf hu h, leafPath_of_isWord hu]

/-- Reading a list: every item is read below what stands before the
braces. -/
theorem pathsWithin_group (hbefore : Blank before) (hu : IsWord u)
    (hafter : Blank after) (hne : segments ≠ [])
    (hpass : ∀ segment ∈ segments.map collapse, Passes 0 segment) :
    pathsWithin (fuel + 1) above
        (before ++ (u ++ '\x7b' :: Text.join [','] segments ++ ['\x7d'])
          ++ after)
      = segments.flatMap (pathsWithin fuel (above ++ u)) := by
  have hbrace :
      (u ++ '\x7b' :: Text.join [','] (segments.map collapse)
        ++ ['\x7d']).contains '\x7b' = true := by
    simp
  have hhead :
      head (u ++ '\x7b' :: Text.join [','] (segments.map collapse) ++ ['\x7d'])
        = u := by
    rw [List.append_assoc]
    exact head_append hu.brace_not_mem _
  -- blank items are dropped, but nothing would be found in them
  have hitems :
      ((pieces 0 [] (Text.join [','] (segments.map collapse) ++ [','])).1.filter
        fun item => !(Text.trim item).isEmpty).flatMap
        (pathsWithin fuel (above ++ u))
        = (segments.map collapse).flatMap (pathsWithin fuel (above ++ u)) := by
    refine flatMap_pieces_join (by simpa using hne) hpass
      fun segment hblank => ?_
    exact pathsWithin_of_blank (Text.trim_eq_nil_iff.mp hblank)
  simp only [pathsWithin, squeeze_group hbefore hu hafter]
  rw [if_pos hbrace, inside_append hu.brace_not_mem, hhead, hitems,
    List.flatMap_map]
  simp only [pathsWithin_collapse]

-- ============================================================ all readings

mutual

/-- A tree is read in as many steps as lists lie inside each other. -/
theorem Tree.Spells.pathsWithin_eq :
    ∀ {t : Tree} {core : Text}, t.Spells core → ∀ {fuel : Nat}, t.depth ≤ fuel →
      ∀ (ups : List Ident) {before after : Text}, Blank before → Blank after →
        pathsWithin (fuel + 1) (aboveText ups) (before ++ core ++ after)
          = (t.leaves ups).map pathText
  | _, _, .leaf path h, fuel, _, ups, before, after, hbefore, hafter => by
      rw [pathsWithin_leaf hbefore (isWord_pathText path.nonempty) h hafter,
        leafPaths_path, aboveText_append_pathText ups path.nonempty]
      rfl
  | _, _, .glob path, fuel, _, ups, before, after, hbefore, hafter => by
      have hread :
          pathsWithin (fuel + 1) (aboveText ups)
            (before ++ (pathText path.idents ++ "::*".toList ++ []) ++ after)
            = _ :=
        pathsWithin_leaf hbefore (isWord_glob path) Renames.kept hafter
      rw [List.append_nil] at hread
      rw [hread, leafPaths_glob, aboveText_append_pathText ups path.nonempty]
      rfl
  | .group _ items, _, .group path h hne, fuel, hfuel, ups, before, after,
      hbefore, hafter => by
      obtain ⟨less, rfl⟩ : ∃ less, fuel = less + 1 :=
        ⟨fuel - 1, by simp only [Tree.depth] at hfuel; omega⟩
      -- The items of a group are read below the path before it.
      have hups : aboveText ups ++ (pathText path.idents ++ "::".toList)
          = aboveText (ups ++ path.idents) := by
        rw [pathText_append_colons path.nonempty]
        exact List.flatMap_append.symm
      rw [pathsWithin_group hbefore (isWord_head path) hafter hne
        (h.passes_collapse (Int.le_refl 0)), hups]
      exact h.flatMap_pathsWithin (by simp only [Tree.depth] at hfuel; omega)
        (List.append_ne_nil_of_right_ne_nil ups path.nonempty)

/-- The items of a list are read one after the other. -/
theorem Items.Spells.flatMap_pathsWithin :
    ∀ {items : Items} {segments : List Text}, items.Spells segments
      → ∀ {fuel : Nat},
      items.depth ≤ fuel → ∀ {ups : List Ident}, ups ≠ [] →
        segments.flatMap (pathsWithin (fuel + 1) (aboveText ups))
          = (items.leaves ups).map pathText
  | _, _, .nil, _, _, _, _ => rfl
  | _, _, .blank hblank h, _, hfuel, _, hne => by
      rw [List.flatMap_cons, pathsWithin_of_blank hblank, List.nil_append]
      exact h.flatMap_pathsWithin hfuel hne
  | _, _, .tree hbefore hfirst hafter h, _, hfuel, ups, hne => by
      obtain ⟨hdepth, hrest⟩ := Nat.max_le.mp hfuel
      rw [List.flatMap_cons, hfirst.pathsWithin_eq hdepth ups hbefore hafter,
        h.flatMap_pathsWithin hrest hne, ← List.map_append]
      rfl
  | _, _, .self hbefore hrename hafter h, _, hfuel, ups, hne => by
      rw [List.flatMap_cons,
        pathsWithin_leaf hbefore (by decide) hrename hafter, leafPaths_self hne,
        h.flatMap_pathsWithin hfuel hne]
      rfl

end

/-- Reading a use tree, in any layout and below any path, gives the full
paths of its leaves from left to right: without new names and stars, and
with `self` for the path in front of its list. -/
theorem paths_are_the_leaves {t : Tree} {text : Text} (h : t.Written text)
    (ups : List Ident) :
    paths (aboveText ups) text = (t.leaves ups).map pathText := by
  obtain ⟨before, core, after, hbefore, hcore, hafter, rfl, hdepth⟩ :=
    h.exists_depth_le
  exact hcore.pathsWithin_eq hdepth ups hbefore hafter

/-- An identifier of a closed text. -/
def ident (name : String)
    (h : name.toList ≠ [] ∧ name.toList.all isIdentChar = true) : Ident :=
  ⟨name.toList, h.1, List.all_eq_true.mp h.2⟩

/-- The path of one identifier that is not `self`. -/
def single (i : Ident) (h : i.text ≠ "self".toList) : LeafPath :=
  ⟨⟨[i], List.cons_ne_nil i []⟩, fun heq => h (List.cons.inj heq).1⟩

/-- A tree with a list inside a list, new names, a star and `self`. -/
def streamTree : Tree :=
  .group (single (ident "std" (by decide)) (by decide)).toModulePath
    (.tree (.group (single (ident "io" (by decide)) (by decide)).toModulePath
      (.self (some (ident "sio" (by decide)))
        (.tree (.leaf (single (ident "Read" (by decide)) (by decide))
          (some (ident "R" (by decide)))) .nil)))
    (.tree (.glob (single (ident "fmt" (by decide)) (by decide))) .nil))

/-- The tree over three lines, with a comma after the last item of each
list. -/
def streamText : Text :=
  "std::\x7b\n\tio::\x7bself as sio, Read\tas  R,\x7d,\n fmt::*, \x7d".toList

theorem written_streamTree : streamTree.Written streamText := by
  have hself : Renames (some (ident "sio" (by decide))) " as sio".toList :=
    .changed _ (by decide : Blank " ".toList) (by decide)
      (by decide : Blank " ".toList) (by decide)
  have hread : Renames (some (ident "R" (by decide))) "\tas  R".toList :=
    .changed _ (by decide : Blank "\t".toList) (by decide)
      (by decide : Blank "  ".toList) (by decide)
  have hnone : Blank [] := by decide
  have hinner :=
    Items.Spells.self hnone hself hnone
      (.tree (by decide : Blank " ".toList)
        (.leaf (single (ident "Read" (by decide)) (by decide)) hread) hnone
        (.blank hnone .nil))
  have houter := Items.Spells.tree (by decide : Blank "\n\t".toList)
    (.group (single (ident "io" (by decide)) (by decide)).toModulePath hinner
      (List.cons_ne_nil _ _)) hnone
    (.tree (by decide : Blank "\n ".toList)
      (.glob (single (ident "fmt" (by decide)) (by decide)))
      hnone (.blank (by decide : Blank " ".toList) .nil))
  exact ⟨[], _, [], hnone, .group _ houter (List.cons_ne_nil _ _), hnone, rfl⟩

/-- Below another path, the three leaves are named in full. -/
theorem paths_are_the_leaves_stream :
    streamTree.Written streamText ∧ paths "x::".toList streamText
      = ["x::std::io".toList, "x::std::io::Read".toList,
        "x::std::fmt".toList] :=
  ⟨written_streamTree,
    paths_are_the_leaves written_streamTree [ident "x" (by decide)]⟩

end SourceAtlas.UseTree
