/-
The grammar of use trees, and the texts that spell a tree. A tree is a path,
possibly under another name, a path with a star, or a path with a list in
braces; the items of a list are trees, and `self` for the path in front of
the list. A spelling puts blanks of any kind and number around the items of
a list, around its commas and around `as`.

What both readings of a use tree need of a spelling is said here: where its
blanks can be, so that squeezing comes down to collapsing the parts
(`collapse_leaf`, `collapse_braces`, `collapse_join`), that the splitter
takes up every item whole (`Items.Spells.passes_collapse`), and that no list
lies deeper than the text is long (`Tree.Written.exists_depth_le`).
-/
import SourceAtlas.Proofs.Text.Squeeze
import SourceAtlas.Proofs.UseTree.Split

namespace SourceAtlas.UseTree

open Text (Blank Tight Opens Closes collapse)

-- =========================================================== identifiers

/-- Whether a character may stand in an identifier: it is neither blank nor
a sign of the grammar. -/
def isIdentChar (c : Char) : Bool :=
  !Text.isBlank c && !(['\x7b', '\x7d', ',', ':', '*'].contains c)

/-- An identifier; keywords are identifiers too. -/
structure Ident where
  text : Text
  nonempty : text ≠ []
  plain : ∀ c ∈ text, isIdentChar c = true

/-- The path in front of a list: one or more identifiers. -/
structure ModulePath where
  idents : List Ident
  nonempty : idents ≠ []

/-- The path of a leaf, which is not `self` alone. -/
structure LeafPath extends ModulePath where
  notSelf : idents.map Ident.text ≠ ["self".toList]

/-- Identifiers as a path. -/
def pathText (idents : List Ident) : Text :=
  Text.join "::".toList (idents.map Ident.text)

/-- Identifiers as what stands in front of a path: nothing, or a path with
its closing colons. -/
def aboveText (idents : List Ident) : Text :=
  idents.flatMap fun ident => ident.text ++ "::".toList

-- ================================================================= trees

mutual

/-- A use tree. -/
inductive Tree where
  /-- One path, possibly under another name. -/
  | leaf (path : LeafPath) (newName : Option Ident)
  /-- All that is below a path. -/
  | glob (path : LeafPath)
  /-- What a list names below a path. -/
  | group (path : ModulePath) (items : Items)

/-- The items of a list. -/
inductive Items where
  | nil
  | tree (first : Tree) (rest : Items)
  /-- The path in front of the list, possibly under another name. -/
  | self (newName : Option Ident) (rest : Items)

end

mutual

/-- How many lists lie inside each other. -/
def Tree.depth : Tree → Nat
  | .leaf _ _ => 0
  | .glob _ => 0
  | .group _ items => items.depth + 1

/-- The depth of the deepest item. -/
def Items.depth : Items → Nat
  | .nil => 0
  | .tree first rest => max first.depth rest.depth
  | .self _ rest => rest.depth

end

-- ============================================================= spellings

/-- How a new name is spelled, with blanks before and after `as`. -/
inductive Renames : Option Ident → Text → Prop where
  | kept : Renames none []
  | changed {before after : Text} (name : Ident) (hbefore : Blank before)
      (hb : before ≠ []) (hafter : Blank after) (ha : after ≠ []) :
      Renames (some name) (before ++ "as".toList ++ after ++ name.text)

mutual

/-- The text spells the tree, with no blanks around it. -/
inductive Tree.Spells : Tree → Text → Prop where
  | leaf (path : LeafPath) {newName : Option Ident} {rename : Text}
      (h : Renames newName rename) :
      Tree.Spells (.leaf path newName) (pathText path.idents ++ rename)
  | glob (path : LeafPath) :
      Tree.Spells (.glob path) (pathText path.idents ++ "::*".toList)
  | group (path : ModulePath) {items : Items} {segments : List Text}
      (h : Items.Spells items segments) (hne : segments ≠ []) :
      Tree.Spells (.group path items) (pathText path.idents ++ "::".toList
        ++ '\x7b' :: Text.join [','] segments ++ ['\x7d'])

/-- The texts between the commas of a list spell its items. Some may spell
none: the only text of an empty list, or what follows a comma at the end. -/
inductive Items.Spells : Items → List Text → Prop where
  | nil : Items.Spells .nil []
  | blank {items : Items} {blanks : Text} {segments : List Text}
      (hblank : Blank blanks) (h : Items.Spells items segments) :
      Items.Spells items (blanks :: segments)
  | tree {first : Tree} {rest : Items} {before core after : Text}
      {segments : List Text}
      (hbefore : Blank before) (hfirst : Tree.Spells first core)
        (hafter : Blank after)
      (h : Items.Spells rest segments) :
      Items.Spells (.tree first rest) ((before ++ core ++ after) :: segments)
  | self {newName : Option Ident} {rest : Items} {before rename after : Text}
      {segments : List Text} (hbefore : Blank before)
        (hrename : Renames newName rename)
      (hafter : Blank after) (h : Items.Spells rest segments) :
      Items.Spells (.self newName rest)
        ((before ++ ("self".toList ++ rename) ++ after) :: segments)

end

/-- The text is the tree in some layout, possibly with blanks around it. -/
def Tree.Written (t : Tree) (text : Text) : Prop :=
  ∃ before core after, Blank before ∧ t.Spells core ∧ Blank after
    ∧ text = before ++ core ++ after

-- ================================================================= words

/-- A text without blanks, commas and braces. -/
structure IsWord (u : Text) : Prop where
  nonempty : u ≠ []
  chars : ∀ c ∈ u, Text.isBlank c = false ∧ IsPlain c

variable {u v rename before core after : Text} {segments : List Text}
  {idents above : List Ident} {newName : Option Ident} {t : Tree}
  {items : Items}

namespace IsWord

theorem tight (h : IsWord u) : Tight u := fun c hc => (h.chars c hc).1

/-- A word does not start with a blank. -/
theorem opens (h : IsWord u) : Opens u := h.tight.opens h.nonempty

theorem closes (h : IsWord u) : Closes u := h.tight.closes h.nonempty

/-- A word is passed over at any depth. -/
theorem passes (h : IsWord u) {depth : Int} : Passes depth u :=
  passes_of_plain fun c hc => (h.chars c hc).2

theorem brace_not_mem (h : IsWord u) : '\x7b' ∉ u :=
  fun hc => (h.chars _ hc).2.2.1 rfl

/-- Two words in a row are one. -/
theorem append (hu : IsWord u) (hv : IsWord v) : IsWord (u ++ v) := by
  refine ⟨List.append_ne_nil_of_left_ne_nil hu.nonempty v, fun c hc => ?_⟩
  rcases List.mem_append.mp hc with hc | hc
  · exact hu.chars c hc
  · exact hv.chars c hc

end IsWord

/-- Whether a text is a word can be tried out. -/
instance : DecidablePred IsPlain := fun c =>
  inferInstanceAs (Decidable (c ≠ ',' ∧ c ≠ '\x7b' ∧ c ≠ '\x7d'))

instance : DecidablePred IsWord := fun u =>
  haveI := List.decidableBAll (fun c => Text.isBlank c = false ∧ IsPlain c) u
  decidable_of_iff (u ≠ [] ∧ ∀ c ∈ u, Text.isBlank c = false ∧ IsPlain c)
    ⟨fun h => ⟨h.1, h.2⟩, fun h => ⟨h.nonempty, h.chars⟩⟩

/-- What keeps a character out of every identifier. -/
theorem ne_of_isIdentChar {c : Char} (h : isIdentChar c = true) :
    Text.isBlank c = false ∧ IsPlain c ∧ c ≠ ':' ∧ c ≠ '*' := by
  unfold isIdentChar at h
  obtain ⟨hblank, hsign⟩ := Bool.and_eq_true_iff.mp h
  simp only [Bool.not_eq_true', List.contains_eq_mem, decide_eq_false_iff_not,
    List.mem_cons, List.not_mem_nil, or_false, not_or] at hblank hsign
  obtain ⟨hopen, hclose, hcomma, hcolon, hstar⟩ := hsign
  exact ⟨hblank, ⟨hcomma, hopen, hclose⟩, hcolon, hstar⟩

theorem Ident.isWord (i : Ident) : IsWord i.text := by
  refine ⟨i.nonempty, fun c hc => ?_⟩
  obtain ⟨hblank, hplain, -⟩ := ne_of_isIdentChar (i.plain c hc)
  exact ⟨hblank, hplain⟩

theorem Ident.colon_not_mem (i : Ident) : ':' ∉ i.text :=
  fun hc => (ne_of_isIdentChar (i.plain _ hc)).2.2.1 rfl

/-- The characters of a path are colons and those of its identifiers. -/
theorem mem_pathText {c : Char} (h : c ∈ pathText idents) :
    c = ':' ∨ ∃ i ∈ idents, c ∈ i.text := by
  rcases Text.mem_join h with h | ⟨piece, hpiece, h⟩
  · exact Or.inl (by simpa using h)
  · obtain ⟨i, hi, rfl⟩ := List.mem_map.mp hpiece
    exact Or.inr ⟨i, hi, h⟩

theorem star_not_mem_pathText : '*' ∉ pathText idents := by
  intro h
  rcases mem_pathText h with h | ⟨i, -, h⟩
  · exact absurd h (by decide)
  · exact (ne_of_isIdentChar (i.plain _ h)).2.2.2 rfl

/-- A path that is not empty is a word. -/
theorem isWord_pathText (hne : idents ≠ []) : IsWord (pathText idents) := by
  constructor
  · unfold pathText
    rw [Ne, Text.join_eq_nil_iff, List.map_eq_nil_iff]
    · exact hne
    · intro piece hpiece
      obtain ⟨i, -, rfl⟩ := List.mem_map.mp hpiece
      exact i.nonempty
  · intro c hc
    rcases mem_pathText hc with rfl | ⟨i, -, hc⟩
    · decide
    · exact i.isWord.chars c hc

/-- The head of a group is a word. -/
theorem isWord_head (path : ModulePath) :
    IsWord (pathText path.idents ++ "::".toList) :=
  (isWord_pathText path.nonempty).append (by decide)

theorem isWord_glob (path : LeafPath) :
    IsWord (pathText path.idents ++ "::*".toList) :=
  (isWord_pathText path.nonempty).append (by decide)

-- ============================================================ collapsing

/-- A new name is spelled with one space on each side of `as` once its
blanks are collapsed. -/
theorem Renames.collapse_cases (h : Renames newName rename) :
    collapse rename = []
      ∨ ∃ name : Ident, collapse rename = " as ".toList ++ name.text := by
  cases h with
  | kept => exact Or.inl rfl
  | changed name hbefore hb hafter ha =>
      have has : IsWord "as".toList := by decide
      refine Or.inr ⟨name, ?_⟩
      rw [Text.collapse_append_of_opens _ name.isWord.opens,
        Text.collapse_append_of_closes (has.closes.append _),
        Text.collapse_append_of_opens _ has.opens,
        Text.collapse_of_tight has.tight,
        Text.collapse_of_tight name.isWord.tight,
        Text.collapse_of_blank_of_ne_nil hbefore hb,
        Text.collapse_of_blank_of_ne_nil hafter ha]
      rfl

/-- A renaming does not end with a blank. -/
theorem Renames.closes_append (h : Renames newName rename) (hu : Closes u) :
    Closes (u ++ rename) := by
  cases h with
  | kept => rwa [List.append_nil]
  | changed name hbefore hb hafter ha =>
      rw [← List.append_assoc]
      exact name.isWord.closes.append _

/-- A word keeps its characters; so do the signs of a new name after it. -/
theorem collapse_leaf (hu : IsWord u) :
    collapse (u ++ rename) = u ++ collapse rename := by
  rw [Text.collapse_append_of_closes hu.closes, Text.collapse_of_tight hu.tight]

/-- What stands in front of braces stays as it is. -/
theorem collapse_braces (hu : IsWord u) (body : Text) :
    collapse (u ++ '\x7b' :: body ++ ['\x7d'])
      = u ++ '\x7b' :: collapse body ++ ['\x7d'] := by
  have hclose : Opens ['\x7d'] := ⟨'\x7d', [], rfl, by decide⟩
  rw [Text.collapse_append_of_opens _ hclose,
    Text.collapse_append_cons u (by decide), Text.collapse_of_tight hu.tight]
  rfl

/-- Commas keep the blanks of the texts between them apart. -/
theorem collapse_join (segments : List Text) :
    collapse (Text.join [','] segments)
      = Text.join [','] (segments.map collapse) := by
  induction segments with
  | nil => rfl
  | cons first rest ih =>
      cases rest with
      | nil => rfl
      | cons next more =>
          rw [Text.join_cons_cons, List.append_assoc, List.singleton_append,
            Text.collapse_append_cons first (by decide), ih]
          show _ = collapse first ++ [',']
            ++ Text.join [','] ((next :: more).map collapse)
          rw [List.append_assoc, List.singleton_append]

/-- A group does not start with a blank. -/
theorem opens_group (hu : IsWord u) (body : Text) :
    Opens (u ++ '\x7b' :: body ++ ['\x7d']) := by
  rw [List.append_assoc]
  exact hu.opens.append _

theorem closes_group (u body : Text) :
    Closes (u ++ '\x7b' :: body ++ ['\x7d']) :=
  ⟨_, '\x7d', rfl, by decide⟩

/-- A tree does not start with a blank. -/
theorem Tree.Spells.opens (h : t.Spells core) : Opens core := by
  cases h with
  | leaf path h => exact (isWord_pathText path.nonempty).opens.append _
  | glob path => exact (isWord_glob path).opens
  | group path h hne => exact opens_group (isWord_head path) _

theorem Tree.Spells.closes (h : t.Spells core) : Closes core := by
  cases h with
  | leaf path h => exact h.closes_append (isWord_pathText path.nonempty).closes
  | glob path => exact (isWord_glob path).closes
  | group path h hne => exact closes_group _ _

/-- Blanks around a text that has none at its ends are collapsed apart from
it. -/
theorem collapse_around (ho : Opens core) (hc : Closes core)
    (before after : Text) :
    collapse (before ++ core ++ after)
      = collapse before ++ collapse core ++ collapse after := by
  rw [Text.collapse_append_of_closes (hc.append before),
    Text.collapse_append_of_opens before ho]

-- ============================================================= squeezing

/-- A leaf squeezed. -/
theorem squeeze_leaf (hbefore : Blank before) (hu : IsWord u)
    (h : Renames newName rename) (hafter : Blank after) :
    Text.squeeze (before ++ (u ++ rename) ++ after) = u ++ collapse rename := by
  rw [Text.squeeze_append hbefore (hu.opens.append _)
    (h.closes_append hu.closes) hafter, collapse_leaf hu]

/-- A leaf holds no brace, renamed or not. -/
theorem brace_not_mem_leaf (hu : IsWord u) (h : Renames newName rename) :
    '\x7b' ∉ u ++ collapse rename := by
  intro hmem
  rcases List.mem_append.mp hmem with hmem | hmem
  · exact hu.brace_not_mem hmem
  · rcases h.collapse_cases with hnone | ⟨name, hname⟩
    · rw [hnone] at hmem
      cases hmem
    · rw [hname] at hmem
      rcases List.mem_append.mp hmem with hmem | hmem
      · exact absurd hmem (by decide)
      · exact name.isWord.brace_not_mem hmem

/-- The path of a leaf does not show its new name. -/
theorem leafPath_leaf (hu : IsWord u) (h : Renames newName rename) :
    leafPath (u ++ collapse rename) = u := by
  have hspace : ' ' ∉ u := fun hmem => absurd (hu.tight ' ' hmem) (by decide)
  have hbefore : Text.before " as ".toList (u ++ collapse rename) = u := by
    rcases h.collapse_cases with hnone | ⟨name, hname⟩
    · rw [hnone, List.append_nil]
      exact Text.before_of_not_mem _ hspace
    · rw [hname, ← List.append_assoc]
      exact Text.before_append _ _ hspace
  unfold leafPath
  rw [hbefore, Text.trim_of_tight hu.tight]

theorem leafPath_of_isWord (hu : IsWord u) : leafPath u = u := by
  simpa [collapse] using leafPath_leaf hu Renames.kept

/-- A list squeezed. -/
theorem squeeze_group (hbefore : Blank before) (hu : IsWord u)
    (hafter : Blank after) (segments : List Text) :
    Text.squeeze (before
      ++ (u ++ '\x7b' :: Text.join [','] segments ++ ['\x7d']) ++ after)
      = u ++ '\x7b' :: Text.join [','] (segments.map collapse) ++ ['\x7d'] := by
  rw [Text.squeeze_append hbefore (opens_group hu _) (closes_group u _) hafter,
    collapse_braces hu, collapse_join]

-- ============================================================= splitting

theorem isPlain_of_isBlank {c : Char} (h : Text.isBlank c = true) :
    IsPlain c := by
  refine ⟨?_, ?_, ?_⟩
  all_goals
    rintro rfl
    exact absurd h (by decide)

/-- Blanks are passed over at any depth. -/
theorem passes_of_blank {depth : Int} (h : Blank before) :
    Passes depth before :=
  passes_of_plain fun c hc => isPlain_of_isBlank (h c hc)

/-- A leaf passes whatever it is called. -/
theorem passes_leaf {depth : Int} (hu : IsWord u) (h : Renames newName rename) :
    Passes depth (collapse (u ++ rename)) := by
  rw [collapse_leaf hu]
  rcases h.collapse_cases with hnone | ⟨name, hname⟩
  · rw [hnone, List.append_nil]
    exact hu.passes
  · rw [hname]
    exact hu.passes.append
      ((passes_of_plain (by simp [IsPlain])).append name.isWord.passes)

theorem passes_around {depth : Int} (hbefore : Blank before) (ho : Opens core)
    (hc : Closes core) (hafter : Blank after)
    (h : Passes depth (collapse core)) :
    Passes depth (collapse (before ++ core ++ after)) := by
  rw [collapse_around ho hc]
  exact ((passes_of_blank (Text.blank_collapse hbefore)).append h).append
    (passes_of_blank (Text.blank_collapse hafter))

mutual

/-- The splitter takes up a tree whole, at the top and below it. -/
theorem Tree.Spells.passes_collapse :
    ∀ {t : Tree} {core : Text}, t.Spells core → ∀ {depth : Int}, 0 ≤ depth →
      Passes depth (collapse core)
  | _, _, .leaf path h, _, _ => passes_leaf (isWord_pathText path.nonempty) h
  | _, _, .glob path, _, _ => by
      rw [Text.collapse_of_tight (isWord_glob path).tight]
      exact (isWord_glob path).passes
  | _, _, .group path h _, depth, hdepth => by
      -- inside the braces the depth is not zero, so the commas pass
      have hitems :
          Passes (depth + 1) (Text.join [','] (List.map collapse _)) :=
        passes_join (by omega) (h.passes_collapse (by omega))
      rw [collapse_braces (isWord_head path), collapse_join, List.append_assoc]
      exact (isWord_head path).passes.append hitems.braces

/-- So it does with each item of a list. -/
theorem Items.Spells.passes_collapse :
    ∀ {items : Items} {segments : List Text}, items.Spells segments
      → ∀ {depth : Int},
      0 ≤ depth → ∀ segment ∈ segments.map collapse, Passes depth segment
  | _, _, .nil, _, _ => fun _ hsegment => absurd hsegment List.not_mem_nil
  | _, _, .blank hblank h, _, hdepth => by
      rw [List.map_cons, List.forall_mem_cons]
      exact ⟨passes_of_blank (Text.blank_collapse hblank),
        h.passes_collapse hdepth⟩
  | _, _, .tree hbefore hfirst hafter h, _, hdepth => by
      rw [List.map_cons, List.forall_mem_cons]
      refine ⟨?_, h.passes_collapse hdepth⟩
      exact passes_around hbefore hfirst.opens hfirst.closes hafter
        (hfirst.passes_collapse hdepth)
  | _, _, .self hbefore hrename hafter h, _, hdepth => by
      have hself : IsWord "self".toList := by decide
      rw [List.map_cons, List.forall_mem_cons]
      refine ⟨?_, h.passes_collapse hdepth⟩
      exact passes_around hbefore (hself.opens.append _)
        (hrename.closes_append hself.closes) hafter (passes_leaf hself hrename)

end

-- ================================================================= depth

mutual

/-- Every list adds its braces to the text. -/
theorem Tree.Spells.depth_le_length :
    ∀ {t : Tree} {core : Text}, t.Spells core → t.depth ≤ core.length
  | _, _, .leaf _ _ => Nat.zero_le _
  | _, _, .glob _ => Nat.zero_le _
  | .group _ items, _, .group _ h _ => by
      have hitems : items.depth ≤ (Text.join [','] _).length :=
        h.depth_le fun _ hsegment => (Text.isInfix_join hsegment).length_le
      simp only [Tree.depth, List.length_append, List.length_cons]
      omega

/-- No item is nested deeper than its segment is long. -/
theorem Items.Spells.depth_le :
    ∀ {items : Items} {segments : List Text}, items.Spells segments →
      ∀ {bound : Nat}, (∀ segment ∈ segments, segment.length ≤ bound)
        → items.depth ≤ bound
  | _, _, .nil, _, _ => Nat.zero_le _
  | _, _, .blank _ h, _, hbound => h.depth_le (List.forall_mem_cons.mp hbound).2
  | _, _, .tree _ hfirst _ h, _, hbound => by
      obtain ⟨hsegment, hrest⟩ := List.forall_mem_cons.mp hbound
      have hdepth := hfirst.depth_le_length
      simp only [List.length_append] at hsegment
      exact Nat.max_le.mpr ⟨by omega, h.depth_le hrest⟩
  | _, _, .self _ _ _ h, _, hbound =>
      h.depth_le (List.forall_mem_cons.mp hbound).2

end

/-- The parts of a written tree, with the bound that a reading starts
from. -/
theorem Tree.Written.exists_depth_le {text : Text} (h : t.Written text) :
    ∃ before core after, Blank before ∧ t.Spells core ∧ Blank after
      ∧ text = before ++ core ++ after ∧ t.depth ≤ text.length := by
  obtain ⟨before, core, after, hbefore, hcore, hafter, rfl⟩ := h
  have hdepth := hcore.depth_le_length
  refine ⟨before, core, after, hbefore, hcore, hafter, rfl, ?_⟩
  simp only [List.length_append]
  omega

end SourceAtlas.UseTree
