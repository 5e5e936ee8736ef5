/-
Lists of names in import statements. A list stands on one line, or it stands
in parentheses and may then be spread over lines, with comments between its
items and a comma behind the last.

- What stands in an item is known (`IsItem.chars`), so no sign of a list does.
- What is left of a list without its comments is a list with blanks in their
  place (`becomes_of_listed`).
- A list on one line is one whose gaps are blanks (`Row.listed`).

Consumed by the theories of what such lists name and of Python statements.
-/
import SourceAtlas.Import.Specifier
import SourceAtlas.Proofs.Pattern.Lines

namespace SourceAtlas.Import

open Pattern Text

-- =================================================================== names

/-- The words that are no identifiers. -/
def keywords : List Text := ["import".toList, "from".toList, "as".toList]

/-- A name of word characters that is none of the keywords. -/
structure Identifier where
  text : Text
  nonempty : text ≠ []
  word : ∀ c ∈ text, Text.isWord c = true
  free : text ∉ keywords

/-- A module by its name: identifiers with dots between them. -/
structure DottedName where
  parts : List Identifier
  nonempty : parts ≠ []

/-- The parts of a name. -/
def DottedName.names (m : DottedName) : List Text := m.parts.map Identifier.text

/-- The names with dots between them. -/
def DottedName.text (m : DottedName) : Text := Text.join ['.'] m.names

/-- A name, with the name that it goes by if that is another one. -/
def renamed (name : Text) : Option Identifier → Text
  | none => name
  | some newName => name ++ " as ".toList ++ newName.text

/-- One module of an import. -/
structure ModuleItem where
  name : DottedName
  newName : Option Identifier

/-- One name of an import. -/
structure NameItem where
  name : Identifier
  newName : Option Identifier

/-- How the item is written. -/
def ModuleItem.text (item : ModuleItem) : Text :=
  renamed item.name.text item.newName

/-- How the item is written. -/
def NameItem.text (item : NameItem) : Text :=
  renamed item.name.text item.newName

-- =================================================================== lists

/-- Items on one line with commas between them. -/
inductive Row : List Text → Text → Prop where
  | one (item : Text) : Row [item] item
  | cons (item : Text) {items : List Text} {before after t : Text}
      (hbefore : Inline before) (hafter : Inline after) (h : Row items t) :
      Row (item :: items) (item ++ before ++ ',' :: (after ++ t))

/-- Blanks and comments, each up to the end of its line. -/
inductive Gap : Text → Prop where
  | nil : Gap []
  | blank {c : Char} {t : Text} (hc : Text.isBlank c = true) (h : Gap t) :
      Gap (c :: t)
  | comment {body t : Text} (hbody : ∀ c ∈ body, c ≠ '\n' ∧ c ≠ ')')
      (h : Gap t) : Gap ('#' :: body ++ '\n' :: t)

/-- A list as a statement ends in it. -/
inductive Clause (items : List Text) : Text → Prop where
  | row {t : Text} (h : Row items t) : Clause items t
  | spread {t : Text} (h : Listed Gap items t) :
      Clause items (['('] ++ t ++ [')'])

-- ============================================================== characters

variable {c : Char} {t a b before after name item rest : Text}
  {items : List Text}

/-- No blank is part of a dotted name. -/
theorem isBlank_of_isDotted (h : isDotted c = true) :
    Text.isBlank c = false := by
  rcases Bool.or_eq_true_iff.mp h with h | h
  · exact isBlank_of_isWord h
  · rw [beq_iff_eq.mp h]
    decide

/-- A name is part of a dotted one. -/
theorem Identifier.isDotted (i : Identifier) :
    ∀ c ∈ i.text, isDotted c = true := by
  intro c hc
  rw [Import.isDotted, i.word c hc]
  rfl

theorem DottedName.isDotted (m : DottedName) :
    ∀ c ∈ m.text, isDotted c = true := by
  intro c hc
  rcases Text.mem_join hc with hc | ⟨part, hpart, hc⟩
  · rw [List.mem_singleton.mp hc]
    decide
  · obtain ⟨i, -, rfl⟩ := List.mem_map.mp hpart
    exact i.isDotted c hc

/-- A dotted name has a first name. -/
theorem DottedName.names_ne_nil (m : DottedName) : m.names ≠ [] := by
  rw [names, Ne, List.map_eq_nil_iff]
  exact m.nonempty

theorem DottedName.text_ne_nil (m : DottedName) : m.text ≠ [] := by
  unfold text
  rw [Ne, Text.join_eq_nil_iff]
  · exact m.names_ne_nil
  · intro part hpart
    obtain ⟨i, -, rfl⟩ := List.mem_map.mp hpart
    exact i.nonempty

/-- An identifier is a name with one part. -/
def Identifier.toDottedName (i : Identifier) : DottedName :=
  ⟨[i], List.cons_ne_nil i []⟩

/-- A module or a name, as it is written in a list. -/
def IsItem (t : Text) : Prop :=
  ∃ (m : DottedName) (newName : Option Identifier),
  t = renamed m.text newName

/-- A module, renamed or not, is an item of a list. -/
theorem ModuleItem.isItem (item : ModuleItem) : IsItem item.text := ⟨_, _, rfl⟩

theorem NameItem.isItem (item : NameItem) : IsItem item.text :=
  ⟨item.name.toDottedName, item.newName, rfl⟩

/-- All of a list of modules are items. -/
theorem ModuleItem.isItem_of_mem_map {modules : List ModuleItem}
    (h : item ∈ modules.map ModuleItem.text) : IsItem item := by
  obtain ⟨m, -, rfl⟩ := List.mem_map.mp h
  exact m.isItem

theorem NameItem.isItem_of_mem_map {names : List NameItem}
    (h : item ∈ names.map NameItem.text) : IsItem item := by
  obtain ⟨i, -, rfl⟩ := List.mem_map.mp h
  exact i.isItem

/-- What stands in an item: its names, and the spaces between them. -/
theorem IsItem.chars (h : IsItem item) :
    ∀ c ∈ item, isDotted c = true ∨ c = ' ' := by
  have has : ∀ c ∈ " as ".toList, isDotted c = true ∨ c = ' ' := by decide
  obtain ⟨m, newName, rfl⟩ := h
  cases newName with
  | none => exact fun c hc => .inl (m.isDotted c hc)
  | some newName =>
      rw [renamed, List.forall_mem_append, List.forall_mem_append]
      exact ⟨⟨fun c hc => .inl (m.isDotted c hc), has⟩,
        fun c hc => .inl (newName.isDotted c hc)⟩

/-- No sign of a list stands in an item. -/
theorem IsItem.not_mem (h : IsItem item) (hdotted : isDotted c = false)
    (hspace : c ≠ ' ') : c ∉ item := by
  intro hc
  rcases h.chars c hc with hc | hc
  · rw [hdotted] at hc
    cases hc
  · exact hspace hc

/-- A dotted name has no blanks inside. -/
theorem tight_of_isDotted (h : ∀ c ∈ t, isDotted c = true) : Tight t :=
  fun c hc => isBlank_of_isDotted (h c hc)

/-- An item does not start with a blank. -/
theorem IsItem.opens (h : IsItem item) : Opens item := by
  obtain ⟨m, newName, rfl⟩ := h
  have hname : Opens m.text :=
    (tight_of_isDotted m.isDotted).opens m.text_ne_nil
  cases newName with
  | none => exact hname
  | some newName =>
      rw [renamed, List.append_assoc]
      exact hname.append _

theorem IsItem.closes (h : IsItem item) : Closes item := by
  obtain ⟨m, newName, rfl⟩ := h
  cases newName with
  | none => exact (tight_of_isDotted m.isDotted).closes m.text_ne_nil
  | some newName =>
      have hname := (tight_of_isDotted newName.isDotted).closes newName.nonempty
      exact hname.append _

-- ================================================================ comments

/-- A comment starts with its sign only. -/
theorem misses_hashComment {behind : Option Char} (hc : c ≠ '#') :
    hashComment.Misses behind (c :: rest) := by
  have hlit : (lit ['#']).Misses behind (c :: rest) := by
    intro offset captures
    refine fails_lit ?_
    rw [List.cons_prefix_cons]
    exact fun h => hc h.1.symm
  exact hlit.append

/-- A text without the sign of comments is kept. -/
theorem becomes_hashComment_self {behind : Option Char} (h : '#' ∉ t) :
    hashComment.Becomes (fun _ => []) behind t rest t :=
  becomes_self fun _ hc _ _ => misses_hashComment fun hhash => h (hhash ▸ hc)

/-- A comment is dropped up to the end of its line. -/
theorem becomes_hashComment {behind : Option Char} {body : Text}
    (h : '\n' ∉ body) :
    hashComment.Becomes (fun _ => []) behind ('#' :: body)
      ('\n' :: rest) [] := by
  have hbody : ∀ x ∈ body, inLine x = true :=
      fun x hx => bne_iff_ne.mpr fun hx' => h (hx' ▸ hx)
  have hend : ∀ x ∈ ('\n' :: rest).head?, inLine x = false := by simp [inLine]
  have hreads : hashComment.Reads behind (['#'] ++ body) ('\n' :: rest) [] :=
    (reads_lit behind ['#'] _).append_left (reads_many hbody hend)
  exact hreads.becomes (by simp) fun _ => rfl

/-- Without its comments a gap is blank. -/
theorem Gap.becomes (h : Gap t) :
    ∃ t', Blank t' ∧ ∀ behind rest,
      hashComment.Becomes (fun _ => []) behind t rest t' := by
  induction h with
  | nil =>
      exact ⟨[], by simp [Blank], fun _ _ => becomes_hashComment_self (by simp)⟩
  | @blank c t hc _ ih =>
      obtain ⟨t', ht', hbecomes⟩ := ih
      have hblank : Blank [c] := by simpa [Blank] using hc
      refine ⟨[c] ++ t', List.forall_mem_append.mpr ⟨hblank, ht'⟩,
        fun behind rest => ?_⟩
      have hfirst :
          hashComment.Becomes (fun _ => []) behind [c] (t ++ rest) [c] :=
        becomes_hashComment_self (not_mem_of_blank hblank (by decide))
      exact hfirst.append (hbecomes _ rest)
  | @comment body t hbody _ ih =>
      obtain ⟨t', ht', hbecomes⟩ := ih
      have hfeed : Blank ['\n'] := by decide
      refine ⟨['\n'] ++ t', List.forall_mem_append.mpr ⟨hfeed, ht'⟩,
        fun behind rest => ?_⟩
      have hcomment : hashComment.Becomes (fun _ => []) behind ('#' :: body)
          ('\n' :: t ++ rest) [] :=
        becomes_hashComment fun h => (hbody '\n' h).1 rfl
      have hend (behind : Option Char) :
          hashComment.Becomes (fun _ => []) behind ['\n'] (t ++ rest) ['\n'] :=
        becomes_hashComment_self (by decide)
      exact hcomment.append ((hend _).append (hbecomes _ rest))

/-- Without its comments a list is a list with blanks in their place. -/
theorem becomes_of_listed (h : Listed Gap items t)
    (hitems : ∀ item ∈ items, '#' ∉ item) :
    ∃ t', Listed Blank items t'
      ∧ ∀ behind rest, hashComment.Becomes (fun _ => []) behind t rest t' := by
  have hcomma (behind : Option Char) (rest : Text) :
      hashComment.Becomes (fun _ => []) behind [','] rest [','] :=
    becomes_hashComment_self (by decide)
  -- one item with its gaps
  have hone {item before after : Text} (hitem : '#' ∉ item)
    (hbefore : Gap before)
      (hafter : Gap after) : ∃ before' after', Blank before' ∧ Blank after'
        ∧ ∀ behind rest,
        hashComment.Becomes (fun _ => []) behind (before ++ item ++ after) rest
          (before' ++ item ++ after') := by
    obtain ⟨before', hbefore', hfirst⟩ := hbefore.becomes
    obtain ⟨after', hafter', hlast⟩ := hafter.becomes
    refine ⟨before', after', hbefore', hafter', fun behind rest => ?_⟩
    exact ((hfirst _ _).append (becomes_hashComment_self hitem)).append
      (hlast _ _)
  induction h with
  | one item hbefore hafter =>
      obtain ⟨before', after', hbefore', hafter', hfirst⟩ :=
        hone (hitems item (List.mem_singleton_self item)) hbefore hafter
      exact ⟨_, .one item hbefore' hafter', hfirst⟩
  | last item hbefore hafter hbehind =>
      obtain ⟨before', after', hbefore', hafter', hfirst⟩ :=
        hone (hitems item (List.mem_singleton_self item)) hbefore hafter
      obtain ⟨behind', hbehind', hlast⟩ := hbehind.becomes
      refine ⟨_, .last item hbefore' hafter' hbehind', fun behind rest => ?_⟩
      exact (hfirst _ _).append ((hcomma _ _).append (hlast _ rest))
  | cons item hbefore hafter _ ih =>
      obtain ⟨hitem, hothers⟩ := List.forall_mem_cons.mp hitems
      obtain ⟨before', after', hbefore', hafter', hfirst⟩ :=
        hone hitem hbefore hafter
      obtain ⟨t', ht', hrest⟩ := ih hothers
      refine ⟨_, .cons item hbefore' hafter' ht', fun behind rest => ?_⟩
      exact (hfirst _ _).append ((hcomma _ _).append (hrest _ rest))

-- ==================================================================== rows

/-- A row is a list with blanks around its items. -/
theorem Row.listed (h : Row items t) : Listed Blank items t := by
  have hafter {items : List Text} {after t : Text} (ha : Inline after)
      (h : Listed Blank items t) : Listed Blank items (after ++ t) := by
    have hblank {before : Text} (hb : Blank before) : Blank (after ++ before) :=
      List.forall_mem_append.mpr ⟨ha.blank, hb⟩
    cases h with
    | one item hbefore hafter =>
        simpa only [List.append_assoc]
          using Listed.one item (hblank hbefore) hafter
    | last item hbefore hafter hbehind =>
        simpa only [List.append_assoc]
          using Listed.last item (hblank hbefore) hafter hbehind
    | cons item hbefore hafter h =>
        simpa only [List.append_assoc]
          using Listed.cons item (hblank hbefore) hafter h
  induction h with
  | one item => simpa using Listed.one item blank_nil blank_nil
  | cons item hbefore hbehind _ ih =>
      simpa using Listed.cons item blank_nil hbefore.blank (hafter hbehind ih)

end SourceAtlas.Import
