/-
Which paths show a concept. The search for a mark goes over the whole path at
once, with two ways to go on behind a keyword; said component by component, a
directory is called by a keyword or the last component starts with one
(`Marked`). The two agree because no keyword holds a slash: the slash in front
of a found keyword starts a component, and what follows the keyword is the end
of that component, or nothing with a slash in it (`shows_iff_marked`).

Which characters stand for a letter of a keyword is said without folding any
(`StandsFor`): the letter in either case, and four letters beyond ASCII.

Consumed by the theory of the listing of concepts.
-/
import Mathlib.Data.List.Forall2
import SourceAtlas.Concept
import SourceAtlas.Proofs.Path.Components
import SourceAtlas.Proofs.Pattern.Found

namespace SourceAtlas.Concept

open Pattern

variable {c k : Char} {behind : Option Char} {path t u rest : Text}
  {keywords : List String}

-- ============================================================= letters

/-- The characters that stand for a letter or a digit of a keyword where case
does not count. -/
def StandsFor (c k : Char) : Prop :=
  c = k ∨ c = k.toUpper ∨ (k = 'i' ∧ (c = '\u0130' ∨ c = '\u0131'))
    ∨ (k = 's' ∧ c = '\u017f') ∨ (k = 'k' ∧ c = '\u212a')

instance (c k : Char) : Decidable (StandsFor c k) :=
  inferInstanceAs (Decidable (_ ∨ _ ∨ _ ∨ _ ∨ _))

/-- What keywords are made of. -/
def isKeywordChar (k : Char) : Bool := k.isLower || k.isDigit

/-- Small letters lie 32 above their capitals. -/
theorem toNat_toLower (c : Char) :
    c.toLower.toNat = if 65 ≤ c.toNat ∧ c.toNat ≤ 90 then c.toNat + 32
      else c.toNat := by
  have hrange : (c.val ≥ 'A'.val ∧ c.val ≤ 'Z'.val)
      ↔ 65 ≤ c.toNat ∧ c.toNat ≤ 90 := Iff.rfl
  unfold Char.toLower
  split
  case isTrue h =>
    rw [if_pos (hrange.mp h)]
    have hle := (hrange.mp h).2
    show (c.val + 32).toNat = c.val.toNat + 32
    rw [UInt32.toNat_add]
    have hval : c.val.toNat ≤ 90 := hle
    have h32 : (32 : UInt32).toNat = 32 := rfl
    omega
  case isFalse h => rw [if_neg (mt hrange.mpr h)]

/-- Capitals lie 32 below their small letters. -/
theorem toNat_toUpper (c : Char) :
    c.toUpper.toNat = if 97 ≤ c.toNat ∧ c.toNat ≤ 122 then c.toNat - 32
      else c.toNat := by
  have hrange : ('a'.val ≤ c.val ∧ c.val ≤ 'z'.val)
      ↔ 97 ≤ c.toNat ∧ c.toNat ≤ 122 := Iff.rfl
  unfold Char.toUpper
  split
  case isTrue h =>
    rw [if_pos (hrange.mp h)]
    obtain ⟨hge, hle⟩ := hrange.mp h
    have hge : 97 ≤ c.val.toNat := hge
    have hle : c.val.toNat ≤ 122 := hle
    have hdown : ('A'.val - 'a'.val).toNat = 4294967264 := rfl
    show (c.val + ('A'.val - 'a'.val)).toNat = c.val.toNat - 32
    rw [UInt32.toNat_add, hdown]
    omega
  case isFalse h => rw [if_neg (mt hrange.mpr h)]

/-- Characters of keywords are small letters and digits, by their numbers. -/
theorem isKeywordChar_iff : isKeywordChar k = true ↔
    (97 ≤ k.toNat ∧ k.toNat ≤ 122) ∨ (48 ≤ k.toNat ∧ k.toNat ≤ 57) := by
  have hlower : k.isLower = (decide (97 ≤ k.toNat) && decide (k.toNat ≤ 122)) :=
    rfl
  rw [isKeywordChar, hlower, Bool.or_eq_true_iff, Char.isDigit_iff_toNat,
    Bool.and_eq_true_iff, decide_eq_true_iff, decide_eq_true_iff]
  exact Iff.rfl

/-- Four characters beyond ASCII fold to an ASCII letter; the others fold to
their small form. -/
theorem toNat_foldCase (c : Char) :
    (c.toNat = 304 ∧ (Text.foldCase c).toNat = 105)
      ∨ (c.toNat = 305 ∧ (Text.foldCase c).toNat = 105)
      ∨ (c.toNat = 383 ∧ (Text.foldCase c).toNat = 115)
      ∨ (c.toNat = 8490 ∧ (Text.foldCase c).toNat = 107)
      ∨ (c.toNat ≠ 304 ∧ c.toNat ≠ 305 ∧ c.toNat ≠ 383 ∧ c.toNat ≠ 8490
        ∧ (Text.foldCase c).toNat = c.toLower.toNat) := by
  unfold Text.foldCase
  split
  case h_1 h => exact .inl ⟨h, rfl⟩
  case h_2 h => exact .inr (.inl ⟨h, rfl⟩)
  case h_3 h => exact .inr (.inr (.inl ⟨h, rfl⟩))
  case h_4 h => exact .inr (.inr (.inr (.inl ⟨h, rfl⟩)))
  case h_5 hdotted hdotless hs hk =>
    exact .inr (.inr (.inr (.inr ⟨hdotted, hdotless, hs, hk, rfl⟩)))

/-- A folded character is a letter of a keyword exactly if it stands for it:
but for the four letters beyond ASCII, folding only moves capitals. -/
theorem foldCase_eq_iff (hk : isKeywordChar k = true) :
    Text.foldCase c = k ↔ StandsFor c k := by
  have hupper := toNat_toUpper k
  have hlower := toNat_toLower c
  have hfold := toNat_foldCase c
  rw [isKeywordChar_iff] at hk
  unfold StandsFor
  simp only [← Char.toNat_inj, Char.reduceToNat]
  rcases hfold with ⟨hc, hfold⟩ | ⟨hc, hfold⟩ | ⟨hc, hfold⟩ | ⟨hc, hfold⟩
    | ⟨h₁, h₂, h₃, h₄, hfold⟩
  all_goals rw [hfold]
  case inr.inr.inr.inr =>
    simp only [h₁, h₂, h₃, h₄, or_false, and_false]
    split at hupper
    case isTrue =>
      split at hlower
      case isTrue => omega
      case isFalse => omega
    case isFalse =>
      split at hlower
      case isTrue => omega
      case isFalse => omega
  -- the letters beyond ASCII
  all_goals
    rw [hc]
    split at hupper
    case isTrue => omega
    case isFalse => omega

-- ============================================================= keywords

/-- The text is the keyword, letter by letter. -/
def Spells (t keyword : Text) : Prop := List.Forall₂ StandsFor t keyword

instance (t keyword : Text) : Decidable (Spells t keyword) :=
  inferInstanceAs (Decidable (List.Forall₂ StandsFor t keyword))

/-- Keywords are written in small letters and digits. -/
def AreKeywords (keywords : List String) : Prop :=
  ∀ keyword ∈ keywords, ∀ k ∈ keyword.toList, isKeywordChar k = true

instance (keywords : List String) : Decidable (AreKeywords keywords) :=
  inferInstanceAs (Decidable
    (∀ keyword ∈ keywords, ∀ k ∈ keyword.toList, isKeywordChar k = true))

/-- The keywords of the table are keywords. -/
theorem areKeywords_table : ∀ row ∈ table, AreKeywords row.2 := by
  decide +kernel

/-- The pattern of a keyword spans the texts that spell it. -/
theorem spans_keyword {word : Text}
    (hword : ∀ k ∈ word, isKeywordChar k = true) :
    (keyword word).Spans behind u rest ↔ Spells u word := by
  induction word generalizing behind u with
  | nil => exact List.forall₂_nil_right_iff.symm
  | cons k word ih =>
      obtain ⟨hk, hword⟩ := List.forall_mem_cons.mp hword
      rw [Spells, List.forall₂_cons_right_iff]
      constructor
      · rintro ⟨_, w, rfl, ⟨c, rfl, hc⟩, hw⟩
        exact ⟨c, w, (foldCase_eq_iff hk).mp (beq_iff_eq.mp hc),
          (ih hword).mp hw, rfl⟩
      · rintro ⟨c, w, hc, hw, rfl⟩
        exact ⟨[c], w, rfl, ⟨c, rfl,
          beq_iff_eq.mpr ((foldCase_eq_iff hk).mpr hc)⟩, (ih hword).mpr hw⟩

/-- The pattern of several keywords spans the texts that spell one of them. -/
theorem spans_anyKeyword (h : AreKeywords keywords) :
    (anyKeyword keywords).Spans behind u rest
      ↔ ∃ keyword ∈ keywords, Spells u keyword.toList := by
  rw [anyKeyword, spans_oneOf]
  constructor
  · rintro ⟨p, hp, hspans⟩
    obtain ⟨k, hk, rfl⟩ := List.mem_map.mp hp
    exact ⟨k, hk, (spans_keyword (h k hk)).mp hspans⟩
  · rintro ⟨k, hk, hspells⟩
    exact ⟨_, List.mem_map.mpr ⟨k, hk, rfl⟩,
      (spans_keyword (h k hk)).mpr hspells⟩

/-- A slash stands for no character of a keyword. -/
theorem not_standsFor_slash (hk : isKeywordChar k = true) :
    ¬ StandsFor '/' k := by
  have hupper := toNat_toUpper k
  rw [isKeywordChar_iff] at hk
  unfold StandsFor
  simp only [← Char.toNat_inj, Char.reduceToNat]
  split at hupper
  case isTrue => omega
  case isFalse => omega

theorem Spells.slash_not_mem {word : Text}
    (hword : ∀ k ∈ word, isKeywordChar k = true) (h : Spells t word) :
    '/' ∉ t := by
  unfold Spells at h
  induction h with
  | nil => exact List.not_mem_nil
  | cons hc _ ih =>
      obtain ⟨hk, hword⟩ := List.forall_mem_cons.mp hword
      rw [List.mem_cons, not_or]
      refine ⟨fun heq => ?_, ih hword⟩
      rw [← heq] at hc
      exact not_standsFor_slash hk hc

-- ================================================================ marks

/-- A directory of the path is called by a keyword, or its last component
starts with one. -/
def Marked (keywords : List String) (path : Text) : Prop :=
  (∃ component ∈ (Path.components path).dropLast,
    ∃ keyword ∈ keywords, Spells component keyword.toList)
    ∨ ∃ keyword ∈ keywords,
      Spells ((Path.base path).take keyword.length) keyword.toList

instance (keywords : List String) (path : Text) :
    Decidable (Marked keywords path) :=
  inferInstanceAs (Decidable (_ ∨ _))

/-- What a mark takes up: a slash and a keyword, and behind that a slash or
the rest of the last component. -/
theorem spans_mark (h : AreKeywords keywords) :
    (mark keywords).Spans behind u rest ↔
    ∃ word, (∃ keyword ∈ keywords, Spells word keyword.toList)
      ∧ ((∃ more, u = '/' :: (word ++ more) ∧ '/' ∉ more
        ∧ (rest = [] ∨ rest = ['\n']))
        ∨ u = '/' :: (word ++ ['/'])) := by
  constructor
  · rintro (hlast | hdirectory)
    · obtain ⟨_, _, rfl, ⟨_, more, rfl, ⟨_, word, rfl, hslash, hword⟩, hmore⟩,
        rfl, hend⟩ := hlast
      rw [spans_lit.mp hslash]
      refine ⟨word, (spans_anyKeyword h).mp hword,
        .inl ⟨more, by simp, fun hmem => ?_, ?_⟩⟩
      · have hcls := hmore '/' hmem
        cases hcls
      · simpa [Anchor.holds] using hend
    · obtain ⟨_, _, rfl, ⟨_, word, rfl, hslash, hword⟩, hend⟩ := hdirectory
      rw [spans_lit.mp hslash, spans_lit.mp hend]
      exact ⟨word, (spans_anyKeyword h).mp hword, .inr (by simp)⟩
  · rintro ⟨word, hword, ⟨more, rfl, hmore, hrest⟩ | rfl⟩
    · refine .inl ⟨'/' :: (word ++ more), [], by simp,
        ⟨'/' :: word, more, rfl,
          ⟨['/'], word, rfl, spans_lit.mpr rfl,
            (spans_anyKeyword h).mpr hword⟩,
          fun x hx => ?_⟩,
        rfl, ?_⟩
      · have hne : x ≠ '/' := fun heq => hmore (heq ▸ hx)
        simpa [except] using hne
      · simpa [Anchor.holds] using hrest
    · exact .inr ⟨'/' :: word, ['/'], rfl, ⟨['/'], word, rfl, spans_lit.mpr rfl,
        (spans_anyKeyword h).mpr hword⟩, spans_lit.mpr rfl⟩

-- ================================================== the slashes of a path

/-- A slash of a path with one in front starts a component. -/
theorem exists_components_eq_append {before after : Text}
    (h : '/' :: path = before ++ '/' :: after) :
    ∃ up, Path.components path = up ++ Path.components after := by
  have hsplit : [] :: Text.split '/' path
      = Text.split '/' before ++ Text.split '/' after := by
    rw [← Text.split_append_cons, ← h, Text.split, if_pos rfl]
  cases hbefore : Text.split '/' before with
  | nil => exact absurd hbefore (Text.split_ne_nil '/' before)
  | cons first up =>
      rw [hbefore, List.cons_append] at hsplit
      exact ⟨up, (List.cons_eq_cons.mp hsplit).2⟩

/-- A component of a path with a slash in front has one in front of it. -/
theorem exists_eq_append_of_components {up below : List Text}
    (h : Path.components path = up ++ below) (hne : below ≠ []) :
    ∃ before, '/' :: path = before ++ '/' :: Text.join ['/'] below := by
  cases up with
  | nil =>
      rw [List.nil_append] at h
      exact ⟨[], by rw [← h, Path.join_components]; rfl⟩
  | cons first up =>
      refine ⟨'/' :: Text.join ['/'] (first :: up), ?_⟩
      rw [← Path.join_components path, h,
        Text.join_append (List.cons_ne_nil first up) hne]
      simp only [List.append_assoc, List.cons_append, List.nil_append]

/-- The directories of a path are what stands between its slashes. -/
theorem mem_dropLast_components_iff {part : Text} :
    part ∈ (Path.components path).dropLast ↔
    '/' ∉ part ∧ ∃ before after,
      '/' :: path = before ++ '/' :: (part ++ '/' :: after) := by
  constructor
  · intro hpart
    refine ⟨Path.not_mem_of_mem_components
      ((List.dropLast_sublist _).subset hpart), ?_⟩
    obtain ⟨front, hfront⟩ := Path.exists_components_eq_concat_base path
    rw [hfront, List.dropLast_concat] at hpart
    obtain ⟨up, below, rfl⟩ := List.append_of_mem hpart
    rw [List.append_assoc, List.cons_append] at hfront
    obtain ⟨before, hbefore⟩ :=
      exists_eq_append_of_components hfront (List.cons_ne_nil _ _)
    -- a slash follows, since more components do
    obtain ⟨next, more, hnext⟩ := List.exists_cons_of_ne_nil
      (List.concat_ne_nil (Path.base path) below)
    rw [hnext, Text.join_cons_cons, List.append_assoc] at hbefore
    exact ⟨before, Text.join ['/'] (next :: more), hbefore⟩
  · rintro ⟨hslash, before, after, hsplit⟩
    obtain ⟨up, hup⟩ := exists_components_eq_append hsplit
    have hbelow : Path.components (part ++ '/' :: after)
        = part :: Text.split '/' after := by
      show Text.split '/' _ = _
      rw [Text.split_append_cons, Text.split_of_not_mem hslash]
      rfl
    rw [hup, hbelow, List.dropLast_append_of_ne_nil (List.cons_ne_nil part _),
      List.dropLast_cons_of_ne_nil (Text.split_ne_nil '/' after)]
    exact List.mem_append_right up List.mem_cons_self

/-- The last component of a path is what stands behind its last slash. -/
theorem base_eq_iff {last : Text} : Path.base path = last ↔
    '/' ∉ last ∧ ∃ before, '/' :: path = before ++ '/' :: last := by
  obtain ⟨front, hfront⟩ := Path.exists_components_eq_concat_base path
  constructor
  · rintro rfl
    refine ⟨Path.not_mem_of_mem_components (hfront ▸ List.mem_append_right front
      List.mem_cons_self), ?_⟩
    exact exists_eq_append_of_components hfront (List.cons_ne_nil _ _)
  · rintro ⟨hslash, before, hsplit⟩
    obtain ⟨up, hup⟩ := exists_components_eq_append hsplit
    have hlast : Path.components last = [last] := Text.split_of_not_mem hslash
    rw [hfront, hlast] at hup
    exact List.singleton_inj.mp (List.append_inj' hup rfl).2

/-- A path shows a concept exactly if one of its directories is called by a
keyword or its last component starts with one. -/
theorem shows_iff_marked (h : AreKeywords keywords) (path : Text) :
    shows keywords path = true ↔ Marked keywords path := by
  rw [shows, isSome_find?_iff]
  constructor
  · rintro ⟨before, u, after, hsplit, -, hspans⟩
    obtain ⟨word, ⟨keyword, hkeyword, hspells⟩, hword⟩ :=
      (spans_mark h).mp hspans
    have hslash := hspells.slash_not_mem (h keyword hkeyword)
    rcases hword with ⟨more, rfl, hmore, hafter⟩ | rfl
    · -- the component goes on to the end of the path
      have hlast : '/' ∉ word ++ (more ++ after) := by
        simp only [List.mem_append, not_or]
        refine ⟨hslash, hmore, ?_⟩
        rcases hafter with rfl | rfl
        · exact List.not_mem_nil
        · decide
      have hbase := base_eq_iff.mpr ⟨hlast, before, hsplit.trans (by simp)⟩
      refine .inr ⟨keyword, hkeyword, ?_⟩
      rw [hbase, ← String.length_toList, ← hspells.length_eq, List.take_left]
      exact hspells
    · -- the component ends with a slash
      have hpart := mem_dropLast_components_iff.mpr
        ⟨hslash, before, after, hsplit.trans (by simp)⟩
      exact .inl ⟨word, hpart, keyword, hkeyword, hspells⟩
  · rintro (⟨component, hcomponent, hspells⟩ | ⟨keyword, hkeyword, hspells⟩)
    · obtain ⟨-, before, after, hsplit⟩ :=
        mem_dropLast_components_iff.mp hcomponent
      refine ⟨before, '/' :: (component ++ ['/']), after,
        hsplit.trans (by simp), by simp, ?_⟩
      exact (spans_mark h).mpr ⟨component, hspells, .inr rfl⟩
    · obtain ⟨hbase, before, hsplit⟩ :=
        base_eq_iff.mp (rfl : Path.base path = _)
      have hcut := List.take_append_drop keyword.length (Path.base path)
      refine ⟨before, '/' :: Path.base path, [],
        by rw [hsplit, List.append_nil], by simp, ?_⟩
      refine (spans_mark h).mpr
        ⟨_, ⟨keyword, hkeyword, hspells⟩,
          .inl ⟨(Path.base path).drop keyword.length, by rw [hcut],
            fun hmem => ?_, .inl rfl⟩⟩
      exact hbase (List.mem_of_mem_drop hmem)

end SourceAtlas.Concept
