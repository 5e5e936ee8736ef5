/-
Texts by the characters that they are made of: nothing but blanks, no blank at
all, or no blank at one of the ends. Spaces and tabs are the blanks that stay
on a line, and no blank is part of a word.

Consumed by the theories of squeezing and of lists, and by every theory of
statements that are written with blanks around their signs.
-/
import SourceAtlas.Text.Blank
import SourceAtlas.Text.Word

namespace SourceAtlas.Text

-- ============================================================ vocabulary

/-- Nothing but blanks. -/
def Blank (t : Text) : Prop := ∀ c ∈ t, isBlank c = true

instance : DecidablePred Blank :=
  fun t => inferInstanceAs (Decidable (∀ c ∈ t, isBlank c = true))

/-- No blank at all. -/
def Tight (t : Text) : Prop := ∀ c ∈ t, isBlank c = false

/-- The first character is there and not blank. -/
def Opens (t : Text) : Prop := ∃ c rest, t = c :: rest ∧ isBlank c = false

/-- The last character is there and not blank. -/
def Closes (t : Text) : Prop := ∃ rest c, t = rest ++ [c] ∧ isBlank c = false

/-- Spaces and tabs. -/
def Inline (t : Text) : Prop := ∀ c ∈ t, isInline c = true

/-- Spaces and tabs, at least one. -/
structure Apart (t : Text) : Prop where
  nonempty : t ≠ []
  inline : Inline t

variable {t a b before name w ind gap rest : Text} {c : Char}

-- ================================================================= texts

/-- There is no character in an empty text that is not blank. -/
theorem blank_nil : Blank [] := fun _ hc => absurd hc List.not_mem_nil

/-- A text without blanks has none at its start. -/
theorem Tight.opens (h : t.Tight) (hne : t ≠ []) : t.Opens := by
  obtain ⟨c, rest, rfl⟩ := List.exists_cons_of_ne_nil hne
  exact ⟨c, rest, rfl, h c List.mem_cons_self⟩

/-- Nor has it one at its end. -/
theorem Tight.closes (h : t.Tight) (hne : t ≠ []) : t.Closes := by
  refine ⟨t.dropLast, t.getLast hne,
    (List.dropLast_concat_getLast hne).symm, ?_⟩
  exact h _ (List.getLast_mem hne)

/-- What is added behind does not change how a text starts. -/
theorem Opens.append (h : a.Opens) (b : Text) : (a ++ b).Opens := by
  obtain ⟨c, rest, rfl, hc⟩ := h
  exact ⟨c, rest ++ b, rfl, hc⟩

/-- What is added in front does not change how a text ends. -/
theorem Closes.append (h : b.Closes) (a : Text) : (a ++ b).Closes := by
  obtain ⟨rest, c, rfl, hc⟩ := h
  exact ⟨a ++ rest, c, by rw [List.append_assoc], hc⟩

/-- Nothing else is in a text of blanks. -/
theorem not_mem_of_blank (h : Blank t) (hc : isBlank c = false) : c ∉ t := by
  intro hmem
  rw [h c hmem] at hc
  cases hc

-- ============================================================ characters

/-- Spaces and tabs are blanks. -/
theorem isBlank_of_isInline (h : isInline c = true) : isBlank c = true := by
  rcases Bool.or_eq_true_iff.mp h with h | h
  · rw [beq_iff_eq.mp h]
    decide
  · rw [beq_iff_eq.mp h]
    decide

theorem Inline.blank (h : Inline t) : Blank t :=
  fun c hc => isBlank_of_isInline (h c hc)

/-- Spaces and tabs stay on one line. -/
theorem Inline.feed_not_mem (h : Inline t) : '\n' ∉ t :=
  fun hc => absurd (h '\n' hc) (by decide)

/-- No white space is a letter, a number or the underscore. -/
theorem isWord_of_isBlank (h : isBlank c = true) : isWord c = false := by
  -- there are few of them, so they can be gone through
  have hall :
      ∀ range ∈ blankRanges,
        ∀ n ∈ List.range' range.1 (range.2 + 1 - range.1),
          isWord (Char.ofNat n) = false := by decide +kernel
  obtain ⟨⟨low, high⟩, hrange, hc⟩ := List.any_eq_true.mp h
  have hmem : c.toNat ∈ List.range' low (high + 1 - low) := by
    rw [List.mem_range'_1]
    simp only [Bool.and_eq_true, decide_eq_true_eq] at hc
    omega
  rw [← Char.ofNat_toNat c]
  exact hall _ hrange _ hmem

/-- No character of a word is blank. -/
theorem isBlank_of_isWord (h : isWord c = true) : isBlank c = false := by
  rw [← Bool.not_eq_true]
  intro hblank
  rw [isWord_of_isBlank hblank] at h
  cases h

/-- The letters of the basic alphabet belong to words. -/
theorem isWord_of_isAlpha (h : c.isAlpha = true) : isWord c = true := by
  have hascii : c.toNat < 128 := by
    have hlast : 'Z'.val.toNat < 128 ∧ 'z'.val.toNat < 128 := by decide
    rcases Bool.or_eq_true_iff.mp h with hupper | hlower
    · have hrange := (of_decide_eq_true hupper).2
      exact Nat.lt_of_le_of_lt (UInt32.le_iff_toNat_le.mp hrange) hlast.1
    · have hrange := of_decide_eq_true (Bool.and_eq_true_iff.mp hlower).2
      exact Nat.lt_of_le_of_lt (UInt32.le_iff_toNat_le.mp hrange) hlast.2
  rw [isWord, if_pos hascii, Char.isAlphanum, h]
  rfl

theorem isWord_of_isUpper (h : c.isUpper = true) : isWord c = true :=
  isWord_of_isAlpha (Bool.or_eq_true_iff.mpr (.inl h))

theorem isBlank_of_isUpper (h : c.isUpper = true) : isBlank c = false :=
  isBlank_of_isWord (isWord_of_isUpper h)

-- ================================================================= words

theorem wordsFrom_append_of_blank (h : Blank before) (t : Text) :
    wordsFrom [] (before ++ t) = wordsFrom [] t := by
  induction before with
  | nil => rfl
  | cons c before ih =>
      obtain ⟨hc, hbefore⟩ := List.forall_mem_cons.mp h
      rw [List.cons_append, wordsFrom, if_pos hc, List.isEmpty_nil,
        if_pos rfl, ih hbefore]

/-- A text without blanks belongs to one word. -/
theorem wordsFrom_append_of_tight (h : Tight name) (current rest : Text) :
    wordsFrom current (name ++ rest)
      = wordsFrom (name.reverse ++ current) rest := by
  induction name generalizing current with
  | nil => rfl
  | cons c name ih =>
      obtain ⟨hc, hname⟩ := List.forall_mem_cons.mp h
      rw [List.cons_append, wordsFrom, if_neg (by simp [hc]), ih hname,
        List.reverse_cons, List.append_assoc, List.singleton_append]

/-- The first word ends at the first blank behind it. -/
theorem head?_words (hbefore : Blank before) (hname : Tight name)
    (hne : name ≠ []) (hrest : ∀ c ∈ rest.head?, isBlank c = true) :
    (words (before ++ name ++ rest)).head? = some name := by
  have hempty : name.reverse.isEmpty = false := by simpa using hne
  rw [words, List.append_assoc, wordsFrom_append_of_blank hbefore,
    wordsFrom_append_of_tight hname, List.append_nil]
  cases rest with
  | nil => simp [wordsFrom, hempty]
  | cons c rest => simp [wordsFrom, hrest c rfl, hempty]

/-- The first of some blanks is one. -/
theorem isBlank_head (h : Blank t) : ∀ c ∈ t.head?, isBlank c = true :=
  fun c hc => h c (List.mem_of_mem_head? hc)

-- ============================================================ first words

/-- The word that a line starts with, if any. -/
def firstWord (t : Text) : Text := (t.dropWhile isInline).takeWhile isWord

/-- Spaces and tabs are not part of a word. -/
theorem isWord_of_isInline (h : isInline c = true) : isWord c = false :=
  isWord_of_isBlank (isBlank_of_isInline h)

theorem isInline_of_isWord (h : isWord c = true) : isInline c = false := by
  rw [← Bool.not_eq_true]
  intro hinline
  rw [isWord_of_isInline hinline] at h
  cases h

/-- Indentation does not change the first word. -/
theorem firstWord_append_of_inline (h : Inline ind) (t : Text) :
    firstWord (ind ++ t) = firstWord t := by
  rw [firstWord, firstWord, List.dropWhile_append_of_pos h]

/-- The first word goes on as far as its characters do. -/
theorem firstWord_append_of_word (hne : w ≠ []) (hw : ∀ c ∈ w, isWord c = true)
    (hrest : ∀ c ∈ rest.head?, isWord c = false) :
    firstWord (w ++ rest) = w := by
  obtain ⟨c, w, rfl⟩ := List.exists_cons_of_ne_nil hne
  have hc := isInline_of_isWord (hw c List.mem_cons_self)
  rw [firstWord, List.cons_append, List.dropWhile_cons_of_neg (by simp [hc]),
    ← List.cons_append, List.takeWhile_append_of_pos hw]
  cases rest with
  | nil => simp
  | cons d rest => simp [hrest d rfl]

/-- A text that starts with a sign has no first word. -/
theorem firstWord_cons_of_sign (hinline : isInline c = false)
    (hword : isWord c = false) (t : Text) : firstWord (c :: t) = [] := by
  rw [firstWord, List.dropWhile_cons_of_neg (by simp [hinline]),
    List.takeWhile_cons_of_neg (by simp [hword])]

/-- A sign ends the first word. -/
theorem firstWord_append_cons (hinline : isInline c = false)
    (hword : isWord c = false) (u t : Text) :
    firstWord (u ++ c :: t) = firstWord u := by
  rw [firstWord, firstWord, List.dropWhile_append]
  split
  case isTrue hempty =>
    rw [List.isEmpty_iff.mp hempty,
      List.dropWhile_cons_of_neg (by simp [hinline]),
      List.takeWhile_cons_of_neg (by simp [hword])]
    rfl
  case isFalse =>
    rw [List.takeWhile_append]
    split
    case isTrue hall =>
      rw [List.takeWhile_cons_of_neg (by simp [hword]), List.append_nil]
      exact ((List.takeWhile_prefix _).eq_of_length hall).symm
    case isFalse => rfl

/-- Texts apart have a space or a tab between them. -/
theorem head?_append_of_apart (h : Apart gap) (t : Text) :
    ∀ c ∈ (gap ++ t).head?, isInline c = true := by
  obtain ⟨c, gap, rfl⟩ := List.exists_cons_of_ne_nil h.nonempty
  simpa using h.inline c List.mem_cons_self

/-- The first word of a headline is its keyword. -/
theorem firstWord_headline (hne : w ≠ []) (hw : ∀ c ∈ w, isWord c = true)
    (hind : Inline ind) (hgap : Apart gap) (t : Text) :
    firstWord (ind ++ w ++ gap ++ t) = w := by
  rw [List.append_assoc, List.append_assoc, firstWord_append_of_inline hind]
  apply firstWord_append_of_word hne hw
  exact fun c hc => isWord_of_isInline (head?_append_of_apart hgap t c hc)

end SourceAtlas.Text
