/-
Squeezing blanks. Between its ends a squeezed text is the text with every
run of blanks made one space, and that is a thing that can be done piece by
piece: `collapse` of a text is the collapse of its parts wherever it is cut
next to a character that is not blank. `squeeze` does the same and trims the
ends (`squeeze_eq_trim_collapse`), so whoever needs a squeezed text written
around its signs collapses it part by part.

Consumed by the theory of use trees, whose blanks are free around their
signs.
-/
import Mathlib.Data.List.DropRight
import SourceAtlas.Proofs.Text.Blank
import SourceAtlas.Proofs.Text.Split

namespace SourceAtlas.Text

-- ============================================================ collapsing

/-- The text with every run of blanks made one space, at the ends too. -/
def collapse : Text → Text
  | [] => []
  | c :: rest =>
    if isBlank c then ' ' :: (collapse rest).dropWhile isBlank
    else c :: collapse rest

variable {t a b : Text} {c : Char} {p : Char → Bool}

/-- A run of blanks becomes one space. -/
theorem collapse_cons_of_blank (h : isBlank c = true) (rest : Text) :
    collapse (c :: rest) = ' ' :: (collapse rest).dropWhile isBlank := by
  rw [collapse, if_pos h]

theorem collapse_cons_of_not_blank (h : isBlank c = false) (rest : Text) :
    collapse (c :: rest) = c :: collapse rest := by
  rw [collapse, if_neg (by simp [h])]

/-- Dropping stops at a character that is kept. -/
private theorem dropWhile_append_cons (a : Text) (h : p c = false) (b : Text) :
    (a ++ c :: b).dropWhile p = a.dropWhile p ++ c :: b := by
  induction a with
  | nil => simp [h]
  | cons d rest ih =>
      by_cases hd : p d = true
      · rw [List.cons_append, List.dropWhile_cons_of_pos hd, ih,
          List.dropWhile_cons_of_pos hd]
      · rw [List.cons_append, List.dropWhile_cons_of_neg hd,
          List.dropWhile_cons_of_neg hd, List.cons_append]

/-- A character that is not blank keeps what is before it from what is after
it. -/
theorem collapse_append_cons (a : Text) (hc : isBlank c = false) (b : Text) :
    collapse (a ++ c :: b) = collapse a ++ c :: collapse b := by
  induction a with
  | nil => exact collapse_cons_of_not_blank hc b
  | cons d rest ih =>
      cases hd : isBlank d with
      | true =>
          rw [List.cons_append, collapse_cons_of_blank hd,
            collapse_cons_of_blank hd, ih, dropWhile_append_cons _ hc,
            List.cons_append]
      | false =>
          rw [List.cons_append, collapse_cons_of_not_blank hd,
            collapse_cons_of_not_blank hd, ih, List.cons_append]

/-- Two texts collapse apart if the second does not start with a blank. -/
theorem collapse_append_of_opens (a : Text) (h : b.Opens) :
    collapse (a ++ b) = collapse a ++ collapse b := by
  obtain ⟨c, rest, rfl, hc⟩ := h
  rw [collapse_append_cons a hc, collapse_cons_of_not_blank hc]

theorem collapse_append_of_closes (h : a.Closes) (b : Text) :
    collapse (a ++ b) = collapse a ++ collapse b := by
  obtain ⟨rest, c, rfl, hc⟩ := h
  rw [List.append_assoc, List.singleton_append, collapse_append_cons rest hc,
    collapse_append_cons rest hc, collapse, List.append_assoc,
    List.singleton_append]

/-- Nothing collapses where there are no blanks. -/
theorem collapse_of_tight (h : t.Tight) : collapse t = t := by
  induction t with
  | nil => rfl
  | cons c rest ih =>
      obtain ⟨hc, hrest⟩ := List.forall_mem_cons.mp h
      rw [collapse_cons_of_not_blank hc, ih hrest]

/-- Blanks collapse to at most one space. -/
theorem collapse_of_blank (h : t.Blank) :
    collapse t = [] ∧ t = [] ∨ collapse t = [' '] := by
  induction t with
  | nil => exact Or.inl ⟨rfl, rfl⟩
  | cons c rest ih =>
      obtain ⟨hc, hrest⟩ := List.forall_mem_cons.mp h
      rw [collapse_cons_of_blank hc]
      rcases ih hrest with ⟨hnil, -⟩ | hspace
      · rw [hnil]
        exact Or.inr rfl
      · rw [hspace]
        exact Or.inr rfl

theorem blank_collapse (h : t.Blank) : (collapse t).Blank := by
  rcases collapse_of_blank h with ⟨hnil, -⟩ | hspace
  · rw [hnil]
    exact fun _ hc => absurd hc List.not_mem_nil
  · rw [hspace]
    intro c hc
    rw [List.mem_singleton.mp hc]
    decide

theorem collapse_of_blank_of_ne_nil (h : t.Blank) (hne : t ≠ []) :
    collapse t = [' '] :=
  (collapse_of_blank h).resolve_left fun hnil => hne hnil.2

/-- Blanks in front may be dropped before or after. -/
theorem collapse_dropWhile (t : Text) :
    collapse (t.dropWhile isBlank) = (collapse t).dropWhile isBlank := by
  induction t with
  | nil => rfl
  | cons c rest ih =>
      cases hc : isBlank c with
      | true =>
          rw [List.dropWhile_cons_of_pos hc, ih, collapse_cons_of_blank hc,
            List.dropWhile_cons_of_pos (by decide), List.dropWhile_idempotent]
      | false =>
          have hneg : ¬ isBlank c = true := by simp [hc]
          rw [List.dropWhile_cons_of_neg hneg, collapse_cons_of_not_blank hc,
            List.dropWhile_cons_of_neg hneg]

/-- What is collapsed once is collapsed. -/
theorem collapse_collapse (t : Text) : collapse (collapse t) = collapse t := by
  induction t with
  | nil => rfl
  | cons c rest ih =>
      cases hc : isBlank c with
      | true =>
          rw [collapse_cons_of_blank hc, collapse_cons_of_blank (by decide),
            collapse_dropWhile, ih, List.dropWhile_idempotent]
      | false =>
          rw [collapse_cons_of_not_blank hc, collapse_cons_of_not_blank hc, ih]

/-- Collapsing does not touch the last character unless it is blank. -/
theorem closes_collapse (h : t.Closes) : (collapse t).Closes := by
  obtain ⟨rest, c, rfl, hc⟩ := h
  exact ⟨collapse rest, c, collapse_append_cons rest hc [], hc⟩

/-- A text that does not start with a blank keeps its first character. -/
theorem opens_collapse (h : t.Opens) : (collapse t).Opens := by
  obtain ⟨c, rest, rfl, hc⟩ := h
  exact ⟨c, collapse rest, collapse_cons_of_not_blank hc rest, hc⟩

-- ============================================================== trimming

/-- Trimming the end of a text goes on past its first character only if
nothing else is left. -/
theorem trimEnd_cons (c : Char) (t : Text) :
    trimEnd p (c :: t) = if trimEnd p t = [] ∧ p c = true then []
      else c :: trimEnd p t := by
  unfold trimEnd
  rw [List.reverse_cons, List.dropWhile_append]
  by_cases hnil : t.reverse.dropWhile p = []
  · rw [hnil]
    by_cases hc : p c = true
    · simp [hc]
    · simp [hc]
  · simp [hnil]

/-- Nothing is left of blanks, and of nothing else. -/
theorem trim_eq_nil_iff : trim t = [] ↔ t.Blank := by
  have hend : trim t = [] ↔ ∀ c ∈ t.dropWhile isBlank, isBlank c = true :=
    List.rdropWhile_eq_nil_iff
  rw [hend, ← List.dropWhile_eq_nil_iff, List.dropWhile_idempotent,
    List.dropWhile_eq_nil_iff]
  rfl

/-- What is to be dropped around a text that neither starts nor ends with it is
dropped. -/
theorem trimBoth_append (ha : ∀ c ∈ a, p c = true)
    (hfirst : ∀ c ∈ t.head?, p c = false)
    (hlast : ∀ c ∈ t.getLast?, p c = false) (hb : ∀ c ∈ b, p c = true) :
    trimBoth p (a ++ t ++ b) = t := by
  have hnil : b.dropWhile p = [] := List.dropWhile_eq_nil_iff.mpr hb
  have hend : b.reverse.dropWhile p = [] :=
    List.dropWhile_eq_nil_iff.mpr fun d hd => hb d (List.mem_reverse.mp hd)
  unfold trimBoth trimEnd
  rw [List.append_assoc, List.dropWhile_append_of_pos ha]
  cases t with
  | nil =>
      rw [List.nil_append, hnil]
      rfl
  | cons c rest =>
      have hc : ¬ p c = true := by simp [hfirst c rfl]
      have hd :=
        hlast _ (List.getLast?_eq_some_getLast (List.cons_ne_nil c rest))
      rw [List.cons_append, List.dropWhile_cons_of_neg hc, ← List.cons_append,
        ← List.dropLast_concat_getLast (List.cons_ne_nil c rest),
        List.reverse_append,
        List.reverse_append, List.reverse_singleton, List.singleton_append,
        dropWhile_append_cons _ hd, hend]
      simp

/-- Blanks around a text that neither starts nor ends with one are trimmed. -/
theorem trim_append (ha : a.Blank) (ho : t.Opens) (hc : t.Closes)
    (hb : b.Blank) : trim (a ++ t ++ b) = t := by
  obtain ⟨c, rest, ht, hfirst⟩ := ho
  obtain ⟨front, d, ht', hlast⟩ := hc
  apply trimBoth_append ha _ _ hb
  · rw [ht]
    simpa using hfirst
  · rw [ht']
    simpa using hlast

/-- A text without blanks is not trimmed. -/
theorem trim_of_tight (h : t.Tight) : trim t = t := by
  by_cases hne : t = []
  · rw [hne]
    rfl
  · simpa using trim_append blank_nil (h.opens hne) (h.closes hne) blank_nil

-- ============================================================= squeezing

theorem ne_nil_of_mem_wordsFrom {current word : Text}
    (h : word ∈ wordsFrom current t) : word ≠ [] := by
  induction t generalizing current with
  | nil =>
      unfold wordsFrom at h
      split at h
      · cases h
      · next hcur =>
        rw [List.mem_singleton.mp h]
        simpa using hcur
  | cons c rest ih =>
      unfold wordsFrom at h
      split at h
      · split at h
        · exact ih h
        · next hcur =>
          rcases List.mem_cons.mp h with rfl | h
          · simpa using hcur
          · exact ih h
      · exact ih h

/-- Joining one more piece in front. -/
private theorem join_cons (sep piece : Text) (pieces : List Text) :
    join sep (piece :: pieces) = piece ++ if pieces = [] then []
      else sep ++ join sep pieces := by
  cases pieces with
  | nil => simp [join]
  | cons next more =>
      rw [join_cons_cons, if_neg (List.cons_ne_nil _ _), List.append_assoc]

/-- The words still to come, after the word being read: the rest of the text
with its blanks collapsed. -/
theorem join_wordsFrom (t : Text) :
    (∀ current, current ≠ [] →
        join [' '] (wordsFrom current t)
          = current.reverse ++ trimEnd isBlank (collapse t))
      ∧ join [' '] (wordsFrom [] t) = trim (collapse t) := by
  induction t with
  | nil =>
      refine ⟨fun current hcur => ?_, rfl⟩
      have hempty : current.isEmpty = false := by simpa using hcur
      simp [wordsFrom, hempty, join, collapse, trimEnd]
  | cons c rest ih =>
      obtain ⟨ihword, ihgap⟩ := ih
      cases hc : isBlank c with
      | true =>
          -- what follows the space is what the words after it join to
          have hrest : trimEnd isBlank ((collapse rest).dropWhile isBlank)
              = join [' '] (wordsFrom [] rest) := ihgap.symm
          rw [collapse_cons_of_blank hc]
          refine ⟨fun current hcur => ?_, ?_⟩
          · have hempty : current.isEmpty = false := by simpa using hcur
            have hspace : isBlank ' ' = true := by decide
            have hnil : join [' '] (wordsFrom [] rest) = []
                ↔ wordsFrom [] rest = [] :=
              join_eq_nil_iff fun _ => ne_nil_of_mem_wordsFrom
            rw [wordsFrom, if_pos hc, hempty, if_neg Bool.false_ne_true,
              join_cons, trimEnd_cons, hrest]
            simp only [hnil, hspace, and_true, List.singleton_append]
          · rw [wordsFrom, if_pos hc, List.isEmpty_nil, if_pos rfl, ihgap]
            unfold trim trimBoth
            rw [List.dropWhile_cons_of_pos (by decide),
              List.dropWhile_idempotent]
      | false =>
          have hword : ∀ current, join [' '] (wordsFrom current (c :: rest))
              = current.reverse ++ trimEnd isBlank (c :: collapse rest) := by
            intro current
            rw [wordsFrom, if_neg (by simp [hc]),
              ihword _ (List.cons_ne_nil _ _), trimEnd_cons,
              if_neg (by simp [hc]), List.reverse_cons, List.append_assoc,
              List.singleton_append]
          rw [collapse_cons_of_not_blank hc]
          refine ⟨fun current _ => hword current, ?_⟩
          rw [hword []]
          unfold trim trimBoth
          rw [List.dropWhile_cons_of_neg (by simp [hc])]
          rfl

/-- Squeezing collapses and trims. -/
theorem squeeze_eq_trim_collapse (t : Text) : squeeze t = trim (collapse t) :=
  (join_wordsFrom t).2

/-- Collapsing first makes no difference to squeezing. -/
theorem squeeze_collapse (t : Text) : squeeze (collapse t) = squeeze t := by
  rw [squeeze_eq_trim_collapse, squeeze_eq_trim_collapse, collapse_collapse]

theorem squeeze_of_blank (h : t.Blank) : squeeze t = [] := by
  rw [squeeze_eq_trim_collapse, trim_eq_nil_iff.mpr (blank_collapse h)]

/-- Squeezing a text with blanks around it. -/
theorem squeeze_append (ha : a.Blank) (ho : t.Opens) (hc : t.Closes)
    (hb : b.Blank) : squeeze (a ++ t ++ b) = collapse t := by
  rw [squeeze_eq_trim_collapse, collapse_append_of_closes (hc.append a),
    collapse_append_of_opens a ho]
  exact trim_append (blank_collapse ha) (opens_collapse ho) (closes_collapse hc)
    (blank_collapse hb)

end SourceAtlas.Text
