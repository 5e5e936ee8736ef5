/-
Splitting and joining texts at one character, tied to the list library:
`split` is `List.splitOn`, `join` with a one-character separator is
`List.intercalate`, and so the two undo each other on pieces without the
separator. Splitting at a longer separator undoes joining where the pieces
cannot hold its first character. The cut at the last occurrence is pinned
down by the one way of writing a text around it, and so is the cut at the
first one.

Consumed by the theory of paths, whose components are pieces between
slashes, and by those of use trees, of module paths, of import statements, of
diagrams and of routing directories.
-/
import SourceAtlas.Text.Basic

namespace SourceAtlas.Text

-- ==================================================== splitting, joining

/-- `split` is the library's split. -/
theorem split_eq_splitOn (sep : Char) (t : Text) :
    split sep t = t.splitOn sep := by
  induction t with
  | nil => rfl
  | cons c rest ih =>
      rw [List.splitOn_cons_eq_if_modifyHead, split, ih]
      by_cases hc : c = sep
      · rw [if_pos hc, if_pos (beq_iff_eq.mpr hc)]
      · rw [if_neg hc, if_neg (by simpa using hc)]
        cases hs : rest.splitOn sep with
        | nil => exact absurd hs (List.splitOn_ne_nil sep rest)
        | cons piece pieces => rfl

/-- Joining at least two pieces. -/
theorem join_cons_cons (sep first next : Text) (more : List Text) :
    join sep (first :: next :: more)
      = first ++ sep ++ join sep (next :: more) :=
  rfl

/-- `join` is the library's intercalation. -/
theorem join_eq_intercalate (sep : Text) (pieces : List Text) :
    join sep pieces = sep.intercalate pieces := by
  induction pieces with
  | nil => rfl
  | cons piece rest ih =>
      cases rest with
      | nil => simp [join]
      | cons next more =>
          rw [List.intercalate_cons_cons, join_cons_cons, ih]

/-- There is always a piece. -/
theorem split_ne_nil (sep : Char) (t : Text) : split sep t ≠ [] := by
  rw [split_eq_splitOn]
  exact List.splitOn_ne_nil sep t

/-- Joining the pieces of a text gives it back. -/
theorem join_split (sep : Char) (t : Text) : join [sep] (split sep t) = t := by
  rw [split_eq_splitOn, join_eq_intercalate]
  exact List.intercalate_splitOn sep

/-- Splitting what was joined gives the pieces back, unless the separator
occurs in one of them. -/
theorem split_join {sep : Char} {pieces : List Text} (hne : pieces ≠ [])
    (hsep : ∀ piece ∈ pieces, sep ∉ piece) :
    split sep (join [sep] pieces) = pieces := by
  rw [split_eq_splitOn, join_eq_intercalate]
  exact List.splitOn_intercalate sep hsep hne

/-- No piece holds the separator. -/
theorem not_mem_of_mem_split {sep : Char} {t piece : Text}
    (h : piece ∈ split sep t) : sep ∉ piece := by
  induction t generalizing piece with
  | nil =>
      rw [split, List.mem_singleton] at h
      rw [h]
      exact List.not_mem_nil
  | cons c rest ih =>
      rw [split] at h
      by_cases hc : c = sep
      · rw [if_pos hc] at h
        rcases List.mem_cons.1 h with rfl | h
        · exact List.not_mem_nil
        · exact ih h
      · rw [if_neg hc] at h
        cases hs : split sep rest with
        | nil => exact absurd hs (split_ne_nil sep rest)
        | cons first others =>
            rw [hs] at h ih
            rcases List.mem_cons.1 h with rfl | h
            · intro hm
              rcases List.mem_cons.1 hm with he | hm
              · exact hc he.symm
              · exact ih List.mem_cons_self hm
            · exact ih (List.mem_cons_of_mem _ h)

/-- A text without the separator is its only piece. -/
theorem split_of_not_mem {sep : Char} {t : Text} (h : sep ∉ t) :
    split sep t = [t] := by
  rw [split_eq_splitOn]
  exact List.splitOn_eq_singleton h

/-- The pieces around a separator are the pieces on its two sides. -/
theorem split_append_cons (sep : Char) (a b : Text) :
    split sep (a ++ sep :: b) = split sep a ++ split sep b := by
  rw [split_eq_splitOn, split_eq_splitOn, split_eq_splitOn]
  exact List.splitOn_append_cons_self a b

/-- Joining some pieces and some more. -/
theorem join_append {sep : Text} {pieces more : List Text} (hne : pieces ≠ [])
    (hmore : more ≠ []) :
    join sep (pieces ++ more) = join sep pieces ++ sep ++ join sep more := by
  induction pieces with
  | nil => exact absurd rfl hne
  | cons first rest ih =>
      cases rest with
      | nil =>
          obtain ⟨next, others, rfl⟩ := List.exists_cons_of_ne_nil hmore
          rfl
      | cons next others =>
          have hrest := ih (List.cons_ne_nil next others)
          rw [List.cons_append] at hrest
          rw [List.cons_append, List.cons_append, join_cons_cons, hrest,
            join_cons_cons]
          simp only [List.append_assoc]

/-- Joining one more piece at the end. -/
theorem join_concat {sep : Text} {pieces : List Text} (hne : pieces ≠ [])
    (piece : Text) :
    join sep (pieces ++ [piece]) = join sep pieces ++ sep ++ piece :=
  join_append hne (List.cons_ne_nil piece [])

/-- Pieces that are not empty join to a text that is not empty. -/
theorem join_eq_nil_iff {sep : Text} {pieces : List Text}
    (h : ∀ piece ∈ pieces, piece ≠ []) :
    join sep pieces = [] ↔ pieces = [] := by
  constructor
  · intro hj
    cases pieces with
    | nil => rfl
    | cons first rest =>
        have hfirst : first ≠ [] := h first List.mem_cons_self
        cases rest with
        | nil => exact absurd hj hfirst
        | cons next more =>
            rw [join_cons_cons, List.append_assoc] at hj
            exact absurd (List.append_eq_nil_iff.mp hj).1 hfirst
  · intro heq
    subst heq
    rfl

/-- Pieces that are neither empty nor hold the separator are known from what
they join to. -/
theorem join_inj {sep : Char} {pieces others : List Text}
    (hpieces : ∀ piece ∈ pieces, piece ≠ [] ∧ sep ∉ piece)
    (hothers : ∀ piece ∈ others, piece ≠ [] ∧ sep ∉ piece)
    (h : join [sep] pieces = join [sep] others) : pieces = others := by
  by_cases hnone : pieces = []
  · subst hnone
    exact ((join_eq_nil_iff fun piece hpiece => (hothers piece hpiece).1).mp
      h.symm).symm
  · have hsome : others ≠ [] := by
      rintro rfl
      exact hnone ((join_eq_nil_iff fun piece hpiece =>
        (hpieces piece hpiece).1).mp h)
    rw [← split_join hnone fun piece hpiece => (hpieces piece hpiece).2, h,
      split_join hsome fun piece hpiece => (hothers piece hpiece).2]

/-- A piece is part of the joined text. -/
theorem isInfix_join {sep piece : Text} {pieces : List Text}
    (h : piece ∈ pieces) : piece <:+: join sep pieces := by
  induction pieces with
  | nil => cases h
  | cons first rest ih =>
      cases rest with
      | nil =>
          rw [List.mem_singleton] at h
          subst h
          exact List.infix_rfl
      | cons next more =>
          rw [join_cons_cons]
          rcases List.mem_cons.1 h with rfl | h
          · rw [List.append_assoc]
            exact (List.prefix_append _ _).isInfix
          · exact (ih h).trans (List.suffix_append _ _).isInfix

theorem isInfix_of_mem_split {sep : Char} {t piece : Text}
    (h : piece ∈ split sep t) : piece <:+: t := by
  have hjoin : piece <:+: join [sep] (split sep t) := isInfix_join h
  rwa [join_split] at hjoin

/-- Whatever stands in joined pieces stands in one of them or in the
separator. -/
theorem mem_join {sep : Text} {pieces : List Text} {c : Char}
    (h : c ∈ join sep pieces) : c ∈ sep ∨ ∃ piece ∈ pieces, c ∈ piece := by
  induction pieces with
  | nil => cases h
  | cons first rest ih =>
      cases rest with
      | nil => exact Or.inr ⟨first, List.mem_cons_self, h⟩
      | cons next more =>
          rw [join_cons_cons, List.mem_append, List.mem_append] at h
          rcases h with (h | h) | h
          · exact Or.inr ⟨first, List.mem_cons_self, h⟩
          · exact Or.inl h
          · rcases ih h with h | ⟨piece, hpiece, h⟩
            · exact Or.inl h
            · exact Or.inr ⟨piece, List.mem_cons_of_mem _ hpiece, h⟩

-- ==================================================== one way of cutting

/-- A text is written around its first character of a kind in one way. -/
theorem eq_of_append_cons {kind : Char → Prop} {x y : Char} {u v s t : Text}
    (hu : ∀ c ∈ u, ¬ kind c) (hv : ∀ c ∈ v, ¬ kind c) (hx : kind x)
    (hy : kind y) (h : u ++ x :: s = v ++ y :: t) : u = v ∧ x = y ∧ s = t := by
  induction u generalizing v with
  | nil =>
      cases v with
      | nil => exact ⟨rfl, List.cons_eq_cons.mp h⟩
      | cons c v =>
          obtain ⟨rfl, -⟩ := List.cons_eq_cons.mp h
          exact absurd hx (hv x List.mem_cons_self)
  | cons c u ih =>
      obtain ⟨hc, hu⟩ := List.forall_mem_cons.mp hu
      cases v with
      | nil =>
          obtain ⟨rfl, -⟩ := List.cons_eq_cons.mp h
          exact absurd hy hc
      | cons d v =>
          obtain ⟨rfl, hrest⟩ := List.cons_eq_cons.mp h
          obtain ⟨rfl, hxy⟩ := ih hu (List.forall_mem_cons.mp hv).2 hrest
          exact ⟨rfl, hxy⟩

/-- Behind a run of one kind, the first character of another kind is the
same. -/
theorem head_eq_of_append_cons {kind : Char → Bool} {x y : Char}
    {u v s t : Text} (hu : ∀ c ∈ u, kind c = true) (hv : ∀ c ∈ v, kind c = true)
    (hx : kind x = false) (hy : kind y = false)
    (h : u ++ x :: s = v ++ y :: t) : x = y := by
  have hother {u : Text} (hu : ∀ c ∈ u, kind c = true) :
      ∀ c ∈ u, ¬ kind c = false := by
    intro c hc
    simp [hu c hc]
  exact (eq_of_append_cons (hother hu) (hother hv) hx hy h).2.1

/-- A text is written around its first separator in one way. -/
theorem eq_of_append_separator {c : Char} {u v s t : Text} (hu : c ∉ u)
    (hv : c ∉ v) (h : u ++ c :: s = v ++ c :: t) : u = v ∧ s = t := by
  have hother {u : Text} (hu : c ∉ u) : ∀ x ∈ u, ¬ x = c := by
    rintro x hx rfl
    exact hu hx
  obtain ⟨heq, -, hrest⟩ := eq_of_append_cons (hother hu) (hother hv) rfl rfl h
  exact ⟨heq, hrest⟩

-- ========================================= separators of several characters

/-- What the separator has used up is passed over. -/
theorem splitSeqFrom_append (sep skipped rest : Text) :
    splitSeqFrom sep skipped.length (skipped ++ rest)
      = splitSeqFrom sep 0 rest := by
  induction skipped with
  | nil => rfl
  | cons c skipped ih => exact ih

/-- A separator cannot be found where its first character does not occur. -/
theorem splitSeq_of_not_mem {c : Char} {t : Text} (more : Text) (h : c ∉ t) :
    splitSeq (c :: more) t = [t] := by
  induction t with
  | nil => rfl
  | cons d rest ih =>
      obtain ⟨hd, hrest⟩ := List.ne_and_not_mem_of_not_mem_cons h
      have hrest := ih hrest
      unfold splitSeq at hrest ⊢
      rw [splitSeqFrom, hrest, if_neg (by simp [hd])]

/-- The first piece ends at the separator if its first character does not
occur before it. -/
theorem splitSeq_append {c : Char} {a : Text} (more b : Text) (h : c ∉ a) :
    splitSeq (c :: more) (a ++ c :: more ++ b)
      = a :: splitSeq (c :: more) b := by
  induction a with
  | nil =>
      have hsep : (c :: more).isPrefixOf (c :: (more ++ b)) = true := by simp
      show splitSeqFrom (c :: more) 0 (c :: (more ++ b)) = _
      rw [splitSeqFrom, if_pos hsep]
      exact congrArg _ (splitSeqFrom_append (c :: more) more b)
  | cons d rest ih =>
      obtain ⟨hd, hrest⟩ := List.ne_and_not_mem_of_not_mem_cons h
      have hrest := ih hrest
      unfold splitSeq at hrest ⊢
      rw [List.cons_append, List.cons_append, splitSeqFrom, hrest,
        if_neg (by simp [hd])]

/-- Splitting what was joined gives the pieces back, unless the separator
could start in one of them. -/
theorem splitSeq_join {c : Char} {pieces : List Text} (more : Text)
    (hne : pieces ≠ []) (h : ∀ piece ∈ pieces, c ∉ piece) :
    splitSeq (c :: more) (join (c :: more) pieces) = pieces := by
  induction pieces with
  | nil => exact absurd rfl hne
  | cons first rest ih =>
      obtain ⟨hfirst, hrest⟩ := List.forall_mem_cons.mp h
      cases rest with
      | nil => exact splitSeq_of_not_mem more hfirst
      | cons next others =>
          rw [join_cons_cons, splitSeq_append more _ hfirst,
            ih (List.cons_ne_nil _ _) hrest]

-- ======================================================= the first cut

/-- A separator is cut at behind whatever its first character does not occur
in. -/
theorem cut?_append {c : Char} {a : Text} (more rest : Text) (h : c ∉ a) :
    cut? (c :: more) (a ++ rest) = (cut? (c :: more) rest).map fun cut =>
      (a ++ cut.1, cut.2) := by
  induction a with
  | nil => exact Option.map_id'.symm
  | cons d a ih =>
      obtain ⟨hd, ha⟩ := List.ne_and_not_mem_of_not_mem_cons h
      rw [List.cons_append, cut?, ih ha, if_neg (by simp [hd]), Option.map_map]
      rfl

/-- At the separator the cut is there. -/
theorem cut?_separator (c : Char) (more rest : Text) :
    cut? (c :: more) (c :: more ++ rest) = some ([], rest) := by
  simp [cut?]

/-- A separator cannot be found where its first character does not occur. -/
theorem before_of_not_mem {c : Char} {t : Text} (more : Text) (h : c ∉ t) :
    before (c :: more) t = t := by
  have hcut : cut? (c :: more) t = none := by
    have hcut := cut?_append more [] h
    rwa [List.append_nil] at hcut
  unfold before
  rw [hcut]
  rfl

/-- The cut is at the separator if its first character does not occur before
it. -/
theorem before_append {c : Char} {a : Text} (more b : Text) (h : c ∉ a) :
    before (c :: more) (a ++ c :: more ++ b) = a := by
  unfold before
  rw [List.append_assoc, cut?_append more _ h, cut?_separator]
  exact List.append_nil a

-- ======================================================== the last cut

/-- There is no last occurrence exactly if there is none. -/
theorem cutLast?_eq_none_iff {c : Char} {t : Text} :
    cutLast? [c] t = none ↔ c ∉ t := by
  induction t with
  | nil => simp [cutLast?]
  | cons d rest ih =>
      rw [cutLast?]
      cases hr : cutLast? [c] rest with
      | some cut =>
          have hmem : c ∈ rest := by
            by_cases hm : c ∈ rest
            · exact hm
            · rw [ih.mpr hm] at hr
              cases hr
          simp [hmem]
      | none =>
          have hn := ih.mp hr
          by_cases hd : c = d
          · simp [hd]
          · simp [hd, hn]

/-- A text written around an occurrence with none after it is cut there. -/
theorem cutLast?_append {c : Char} {b : Text} (a : Text) (hb : c ∉ b) :
    cutLast? [c] (a ++ c :: b) = some (a, b) := by
  induction a with
  | nil =>
      rw [List.nil_append, cutLast?, cutLast?_eq_none_iff.mpr hb]
      simp
  | cons d rest ih => rw [List.cons_append, cutLast?, ih]

/-- The cut shows how the text is written around its last occurrence. -/
theorem eq_append_of_cutLast? {c : Char} {t a b : Text}
    (h : cutLast? [c] t = some (a, b)) : t = a ++ c :: b ∧ c ∉ b := by
  have hmem : c ∈ t := by
    by_cases hm : c ∈ t
    · exact hm
    · rw [cutLast?_eq_none_iff.mpr hm] at h
      cases h
  -- the last occurrence is the first one from the other end
  obtain ⟨after, before, ht, hafter⟩ :=
    List.eq_append_cons_of_mem (List.mem_reverse.mpr hmem)
  have ht' : t = before.reverse ++ c :: after.reverse := by
    rw [← List.reverse_reverse t, ht]
    simp
  have hb : c ∉ after.reverse := by simpa using hafter
  rw [ht', cutLast?_append _ hb] at h
  injection h with h
  injection h with ha hb'
  rw [← ha, ← hb']
  exact ⟨ht', hb⟩

/-- A separator cannot be found where its first character does not occur. -/
theorem cutLast?_eq_none_of_not_mem {c : Char} {t : Text} (more : Text)
    (h : c ∉ t) : cutLast? (c :: more) t = none := by
  induction t with
  | nil => rfl
  | cons d rest ih =>
      obtain ⟨hd, hrest⟩ := List.ne_and_not_mem_of_not_mem_cons h
      rw [cutLast?, ih hrest]
      simp [hd]

theorem afterLast_of_not_mem {c : Char} {t : Text} (more : Text) (h : c ∉ t) :
    afterLast (c :: more) t = t := by
  unfold afterLast
  rw [cutLast?_eq_none_of_not_mem more h]
  rfl

/-- The cut is at a doubled character if the character does not occur after
it. -/
theorem afterLast_double_append {c : Char} {b : Text} (a : Text) (h : c ∉ b) :
    afterLast [c, c] (a ++ [c, c] ++ b) = b := by
  have hsingle : cutLast? [c, c] (c :: b) = none := by
    rw [cutLast?, cutLast?_eq_none_of_not_mem _ h]
    cases b with
    | nil => simp
    | cons d rest =>
        have hd : c ≠ d := (List.ne_and_not_mem_of_not_mem_cons h).1
        simp [hd]
  have hcut : cutLast? [c, c] (a ++ [c, c] ++ b) = some (a, b) := by
    induction a with
    | nil =>
        show cutLast? [c, c] (c :: c :: b) = _
        rw [cutLast?, hsingle]
        simp
    | cons d rest ih => rw [List.cons_append, List.cons_append, cutLast?, ih]
  unfold afterLast
  rw [hcut]
  rfl

-- ============================================================ trimming

/-- Trimming the end leaves a front part. -/
theorem isPrefix_trimEnd (p : Char → Bool) (t : Text) : trimEnd p t <+: t := by
  have h : t.reverse.dropWhile p <:+ t.reverse := List.dropWhile_suffix p
  rwa [← List.reverse_prefix, List.reverse_reverse] at h

end SourceAtlas.Text
