/-
What globs of words and stars match. A glob is read from the left: a star takes
away any beginning of the text, and a word takes away itself. With that the
matcher, which tries the ends of a text one after the other, is never looked at
again: where a word stands between stars, or at an end of the glob, says where
it stands in the text.

- `accepts_star`, `accepts_word_append`: reading a glob from the left.
- `accepts_word_star_word`: what a glob fixes at both ends does not overlap in
  the text.
- `isTestFile_iff`: test files by the parts of their names.
-/
import SourceAtlas.Survey

namespace SourceAtlas

namespace Glob

variable {c : Char} {word front glob t : Text}

-- ================================================================= ends

/-- Trying a text and what is left of it is trying its ends. -/
theorem anySuffix_iff {p : Text → Bool} :
    anySuffix p t = true ↔ ∃ rest, rest <:+ t ∧ p rest = true := by
  induction t with
  | nil =>
      rw [anySuffix]
      constructor
      · intro h
        exact ⟨[], List.suffix_rfl, h⟩
      · rintro ⟨rest, hrest, h⟩
        rwa [List.suffix_nil.mp hrest] at h
  | cons c t ih =>
      rw [anySuffix, Bool.or_eq_true, ih]
      constructor
      · intro h
        rcases h with h | ⟨rest, hrest, h⟩
        · exact ⟨c :: t, List.suffix_rfl, h⟩
        · exact ⟨rest, hrest.trans (List.suffix_cons c t), h⟩
      · rintro ⟨rest, hrest, h⟩
        rcases List.suffix_cons_iff.mp hrest with rfl | hrest
        · exact Or.inl h
        · exact Or.inr ⟨rest, hrest, h⟩

-- ========================================================= words and stars

/-- Whether a character stands for itself in a glob. -/
def IsPlain (c : Char) : Prop := c ≠ '*' ∧ c ≠ '?' ∧ c ≠ '['

instance (c : Char) : Decidable (IsPlain c) :=
  inferInstanceAs (Decidable (_ ∧ _ ∧ _))

/-- The empty pattern accepts the empty text only. -/
theorem accepts_nil : accepts [] t = true ↔ t = [] := List.isEmpty_iff

theorem parse_star (glob : Text) : parse ('*' :: glob) = .star :: parse glob :=
  rfl

theorem parse_plain (h : IsPlain c) (glob : Text) :
    parse (c :: glob) = .one (· == c) :: parse glob := by
  obtain ⟨hstar, hquestion, hbracket⟩ := h
  unfold parse
  rw [parseFrom, if_neg hstar, if_neg hquestion, if_neg hbracket]

/-- A star takes away any beginning. -/
theorem accepts_star :
    accepts ('*' :: glob) t = true
      ↔ ∃ rest, rest <:+ t ∧ accepts glob rest = true := by
  unfold accepts
  rw [parse_star, matchParts, anySuffix_iff]

/-- A plain character takes itself away. -/
theorem accepts_plain_cons (h : IsPlain c) :
    accepts (c :: glob) t = true
      ↔ ∃ rest, t = c :: rest ∧ accepts glob rest = true := by
  unfold accepts
  rw [parse_plain h]
  cases t with
  | nil => simp [matchParts]
  | cons d rest =>
      rw [matchParts, Bool.and_eq_true, beq_iff_eq]
      constructor
      · rintro ⟨rfl, hrest⟩
        exact ⟨rest, rfl, hrest⟩
      · rintro ⟨after, heq, hafter⟩
        obtain ⟨rfl, rfl⟩ := List.cons_eq_cons.mp heq
        exact ⟨rfl, hafter⟩

/-- A word takes itself away. -/
theorem accepts_word_append (h : ∀ c ∈ word, IsPlain c) :
    accepts (word ++ glob) t = true
      ↔ ∃ rest, t = word ++ rest ∧ accepts glob rest = true := by
  induction word generalizing t with
  | nil => simp
  | cons c word ih =>
      obtain ⟨hc, hword⟩ := List.forall_mem_cons.mp h
      rw [List.cons_append, accepts_plain_cons hc]
      constructor
      · rintro ⟨rest, rfl, hrest⟩
        obtain ⟨after, rfl, hafter⟩ := (ih hword).mp hrest
        exact ⟨after, rfl, hafter⟩
      · rintro ⟨after, rfl, hafter⟩
        exact ⟨word ++ after, rfl, (ih hword).mpr ⟨after, rfl, hafter⟩⟩

-- ============================================================ three shapes

/-- A glob without stars matches itself. -/
theorem accepts_word (h : ∀ c ∈ word, IsPlain c) :
    accepts word t = true ↔ t = word := by
  have hword : accepts (word ++ []) t = true
      ↔ ∃ rest, t = word ++ rest ∧ accepts [] rest = true :=
    accepts_word_append h
  rw [List.append_nil] at hword
  rw [hword]
  constructor
  · rintro ⟨rest, rfl, hrest⟩
    rw [accepts_nil.mp hrest, List.append_nil]
  · rintro rfl
    exact ⟨[], (List.append_nil _).symm, accepts_nil.mpr rfl⟩

/-- A word behind a star stands at the end. -/
theorem accepts_star_word (h : ∀ c ∈ word, IsPlain c) :
    accepts ('*' :: word) t = true ↔ word <:+ t := by
  rw [accepts_star]
  constructor
  · rintro ⟨rest, hrest, haccepts⟩
    rwa [← (accepts_word h).mp haccepts]
  · intro hword
    exact ⟨word, hword, (accepts_word h).mpr rfl⟩

/-- A star matches every text. -/
theorem accepts_lone_star (t : Text) : accepts ['*'] t = true :=
  accepts_star.mpr ⟨[], List.nil_suffix, accepts_nil.mpr rfl⟩

/-- A word between stars stands somewhere. -/
theorem accepts_star_word_star (h : ∀ c ∈ word, IsPlain c) :
    accepts ('*' :: (word ++ ['*'])) t = true ↔ word <:+: t := by
  rw [accepts_star]
  constructor
  · rintro ⟨rest, hrest, haccepts⟩
    obtain ⟨after, rfl, -⟩ := (accepts_word_append h).mp haccepts
    exact (List.prefix_append word after).isInfix.trans hrest.isInfix
  · rintro ⟨before, after, rfl⟩
    refine ⟨word ++ after,
      ⟨before, (List.append_assoc before word after).symm⟩, ?_⟩
    exact (accepts_word_append h).mpr ⟨after, rfl, accepts_lone_star after⟩

/-- Words at both ends of a glob stand at both ends of the text, and do not
overlap there. -/
theorem accepts_word_star_word (hfront : ∀ c ∈ front, IsPlain c)
    (h : ∀ c ∈ word, IsPlain c) :
    accepts (front ++ '*' :: word) t = true ↔
      front <+: t ∧ word <:+ t ∧ front.length + word.length ≤ t.length := by
  rw [accepts_word_append hfront]
  constructor
  · rintro ⟨rest, rfl, haccepts⟩
    have hrest := (accepts_star_word h).mp haccepts
    have hlength := hrest.length_le
    refine ⟨List.prefix_append front rest,
      hrest.trans (List.suffix_append front rest), ?_⟩
    rw [List.length_append]
    omega
  · rintro ⟨⟨rest, rfl⟩, hword, hlength⟩
    rw [List.length_append] at hlength
    refine ⟨rest, rfl, (accepts_star_word h).mpr ?_⟩
    -- of two ends of one text the shorter is an end of the longer
    exact List.suffix_of_suffix_length_le hword
      (List.suffix_append front rest) (by omega)

end Glob

-- ============================================================= test files

/-- A test file is known by a word inside its name, by its beginning and end
together, or by its end. -/
theorem isTestFile_iff (name : Text) :
    isTestFile name = true ↔
      ".spec.".toList <:+: name ∨ ".test.".toList <:+: name
        ∨ ("test_".toList <+: name ∧ ".py".toList <:+ name ∧ 8 ≤ name.length)
        ∨ "_test.py".toList <:+ name ∨ "_test.go".toList <:+ name := by
  have hplain :
      ∀ word ∈ [".spec.", ".test.", "test_", ".py", "_test.py", "_test.go"],
        ∀ c ∈ word.toList, Glob.IsPlain c := by decide
  have hspec : Glob.accepts "*.spec.*".toList name = true
      ↔ ".spec.".toList <:+: name :=
    Glob.accepts_star_word_star (hplain ".spec." (by decide))
  have htest : Glob.accepts "*.test.*".toList name = true
      ↔ ".test.".toList <:+: name :=
    Glob.accepts_star_word_star (hplain ".test." (by decide))
  have hboth : Glob.accepts "test_*.py".toList name = true ↔
      "test_".toList <+: name ∧ ".py".toList <:+ name ∧ 8 ≤ name.length :=
    Glob.accepts_word_star_word (hplain "test_" (by decide))
      (hplain ".py" (by decide))
  have hpython : Glob.accepts "*_test.py".toList name = true
      ↔ "_test.py".toList <:+ name :=
    Glob.accepts_star_word (hplain "_test.py" (by decide))
  have hgo : Glob.accepts "*_test.go".toList name = true
      ↔ "_test.go".toList <:+ name :=
    Glob.accepts_star_word (hplain "_test.go" (by decide))
  unfold isTestFile testGlobs
  rw [List.any_cons, List.any_cons, List.any_cons, List.any_cons, List.any_cons,
    List.any_nil, Bool.or_false, Bool.or_eq_true, Bool.or_eq_true,
    Bool.or_eq_true, Bool.or_eq_true, hspec, htest, hboth, hpython, hgo]

/-- The two words need a place of their own; stars take line feeds and slashes
like anything else. -/
example : isTestFile "test_.py".toList = true
  ∧ isTestFile "test.py".toList = false
  ∧ isTestFile "a/\n.spec.".toList = true := by decide

end SourceAtlas
