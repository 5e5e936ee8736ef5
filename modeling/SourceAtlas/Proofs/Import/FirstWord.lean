/-
Where the two forms of Python imports can be found. Both are announced by the
first word of a line, so a form has no match except at the start of a line that
starts with its word (`PythonForm.misses`). No line of a list in parentheses
does: its lines start with an item, a comment or a sign, and an item is no
keyword. So a form passes over such a list (`passesOver_of_listed`), whatever
its comments say.

Consumed by the theory of Python statements.
-/
import SourceAtlas.Proofs.Import.NameList

namespace SourceAtlas.Import

open Pattern Text

-- =================================================================== forms

/-- The two forms, by their first word. -/
inductive PythonForm where
  | plain
  | selective
  deriving DecidableEq

namespace PythonForm

/-- The keyword of the form. -/
def word : PythonForm → Text
  | plain => "import".toList
  | selective => "from".toList

/-- The pattern of the form. -/
def pattern : PythonForm → Pattern
  | plain => plainImport
  | selective => fromImport

/-- What a match of the form finds. -/
def finds : PythonForm → Match → List Find
  | plain => plainFinds
  | selective => fromFinds

/-- All forms. -/
def all : List PythonForm := [plain, selective]

end PythonForm

variable {behind : Option Char} {c : Char} {u t ind gap w item rest : Text}
  {items : List Text} {f : PythonForm}

/-- The keyword is not empty. -/
theorem PythonForm.word_ne_nil (f : PythonForm) : f.word ≠ [] := by
  cases f <;> decide

theorem PythonForm.isWord_word (f : PythonForm) :
    ∀ c ∈ f.word, Text.isWord c = true := by
  cases f <;> decide

/-- What both forms start with. -/
def heading (w : Text) : Pattern := indent ++ lit w ++ inlineBlanks1

/-- A heading stands at the start of a line, with its word first. -/
theorem of_spans_heading (hne : w ≠ []) (hw : ∀ c ∈ w, Text.isWord c = true)
    (h : (heading w).Spans behind u rest) :
    StartsLine behind ∧ firstWord (u ++ rest) = w := by
  obtain ⟨-, gap, rfl,
    ⟨-, word, rfl, ⟨-, ind, rfl, ⟨rfl, hstart⟩, hind⟩, hword⟩, hgap⟩ := h
  rw [spans_lit] at hword
  obtain ⟨x, gap, rfl, hinline⟩ := spans_many1.mp hgap
  refine ⟨startsLine_iff.mpr hstart, ?_⟩
  rw [hword, List.nil_append]
  exact firstWord_headline hne hw hind ⟨List.cons_ne_nil x gap, hinline⟩ rest

/-- A form has no match but at the start of a line with its word. -/
theorem PythonForm.misses (h : StartsLine behind → firstWord t ≠ f.word) :
    f.pattern.Misses behind t := by
  have hheading : (heading f.word).Misses behind t := by
    refine misses_of_not_spans fun u rest hu hspans => ?_
    obtain ⟨hstart, hfirst⟩ :=
      of_spans_heading f.word_ne_nil f.isWord_word hspans
    rw [← hu] at hfirst
    exact h hstart hfirst
  cases f with
  | plain => exact hheading.append
  | selective => exact hheading.append.append.append.append.append.append

/-- No form is found at a sign. -/
theorem PythonForm.misses_of_sign (hinline : Text.isInline c = false)
    (hword : Text.isWord c = false) : f.pattern.Misses behind (c :: rest) := by
  apply misses
  intro _
  rw [firstWord_cons_of_sign hinline hword]
  exact f.word_ne_nil.symm

/-- Every form is found at line starts only. -/
theorem PythonForm.lineBound (f : PythonForm) : LineBound f.pattern :=
  fun _ hbehind _ => misses fun hstart => absurd hstart hbehind

/-- What stands on one line is passed over, unless it stands at its start and
starts with the word. -/
theorem PythonForm.passesOver_line
    (hword : StartsLine behind → firstWord (u ++ rest) ≠ f.word)
    (hu : '\n' ∉ u) : f.pattern.PassesOver behind u rest := by
  refine passesOver_of_misses
    (f.lineBound.missesIn ?_ fun hstart => misses fun _ => hword hstart)
  exact fun hfeed => hu (List.dropLast_subset u hfeed)

-- ============================================================ spread lists

/-- The first word behind a gap is that of the text or none. -/
theorem Gap.firstWord (h : Gap gap) (t : Text) :
    Text.firstWord (gap ++ t) = Text.firstWord t
      ∨ Text.firstWord (gap ++ t) = [] := by
  induction h with
  | nil => exact .inl rfl
  | @blank c gap hc _ ih =>
      cases hinline : Text.isInline c with
      | true =>
          have hone : Inline [c] := by simpa [Inline] using hinline
          rw [List.cons_append, ← List.singleton_append,
            firstWord_append_of_inline hone]
          exact ih
      | false =>
          exact .inr (firstWord_cons_of_sign hinline (isWord_of_isBlank hc) _)
  | comment => exact .inr (firstWord_cons_of_sign (by decide) (by decide) _)

/-- Gaps have no line that starts with a word of their own. -/
theorem Gap.passesOver (h : Gap gap) (ht : Text.firstWord t ≠ f.word) :
    f.pattern.PassesOver behind gap t := by
  have hstart {gap : Text} (h : Gap gap) (behind : Option Char) :
      f.pattern.Misses behind (gap ++ t) := by
    apply PythonForm.misses
    intro _
    rcases h.firstWord t with hword | hword
    · rwa [hword]
    · rw [hword]
      exact f.word_ne_nil.symm
  induction h generalizing behind with
  | nil => exact passesOver_nil _ _ _
  | @blank c gap hc h ih =>
      have hfirst : f.pattern.PassesOver behind [c] (gap ++ t) :=
        (hstart (.blank hc h) behind).passesOver
      exact hfirst.append ih
  | @comment body gap hbody h ih =>
      have hcomment :
          f.pattern.PassesOver behind ('#' :: body) ('\n' :: gap ++ t) := by
        apply PythonForm.passesOver_line
        · intro _
          rw [List.cons_append, firstWord_cons_of_sign (by decide) (by decide)]
          exact f.word_ne_nil.symm
        · rw [List.mem_cons, not_or]
          exact ⟨by decide, fun hfeed => (hbody '\n' hfeed).1 rfl⟩
      have hfeed (behind : Option Char) :
          f.pattern.PassesOver behind ['\n'] (gap ++ t) :=
        (PythonForm.misses_of_sign (by decide) (by decide)).passesOver
      exact hcomment.append ((hfeed _).append ih)

/-- A gap in front starts no word. -/
theorem Gap.head?_append (h : Gap gap)
    (ht : ∀ c ∈ t.head?, Text.isWord c = false) :
    ∀ c ∈ (gap ++ t).head?, Text.isWord c = false := by
  cases h with
  | nil => exact ht
  | blank hc h => simpa using isWord_of_isBlank hc
  | comment hbody h =>
      rw [List.append_assoc, List.cons_append]
      simpa using (by decide : Text.isWord '#' = false)

/-- An item starts with an identifier. -/
theorem IsItem.exists_identifier (h : IsItem item) :
    ∃ (i : Identifier) (more : Text), item = i.text ++ more
      ∧ ∀ c ∈ more.head?, Text.isWord c = false := by
  have hname (m : DottedName) :
      ∃ (i : Identifier) (more : Text), m.text = i.text ++ more
        ∧ (more = [] ∨ ∃ others, more = '.' :: others) := by
    obtain ⟨parts, hne⟩ := m
    obtain ⟨i, parts, rfl⟩ := List.exists_cons_of_ne_nil hne
    cases parts with
    | nil => exact ⟨i, [], (List.append_nil _).symm, .inl rfl⟩
    | cons next parts => exact ⟨i, _, List.append_assoc _ _ _, .inr ⟨_, rfl⟩⟩
  obtain ⟨m, newName, rfl⟩ := h
  obtain ⟨i, more, hm, hmore⟩ := hname m
  have hdot : Text.isWord '.' = false := by decide
  have hspace : Text.isWord ' ' = false := by decide
  cases newName with
  | none =>
      refine ⟨i, more, hm, ?_⟩
      rcases hmore with rfl | ⟨others, rfl⟩
      · simp
      · simpa using hdot
  | some newName =>
      refine ⟨i, more ++ (" as ".toList ++ newName.text), ?_, ?_⟩
      · rw [renamed, hm]
        simp only [List.append_assoc]
      · rcases hmore with rfl | ⟨others, rfl⟩
        · exact fun c hc => by rw [← Option.some.inj hc]; exact hspace
        · simpa using hdot

/-- An identifier starts with a word character. -/
theorem Identifier.exists_cons (i : Identifier) :
    ∃ c more, i.text = c :: more ∧ Text.isWord c = true := by
  obtain ⟨c, more, hc⟩ := List.exists_cons_of_ne_nil i.nonempty
  refine ⟨c, more, hc, i.word c ?_⟩
  rw [hc]
  exact List.mem_cons_self

theorem IsItem.exists_cons (h : IsItem item) :
    ∃ c more, item = c :: more ∧ Text.isWord c = true := by
  obtain ⟨i, behind, rfl, -⟩ := h.exists_identifier
  obtain ⟨c, more, hc, hword⟩ := i.exists_cons
  exact ⟨c, more ++ behind, by rw [hc]; rfl, hword⟩

/-- An item does not start with a keyword. -/
theorem IsItem.firstWord_ne (h : IsItem item)
    (hrest : ∀ c ∈ rest.head?, Text.isWord c = false) :
    firstWord (item ++ rest) ≠ f.word := by
  obtain ⟨i, more, rfl, hmore⟩ := h.exists_identifier
  have hend : ∀ c ∈ (more ++ rest).head?, Text.isWord c = false := by
    cases more with
    | nil => exact hrest
    | cons d more => exact hmore
  have hkeyword : f.word ∈ keywords := by
    cases f <;> decide
  rw [List.append_assoc, firstWord_append_of_word i.nonempty i.word hend]
  intro hword
  exact i.free (hword ▸ hkeyword)

/-- An item is passed over, since its first word is no keyword. -/
theorem IsItem.passesOver (h : IsItem item)
    (hrest : ∀ c ∈ rest.head?, Text.isWord c = false) :
    f.pattern.PassesOver behind item rest := by
  apply PythonForm.passesOver_line fun _ => h.firstWord_ne hrest
  exact h.not_mem (by decide) (by decide)

/-- No match starts in a list in parentheses. -/
theorem passesOver_of_listed (h : Listed Gap items t)
    (hitems : ∀ item ∈ items, IsItem item) :
    f.pattern.PassesOver behind t (')' :: rest) := by
  have hsign {c : Char} (hinline : Text.isInline c = false)
      (hword : Text.isWord c = false) (behind : Option Char) (rest : Text) :
      f.pattern.PassesOver behind [c] rest :=
    (PythonForm.misses_of_sign hinline hword).passesOver
  -- one item with its gaps, up to the sign behind them
  have hpiece {item before after : Text} {c : Char} (hitem : IsItem item)
    (hbefore : Gap before)
      (hafter : Gap after) (hinline : Text.isInline c = false)
        (hword : Text.isWord c = false)
      (behind : Option Char) (rest : Text) :
      f.pattern.PassesOver behind (before ++ item ++ after) (c :: rest) := by
    have hnone : firstWord (c :: rest) ≠ f.word := by
      rw [firstWord_cons_of_sign hinline hword]
      exact f.word_ne_nil.symm
    have hnext : ∀ d ∈ (after ++ c :: rest).head?, Text.isWord d = false :=
      hafter.head?_append (by simpa using hword)
    have hfirst :
        f.pattern.PassesOver behind before (item ++ (after ++ c :: rest)) :=
      hbefore.passesOver (hitem.firstWord_ne hnext)
    exact (hfirst.append (hitem.passesOver hnext)).append
      (hafter.passesOver hnone)
  induction h generalizing behind with
  | one item hbefore hafter =>
      have hitem := hitems item List.mem_cons_self
      exact hpiece hitem hbefore hafter (by decide) (by decide) behind rest
  | last item hbefore hafter hbehind =>
      have hitem := hitems item List.mem_cons_self
      have hfirst :=
        hpiece hitem hbefore hafter (c := ',') (by decide) (by decide) behind
      have hend : firstWord (')' :: rest) ≠ f.word := by
        rw [firstWord_cons_of_sign (by decide) (by decide)]
        exact f.word_ne_nil.symm
      exact (hfirst _).append
        ((hsign (by decide) (by decide) _ _).append (hbehind.passesOver hend))
  | cons item hbefore hafter _ ih =>
      obtain ⟨hitem, hothers⟩ := List.forall_mem_cons.mp hitems
      have hfirst :=
        hpiece hitem hbefore hafter (c := ',') (by decide) (by decide) behind
      exact (hfirst _).append
        ((hsign (by decide) (by decide) _ _).append (ih hothers))

end SourceAtlas.Import
