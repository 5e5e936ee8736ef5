/-
The import statements of scripts, and where their forms can be found. Each
statement names one module in a literal, and what stands before the literal says
which of the four forms it is. The forms are looked for one after the other in
the whole text, and the words that announce them may turn up inside clauses and
module names as well.

What keeps them apart is the literal. A form is found only where its words
reach right up to a quote (`exists_of_spans`), a line holds two quotes, and
nothing follows the second one that could be a module. So a form can only be
found before the first quote, and there the last word before it decides
(`eq_of_announces`).

Consumed by the theory of what a script imports.
-/
import SourceAtlas.Import.Specifier
import SourceAtlas.Proofs.Pattern.Lines
import SourceAtlas.Proofs.Text.Squeeze

namespace SourceAtlas.Import

open Pattern
open Text (Blank Closes Inline blank_nil isBlank_of_isInline)

-- ============================================================= statements

/-- Whether a character may stand in a literal or a clause: it is neither a
quote nor a line feed. -/
def isBare (c : Char) : Bool := except ['\x27', '\x22', '\n'] c

/-- What a statement says beside its module: any text on one line without
quotes. -/
structure ScriptClause where
  text : Text
  bare : ∀ c ∈ text, isBare c = true

/-- A module as a literal. -/
structure ScriptModule where
  text : Text
  nonempty : text ≠ []
  bare : ∀ c ∈ text, isBare c = true
  quote : Char
  isQuote : quote ∈ quotes

/-- What a statement says before its module. -/
inductive ScriptOpening where
  | importFrom (clause : ScriptClause)
  | exportFrom (clause : ScriptClause)
  | importOnly
  | require (binding : ScriptClause)
  | awaitImport

/-- An import statement. -/
structure ScriptStatement where
  opening : ScriptOpening
  name : ScriptModule

/-- How the opening is written, up to the quote. -/
def ScriptOpening.text : ScriptOpening → Text
  | importFrom clause => "import ".toList ++ clause.text ++ " from ".toList
  | exportFrom clause => "export ".toList ++ clause.text ++ " from ".toList
  | importOnly => "import ".toList
  | require binding => "const ".toList ++ binding.text ++ " = require(".toList
  | awaitImport => "await import(".toList

/-- What stands behind the module. -/
def ScriptOpening.ending : ScriptOpening → Text
  | require _ => ");".toList
  | awaitImport => ");".toList
  | _ => ";".toList

/-- The line of a statement. -/
def ScriptStatement.text (s : ScriptStatement) : Text :=
  s.opening.text ++ s.name.quote :: s.name.text
    ++ s.name.quote :: s.opening.ending

-- ================================================================== forms

/-- The four forms, by what announces the module. -/
inductive ScriptForm where
  | named
  | plain
  | required
  | called
  deriving DecidableEq

namespace ScriptForm

/-- The word of the form. -/
def word : ScriptForm → Text
  | named => "from".toList
  | plain => "import".toList
  | required => "require".toList
  | called => "import".toList

/-- What opens the parentheses around the module, if it stands in any. -/
def opening : ScriptForm → Text
  | named => []
  | plain => []
  | required => ['(']
  | called => ['(']

/-- What stands between the word and the module in a statement. -/
def joint : ScriptForm → Text
  | named => [' ']
  | plain => [' ']
  | required => ['(']
  | called => ['(']

/-- What belongs to the form behind the module. -/
def closing : ScriptForm → Text
  | named => []
  | plain => []
  | required => [')']
  | called => [')']

/-- The pattern of the form. -/
def pattern : ScriptForm → Pattern
  | named => wordEdge ++ lit "from" ++ blanks ++ plainLiteral .path
  | plain => indent ++ lit "import" ++ blanks ++ plainLiteral .path
  | required =>
      wordEdge ++ lit "require" ++ blanks ++ lit "(" ++ blanks
        ++ plainLiteral .path ++ blanks ++ lit ")"
  | called =>
      wordEdge ++ lit "import" ++ blanks ++ lit "(" ++ blanks
        ++ plainLiteral .path ++ blanks ++ lit ")"

/-- All forms. -/
def all : List ScriptForm := [named, plain, required, called]

/-- The words of the form, reaching up to a module; only one form may be
indented. -/
def Announces (f : ScriptForm) (w : Text) : Prop :=
  ∃ ind a b, (∀ c ∈ ind, Text.isInline c = true) ∧ (f ≠ plain → ind = [])
    ∧ Blank a ∧ Blank b ∧ w = ind ++ f.word ++ a ++ f.opening ++ b

end ScriptForm

theorem scriptForms_eq : scriptForms = ScriptForm.all.map ScriptForm.pattern :=
  rfl

namespace ScriptOpening

/-- The form that finds the opening. -/
def form : ScriptOpening → ScriptForm
  | importFrom _ => .named
  | exportFrom _ => .named
  | importOnly => .plain
  | require _ => .required
  | awaitImport => .called

/-- What precedes the word of the form. -/
def before : ScriptOpening → Text
  | importFrom clause => "import ".toList ++ clause.text ++ [' ']
  | exportFrom clause => "export ".toList ++ clause.text ++ [' ']
  | importOnly => []
  | require binding => "const ".toList ++ binding.text ++ " = ".toList
  | awaitImport => "await ".toList

/-- An opening is what stands before its word, the word, and what joins it to
the literal. -/
theorem text_eq (o : ScriptOpening) :
    o.text = o.before ++ o.form.word ++ o.form.joint := by
  cases o with
  | importFrom clause =>
      show "import ".toList ++ clause.text ++ " from ".toList
        = "import ".toList ++ clause.text ++ [' '] ++ "from".toList ++ [' ']
      simp
  | exportFrom clause =>
      show "export ".toList ++ clause.text ++ " from ".toList
        = "export ".toList ++ clause.text ++ [' '] ++ "from".toList ++ [' ']
      simp
  | importOnly => rfl
  | require binding =>
      show "const ".toList ++ binding.text ++ " = require(".toList
        = "const ".toList ++ binding.text ++ " = ".toList ++ "require".toList
          ++ ['(']
      simp
  | awaitImport => rfl

/-- An ending is what closes the form, and a semicolon. -/
theorem ending_eq (o : ScriptOpening) : o.ending = o.form.closing ++ [';'] := by
  cases o with
  | importFrom clause => rfl
  | exportFrom clause => rfl
  | importOnly => rfl
  | require binding => rfl
  | awaitImport => rfl

end ScriptOpening

-- ============================================================ one literal

variable {behind : Option Char} {u v w rest body tail : Text} {f : ScriptForm}
  {o : ScriptOpening}

/-- A plain literal is a bare text between two quotes of one kind. -/
theorem spans_plainLiteral {slot : Slot}
    (h : (plainLiteral slot).Spans behind u rest) :
    ∃ q ∈ quotes, ∃ body, (∀ c ∈ body, isBare c = true)
      ∧ u = q :: body ++ [q] := by
  have hone {q : Char} (hq : q ∈ quotes)
      (h : (only q ++ group slot (many1 isBare) ++ only q).Spans behind u
        rest) :
      ∃ q ∈ quotes, ∃ body, (∀ c ∈ body, isBare c = true)
        ∧ u = q :: body ++ [q] := by
    obtain ⟨-, -, rfl, ⟨-, body, rfl, ⟨x, rfl, hx⟩, hmany⟩, y, rfl, hy⟩ := h
    obtain ⟨z, body, rfl, hbody⟩ := spans_many1.mp hmany
    rw [beq_iff_eq.mp hx, beq_iff_eq.mp hy]
    exact ⟨q, hq, z :: body, hbody, rfl⟩
  rcases h with h | h
  · exact hone (by decide) h
  · exact hone (by decide) h

/-- The forms with a parenthesis differ in their word only. -/
theorem exists_of_spans_opened {t : Text}
    (h : (wordEdge ++ lit t ++ blanks ++ lit ['('] ++ blanks
      ++ plainLiteral .path ++ blanks ++ lit [')']).Spans behind u rest) :
    ∃ a b q body tail, Blank a ∧ Blank b ∧ q ∈ quotes
      ∧ (∀ c ∈ body, isBare c = true)
      ∧ u ++ rest = t ++ a ++ ['('] ++ b ++ q :: (body ++ q :: tail) := by
  obtain ⟨-, close, rfl,
    ⟨-, gap, rfl, ⟨-, l, rfl,
      ⟨-, b, rfl, ⟨-, paren, rfl,
        ⟨-, a, rfl, ⟨-, word, rfl, ⟨rfl, -⟩, hword⟩, ha⟩, hparen⟩, hb⟩, hl⟩, -⟩,
    -⟩ := h
  rw [spans_lit] at hword hparen
  obtain ⟨q, hq, body, hbody, rfl⟩ := spans_plainLiteral hl
  refine ⟨a, b, q, body, gap ++ close ++ rest, ha, hb, hq, hbody, ?_⟩
  rw [hword, hparen]
  simp

/-- A form is found only where its words reach up to a literal. -/
theorem exists_of_spans (h : f.pattern.Spans behind u rest) :
    ∃ w q body tail, f.Announces w ∧ q ∈ quotes ∧ (∀ c ∈ body, isBare c = true)
      ∧ u ++ rest = w ++ q :: (body ++ q :: tail) := by
  cases f with
  | named =>
      obtain ⟨-, l, rfl, ⟨-, a, rfl, ⟨-, word, rfl, ⟨rfl, -⟩, hword⟩, ha⟩,
        hl⟩ := h
      rw [spans_lit] at hword
      obtain ⟨q, hq, body, hbody, rfl⟩ := spans_plainLiteral hl
      have hann : ScriptForm.named.Announces (word ++ a) := by
        refine ⟨[], a, [], by simp, by simp, ha, blank_nil, ?_⟩
        rw [hword, ScriptForm.opening, List.append_nil, List.append_nil]
        rfl
      exact ⟨word ++ a, q, body, rest, hann, hq, hbody, by simp⟩
  | plain =>
      obtain ⟨-, l, rfl, ⟨-, a, rfl,
        ⟨-, word, rfl, ⟨-, ind, rfl, ⟨rfl, -⟩, hind⟩, hword⟩, ha⟩, hl⟩ := h
      rw [spans_lit] at hword
      obtain ⟨q, hq, body, hbody, rfl⟩ := spans_plainLiteral hl
      have hann : ScriptForm.plain.Announces (ind ++ word ++ a) := by
        refine ⟨ind, a, [], hind, by simp, ha, blank_nil, ?_⟩
        rw [hword, ScriptForm.opening, List.append_nil, List.append_nil]
        rfl
      exact ⟨ind ++ word ++ a, q, body, rest, hann, hq, hbody, by simp⟩
  | required =>
      obtain ⟨a, b, q, body, tail, ha, hb, hq, hbody, hall⟩ :=
        exists_of_spans_opened h
      exact ⟨_, q, body, tail, ⟨[], a, b, by simp, by simp, ha, hb, rfl⟩, hq,
        hbody, hall⟩
  | called =>
      obtain ⟨a, b, q, body, tail, ha, hb, hq, hbody, hall⟩ :=
        exists_of_spans_opened h
      exact ⟨_, q, body, tail, ⟨[], a, b, by simp, by simp, ha, hb, rfl⟩, hq,
        hbody, hall⟩

-- ====================================================== before the literal

/-- What announces a literal is made of the word, blanks and a parenthesis. -/
theorem ScriptForm.Announces.cases_of_mem (h : f.Announces w) {c : Char}
    (hc : c ∈ w) : Text.isBlank c = true ∨ c ∈ f.word ∨ c = '(' := by
  obtain ⟨ind, a, b, hind, -, ha, hb, rfl⟩ := h
  have hopening : ∀ c ∈ f.opening, c = '(' := by
    cases f with
    | named => decide
    | plain => decide
    | required => decide
    | called => decide
  simp only [List.mem_append] at hc
  rcases hc with (((hc | hc) | hc) | hc) | hc
  · exact .inl (isBlank_of_isInline (hind c hc))
  · exact .inr (.inl hc)
  · exact .inl (ha c hc)
  · exact .inr (.inr (hopening c hc))
  · exact .inl (hb c hc)

theorem ScriptForm.Announces.not_mem_quotes (h : f.Announces w) {c : Char}
    (hc : c ∈ w) : c ∉ quotes := by
  have hword : ∀ c ∈ f.word, c ∉ quotes := by
    cases f with
    | named => decide
    | plain => decide
    | required => decide
    | called => decide
  have hblank : ∀ c ∈ quotes, Text.isBlank c = false := by decide
  rcases h.cases_of_mem hc with hc | hc | rfl
  · intro hquote
    rw [hblank c hquote] at hc
    cases hc
  · exact hword c hc
  · decide

/-- The first character is no sign and no line feed. -/
theorem ScriptForm.Announces.exists_cons (h : f.Announces w) :
    ∃ c more, w = c :: more
      ∧ (Text.isInline c = true ∨ Text.isWord c = true) := by
  obtain ⟨ind, a, b, hind, -, -, -, rfl⟩ := h
  cases ind with
  | cons c ind =>
      exact ⟨c, ind ++ f.word ++ a ++ f.opening ++ b, by simp,
        .inl (hind c (by simp))⟩
  | nil =>
      cases f with
      | named => exact ⟨'f', _, rfl, by decide⟩
      | plain => exact ⟨'i', _, rfl, by decide⟩
      | required => exact ⟨'r', _, rfl, by decide⟩
      | called => exact ⟨'i', _, rfl, by decide⟩

/-- Blanks behind two texts that do not end in one are told apart from
them. -/
theorem eq_of_append_blank {s t a b : Text} (hs : Closes s) (ht : Closes t)
    (ha : Blank a) (hb : Blank b) (h : s ++ a = t ++ b) : s = t := by
  have htrim {s a : Text} (hs : Closes s) (ha : Blank a) :
      Text.trimEnd Text.isBlank (s ++ a) = s := by
    obtain ⟨front, c, rfl, hc⟩ := hs
    unfold Text.trimEnd
    rw [List.reverse_append, List.dropWhile_append_of_pos]
    · simp [hc]
    · exact fun c hc => ha c (List.mem_reverse.mp hc)
  rw [← htrim hs ha, h, htrim ht hb]

/-- A text that ends with a word does not end with a blank. -/
theorem closes_append_word (x : Text) (f : ScriptForm) :
    Closes (x ++ f.word) := by
  have hword : Closes f.word := by
    cases f with
    | named => exact ⟨"fro".toList, 'm', rfl, by decide⟩
    | plain => exact ⟨"impor".toList, 't', rfl, by decide⟩
    | required => exact ⟨"requir".toList, 'e', rfl, by decide⟩
    | called => exact ⟨"impor".toList, 't', rfl, by decide⟩
  exact hword.append x

theorem closes_append_paren (x : Text) : Closes (x ++ ['(']) :=
  ⟨x, '(', rfl, by decide⟩

/-- What ends with a word ends with its last letter. -/
theorem getLast?_append_word (x : Text) (f : ScriptForm) :
    (x ++ f.word).getLast? = f.word.getLast? := by
  have hword : f.word ≠ [] := by
    cases f <;> decide
  exact List.getLast?_append_of_ne_nil x hword

theorem append_word_ne_append_paren (x y : Text) (f : ScriptForm) :
    x ++ f.word ≠ y ++ ['('] := by
  intro h
  have hends : f.word.getLast? = some '(' := by
    rw [← getLast?_append_word x f, h, List.getLast?_concat]
  cases f <;> exact absurd hends (by decide)

/-- The words are told apart by their ends. -/
theorem form_eq_of_append_word {x y : Text} {f g : ScriptForm}
    (hopening : f.opening = g.opening) (h : x ++ f.word = y ++ g.word) :
    f = g := by
  have hends : f.word.getLast? = g.word.getLast? := by
    rw [← getLast?_append_word x f, h, getLast?_append_word y g]
  cases f <;> cases g <;> first
    | rfl
    | exact absurd hopening (by decide)
    | exact absurd hends (by decide)

/-- A word is joined to its literal by a space, or by a parenthesis. -/
theorem ScriptForm.joint_cases (f : ScriptForm) :
    f.opening = [] ∧ f.joint = [' '] ∨ f.opening = ['('] ∧ f.joint = ['('] := by
  cases f with
  | named => exact .inl ⟨rfl, rfl⟩
  | plain => exact .inl ⟨rfl, rfl⟩
  | required => exact .inr ⟨rfl, rfl⟩
  | called => exact .inr ⟨rfl, rfl⟩

/-- The parenthesis before the literal is that of the form, and what stands
before it ends in its word. -/
theorem append_word_of_announced {x y a b : Text} {f g : ScriptForm}
    (ha : Blank a) (hb : Blank b)
    (h : x ++ f.word ++ a ++ f.opening ++ b = y ++ g.word ++ g.joint) :
    f.opening = g.opening ∧ x ++ f.word = y ++ g.word := by
  have hspace : Blank [' '] := by decide
  have hblanks : Blank (a ++ b) := List.forall_mem_append.mpr ⟨ha, hb⟩
  -- A form with a parenthesis ends in one, one without ends in its word.
  rcases f.joint_cases with ⟨hf, -⟩ | ⟨hf, -⟩
  · rw [hf, List.append_nil, List.append_assoc] at h
    rcases g.joint_cases with ⟨hg, hjoint⟩ | ⟨hg, hjoint⟩
    · rw [hjoint] at h
      refine ⟨hf.trans hg.symm, ?_⟩
      exact eq_of_append_blank (closes_append_word x f) (closes_append_word y g)
        hblanks hspace h
    · rw [hjoint, ← List.append_nil (y ++ g.word ++ ['('])] at h
      have hword :=
        eq_of_append_blank (closes_append_word x f) (closes_append_paren _)
          hblanks blank_nil h
      exact absurd hword (append_word_ne_append_paren x _ f)
  · rw [hf] at h
    rcases g.joint_cases with ⟨hg, hjoint⟩ | ⟨hg, hjoint⟩
    · rw [hjoint] at h
      have hword :=
        eq_of_append_blank (closes_append_paren _)
          (closes_append_word y g) hb hspace h
      exact absurd hword.symm (append_word_ne_append_paren y _ g)
    · rw [hjoint, ← List.append_nil (y ++ g.word ++ ['('])] at h
      have hparen :=
        eq_of_append_blank (closes_append_paren _) (closes_append_paren _)
          hb blank_nil h
      have hword := List.append_cancel_right hparen
      rw [← List.append_nil (y ++ g.word)] at hword
      refine ⟨hf.trans hg.symm, ?_⟩
      exact eq_of_append_blank (closes_append_word x f) (closes_append_word y g)
        ha blank_nil hword

/-- The last word before the literal tells the form. -/
theorem eq_of_announces (h : f.Announces w) (htext : o.text = v ++ w) :
    f = o.form ∧ v = o.before := by
  obtain ⟨ind, a, b, -, hplain, ha, hb, rfl⟩ := h
  have hwords : v ++ ind ++ f.word ++ a ++ f.opening ++ b
      = o.before ++ o.form.word ++ o.form.joint := by
    rw [← o.text_eq, htext]
    simp only [List.append_assoc]
  obtain ⟨hopening, hword⟩ := append_word_of_announced ha hb hwords
  have hform := form_eq_of_append_word hopening hword
  rw [hform] at hword
  have hbefore : v ++ ind = o.before := List.append_cancel_right hword
  refine ⟨hform, ?_⟩
  by_cases hind : f = .plain
  · -- nothing precedes the word of this form, so there is no indentation
    cases o with
    | importOnly => exact (List.append_eq_nil_iff.mp hbefore).1.trans rfl
    | importFrom clause => cases hind ▸ hform
    | exportFrom clause => cases hind ▸ hform
    | require binding => cases hind ▸ hform
    | awaitImport => cases hind ▸ hform
  · rw [← hbefore, hplain hind, List.append_nil]

-- ============================================================ not a match

/-- Bare are all characters but quotes and line feeds. -/
theorem isBare_iff {c : Char} : isBare c = true ↔ c ∉ quotes ∧ c ≠ '\n' := by
  simp [isBare, except, quotes, and_assoc]

theorem ScriptOpening.not_mem_quotes (o : ScriptOpening) :
    ∀ c ∈ o.text, c ∉ quotes := by
  have haround {a b : Text} (clause : ScriptClause) (ha : ∀ c ∈ a, c ∉ quotes)
      (hb : ∀ c ∈ b, c ∉ quotes) : ∀ c ∈ a ++ clause.text ++ b, c ∉ quotes := by
    rw [List.forall_mem_append, List.forall_mem_append]
    exact ⟨⟨ha, fun c hc => (isBare_iff.mp (clause.bare c hc)).1⟩, hb⟩
  cases o with
  | importFrom clause => exact haround clause (by decide) (by decide)
  | exportFrom clause => exact haround clause (by decide) (by decide)
  | importOnly => exact (by decide : ∀ c ∈ "import ".toList, c ∉ quotes)
  | require binding => exact haround binding (by decide) (by decide)
  | awaitImport => exact (by decide : ∀ c ∈ "await import(".toList, c ∉ quotes)

/-- Before the literal there is no match but at the word of the form. -/
theorem misses_opening {q : Char} {s : Text} (hq : q ∈ quotes)
    (htext : o.text = v ++ w) (h : f = o.form → v ≠ o.before) :
    f.pattern.Misses behind (w ++ q :: s) := by
  refine misses_of_not_spans fun u rest hu hspans => ?_
  obtain ⟨w', q', body, tail, hann, hq', -, hall⟩ := exists_of_spans hspans
  rw [← hu] at hall
  have hw : ∀ c ∈ w, c ∉ quotes := by
    intro c hc
    apply o.not_mem_quotes c
    rw [htext]
    exact List.mem_append_right v hc
  obtain ⟨rfl, -⟩ := Text.eq_of_append_cons hw
    (fun c => hann.not_mem_quotes) hq hq' hall
  obtain ⟨hform, hbefore⟩ := eq_of_announces hann htext
  exact h hform hbefore

/-- Inside the literal there is no match: there is no second one behind it. -/
theorem misses_module {q : Char} {ending : Text} (hq : q ∈ quotes)
    (hw : ∀ c ∈ w, c ∉ quotes) (hending : ∀ c ∈ ending, isBare c = true)
    (hrest : EndsLine rest) :
    f.pattern.Misses behind (w ++ q :: (ending ++ rest)) := by
  refine misses_of_not_spans fun u rest' hu hspans => ?_
  obtain ⟨w', q', body, tail, hann, hq', hbody, hall⟩ := exists_of_spans hspans
  rw [← hu] at hall
  obtain ⟨-, -, hbehind⟩ :=
    Text.eq_of_append_cons hw (fun c => hann.not_mem_quotes) hq hq' hall
  -- a second literal would have to end before the line does
  cases rest with
  | nil =>
      rw [List.append_nil] at hbehind
      have hmem : q' ∈ ending := by
        rw [hbehind]
        simp
      exact (isBare_iff.mp (hending q' hmem)).1 hq'
  | cons x rest =>
      obtain rfl : x = '\n' := hrest x rfl
      have hkind {t : Text} (ht : ∀ c ∈ t, isBare c = true) :
          ∀ c ∈ t, ¬ isBare c = false := by
        intro c hc
        simp [ht c hc]
      have hquote : isBare q' = false := by
        rw [← Bool.not_eq_true, isBare_iff]
        exact fun h => h.1 hq'
      have hfeed : isBare '\n' = false := by decide
      obtain ⟨-, rfl, -⟩ :=
        Text.eq_of_append_cons (hkind hending) (hkind hbody) hfeed
          hquote hbehind
      exact absurd hq' (by decide)

/-- No form starts with a sign. -/
theorem misses_sign {x : Char} (hinline : Text.isInline x = false)
    (hword : Text.isWord x = false) : f.pattern.Misses behind (x :: rest) := by
  refine misses_of_not_spans fun u rest' hu hspans => ?_
  obtain ⟨w, q, body, tail, hann, -, -, hall⟩ := exists_of_spans hspans
  obtain ⟨c, more, rfl, hc⟩ := hann.exists_cons
  rw [← hu] at hall
  obtain ⟨rfl, -⟩ := List.cons_eq_cons.mp hall
  rw [hinline, hword] at hc
  simp at hc

-- ============================================================ passed over

/-- No form is found at a sign. -/
theorem passesOver_sign {x : Char} (hinline : Text.isInline x = false)
    (hword : Text.isWord x = false) : f.pattern.PassesOver behind [x] rest :=
  (misses_sign hinline hword).passesOver

theorem isSign_of_mem_quotes {q : Char} (h : q ∈ quotes) :
    Text.isInline q = false ∧ Text.isWord q = false := by
  have hall : ∀ q ∈ quotes, Text.isInline q = false
      ∧ Text.isWord q = false := by decide
  exact hall q h

/-- What precedes the literal is passed over, all of it or up to the word. -/
theorem passesOver_opening {q : Char} {s : Text} (hq : q ∈ quotes)
    (htext : o.text = u ++ w) (h : f = o.form → u.length ≤ o.before.length) :
    f.pattern.PassesOver behind u (w ++ q :: s) := by
  refine passesOver_of_misses fun v x rest hu => ?_
  have hplace : o.text = v ++ (x :: rest ++ w) := by
    rw [htext, hu, List.append_assoc]
  rw [← List.append_assoc]
  refine misses_opening hq hplace fun hform => ?_
  rintro rfl
  have hlength := h hform
  rw [hu, List.length_append, List.length_cons] at hlength
  omega

theorem passesOver_ending {ending : Text}
    (hsign : ∀ c ∈ ending, Text.isInline c = false ∧ Text.isWord c = false) :
    f.pattern.PassesOver behind ending rest := by
  refine passesOver_of_misses fun v x w hending => ?_
  obtain ⟨hinline, hword⟩ := hsign x (by rw [hending]; simp)
  exact misses_sign hinline hword

/-- The literal and what stands behind it are passed over. -/
theorem passesOver_module (m : ScriptModule) {ending : Text}
    (hending : ∀ c ∈ ending, isBare c = true ∧ Text.isInline c = false
      ∧ Text.isWord c = false) (hrest : EndsLine rest) :
    f.pattern.PassesOver behind
      (m.quote :: m.text ++ m.quote :: ending) rest := by
  obtain ⟨hinline, hword⟩ := isSign_of_mem_quotes m.isQuote
  have hopen :
      f.pattern.PassesOver behind [m.quote]
        (m.text ++ (m.quote :: ending) ++ rest) :=
    passesOver_sign hinline hword
  have hclose (behind : Option Char) :
      f.pattern.PassesOver behind [m.quote] (ending ++ rest) :=
    passesOver_sign hinline hword
  have htext (behind : Option Char) :
      f.pattern.PassesOver behind m.text ([m.quote] ++ ending ++ rest) := by
    refine passesOver_of_misses fun v x w hm => ?_
    rw [List.append_assoc, List.singleton_append]
    refine misses_module m.isQuote ?_ (fun c hc => (hending c hc).1) hrest
    intro c hc
    refine (isBare_iff.mp (m.bare c ?_)).1
    rw [hm]
    exact List.mem_append_right v hc
  exact hopen.append ((htext _).append ((hclose _).append
    (passesOver_ending fun c hc => (hending c hc).2)))

theorem ScriptOpening.isSign_ending (o : ScriptOpening) :
    ∀ c ∈ o.ending, isBare c = true ∧ Text.isInline c = false
      ∧ Text.isWord c = false := by
  have hclosing : ∀ c ∈ o.form.closing, c = ')' := by
    cases o.form <;> decide
  rw [o.ending_eq, List.forall_mem_append, List.forall_mem_singleton]
  refine ⟨fun c hc => ?_, by decide⟩
  rw [hclosing c hc]
  decide

end SourceAtlas.Import
