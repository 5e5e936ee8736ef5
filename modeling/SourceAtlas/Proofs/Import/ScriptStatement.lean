/-
What a script imports. A statement is passed over up to the word that announces
its module, read from there to the end of the literal by its own form, and
passed over again by what is left; the other forms pass over all of it.

- Each form is found once in a line that is written in it and never in another
  line (`yields_statement`).
- Sorting puts the finds of the four searches in the order of the lines.
-/
import SourceAtlas.Proofs.Import.ScriptForm

namespace SourceAtlas.Import

open Pattern
open Text (Blank blank_nil ofLines dedupe_eq_eraseDups)

variable {behind : Option Char} {u rest : Text} {f : ScriptForm}

-- ================================================================= reads

/-- A module between its quotes. -/
def ScriptModule.literal (m : ScriptModule) : Text :=
  [m.quote] ++ m.text ++ [m.quote]

/-- The literal of a module is read, and its text captured. -/
theorem reads_plainLiteral (slot : Slot) (m : ScriptModule) :
    (plainLiteral slot).Reads behind m.literal rest [(slot, m.text)] := by
  have hone :
      (only m.quote ++ group slot (many1 isBare) ++ only m.quote).Reads behind
        m.literal rest [(slot, m.text)] := by
    have hquote (behind : Option Char) (rest : Text) :
        (only m.quote).Reads behind [m.quote] rest [] :=
      reads_lit behind [m.quote] rest
    have hend : ∀ x ∈ ([m.quote] ++ rest).head?, isBare x = false := by
      intro x hx
      obtain rfl : m.quote = x := by simpa using hx
      rw [← Bool.not_eq_true, isBare_iff]
      exact fun h => h.1 m.isQuote
    have hbody :
        (group slot (many1 isBare)).Reads ([m.quote].getLast?.or behind) m.text
          ([m.quote] ++ rest) [(slot, m.text)] :=
      (reads_many1 m.nonempty m.bare hend).group
    exact ((hquote _ _).append hbody).append (hquote _ _)
  rcases List.mem_cons.mp m.isQuote with hquote | hquote
  · rw [hquote] at hone
    exact hone.alt
  · rw [List.mem_singleton.mp hquote] at hone
    refine Misses.alt_reads (Misses.append (Misses.append ?_)) hone
    rw [ScriptModule.literal, List.mem_singleton.mp hquote]
    exact fun _ _ => fails_lit (u := ['\x27']) (by simp)

/-- What has to stand behind the word of a form: a line starts there, or at
least no word ends there. -/
def ScriptForm.Fits (f : ScriptForm) (behind : Option Char) : Prop :=
  if f = plain then StartsLine behind else behind.any Text.isWord = false

/-- A word starts where no word character stands before it. -/
theorem reads_wordEdge {x : Char} (hbehind : behind.any Text.isWord = false)
    (hx : Text.isWord x = true) : wordEdge.Reads behind [] (x :: rest) [] := by
  refine reads_anchor ?_
  show (behind.any Text.isWord != Text.isWord x) = true
  rw [hbehind, hx]
  rfl

/-- Blanks are read as far as they go. -/
theorem reads_blanks (hu : Blank u)
    (hrest : ∀ x ∈ rest.head?, Text.isBlank x = false) :
    blanks.Reads behind u rest [] :=
  reads_many hu hrest

theorem isBlank_of_mem_quotes {q : Char} (h : q ∈ quotes) :
    Text.isBlank q = false := by
  have hall : ∀ q ∈ quotes, Text.isBlank q = false := by decide
  exact hall q h

theorem isBlank_head_literal (m : ScriptModule) (rest : Text) :
    ∀ x ∈ (m.literal ++ rest).head?, Text.isBlank x = false := by
  intro x hx
  obtain rfl : m.quote = x := by simpa [ScriptModule.literal] using hx
  exact isBlank_of_mem_quotes m.isQuote

/-- A form without parentheses. -/
theorem reads_unopened {p : Pattern} (m : ScriptModule) (t : Text)
    (hp : p.Reads behind [] (t ++ ([' '] ++ (m.literal ++ rest))) []) :
    (p ++ lit t ++ blanks ++ plainLiteral .path).Reads behind
      (t ++ [' '] ++ m.literal) rest [(.path, m.text)] := by
  have hspace : Blank [' '] := by decide
  have hword := hp.append_left (reads_lit _ t _)
  have hgap :=
    hword.append_left (reads_blanks hspace (isBlank_head_literal m rest))
  exact hgap.append_right (reads_plainLiteral .path m)

/-- A form with parentheses. -/
theorem reads_opened {x : Char} (m : ScriptModule) (t : Text)
    (hbehind : behind.any Text.isWord = false) (hx : Text.isWord x = true) :
    (wordEdge ++ lit (x :: t) ++ blanks ++ lit ['('] ++ blanks
      ++ plainLiteral .path ++ blanks
      ++ lit [')']).Reads behind (x :: t ++ ['('] ++ m.literal ++ [')']) rest
      [(.path, m.text)] := by
  have hparen (sign : Char) (rest : Text) (hsign : Text.isBlank sign = false) :
      ∀ x ∈ ([sign] ++ rest).head?, Text.isBlank x = false := by
    intro y hy
    obtain rfl : sign = y := by simpa using hy
    exact hsign
  have hall :
    (wordEdge ++ lit (x :: t) ++ blanks ++ lit ['('] ++ blanks
      ++ plainLiteral .path
      ++ blanks ++ lit [')']).Reads behind
      ([] ++ (x :: t) ++ [] ++ ['('] ++ [] ++ m.literal ++ [] ++ [')']) rest
      [(.path, m.text)] := by
    -- from the last part of the pattern to the first
    refine Reads.append_left ?_ (reads_lit _ [')'] _)
    refine Reads.append_left ?_
      (reads_blanks blank_nil (hparen ')' _ (by decide)))
    refine Reads.append_right ?_ (reads_plainLiteral .path m)
    refine Reads.append_left ?_
      (reads_blanks blank_nil (isBlank_head_literal m _))
    refine Reads.append_left ?_ (reads_lit _ ['('] _)
    refine Reads.append_left ?_
      (reads_blanks blank_nil (hparen '(' _ (by decide)))
    exact (reads_wordEdge hbehind hx).append_left (reads_lit _ (x :: t) _)
  simpa only [List.append_nil, List.nil_append] using hall

/-- A form is read where it fits, with its literal. -/
theorem ScriptForm.reads (m : ScriptModule) (hbehind : f.Fits behind) :
    f.pattern.Reads behind
      (f.word ++ f.joint ++ m.literal ++ f.closing) rest
      [(.path, m.text)] := by
  cases f with
  | named =>
      rw [closing, List.append_nil]
      exact reads_unopened m "from".toList (reads_wordEdge hbehind (by decide))
  | plain =>
      rw [closing, List.append_nil]
      refine reads_unopened m "import".toList ?_
      have hindent : (many Text.isInline).Reads behind []
          ("import".toList ++ ([' '] ++ (m.literal ++ rest))) [] :=
        reads_many (by simp) (by simp [Text.isInline])
      exact (reads_anchor (startsLine_iff.mp hbehind)).append_left hindent
  | required => exact reads_opened m "equire".toList hbehind (by decide)
  | called => exact reads_opened m "mport".toList hbehind (by decide)

/-- The form of an opening fits behind what stands before it. -/
theorem ScriptOpening.fits (o : ScriptOpening) (hbehind : StartsLine behind) :
    o.form.Fits (o.before.getLast?.or behind) := by
  have hspace {x : Text} : ((x ++ [' ']).getLast?.or behind).any Text.isWord
      = false := by
    rw [List.getLast?_concat]
    rfl
  cases o with
  | importFrom clause => exact hspace
  | exportFrom clause => exact hspace
  | importOnly => exact hbehind
  | require binding =>
      show (("const ".toList ++ binding.text
        ++ ([' ', '='] ++ [' '])).getLast?.or behind).any Text.isWord = false
      rw [← List.append_assoc]
      exact hspace
  | awaitImport => exact hspace (x := "await".toList)

-- ============================================================= one line

/-- What a form finds in a statement that starts at an offset. -/
def ScriptForm.found (f : ScriptForm) (s : ScriptStatement) (offset : Nat) :
    List Find :=
  if f = s.opening.form then [(offset + s.opening.before.length, s.name.text)]
  else []

/-- A statement is what stands before the word of its form, the form, and a
semicolon. -/
theorem ScriptStatement.text_eq (s : ScriptStatement) :
    s.text = s.opening.before ++ (s.opening.form.word ++ s.opening.form.joint
      ++ s.name.literal ++ s.opening.form.closing ++ [';']) := by
  rw [text, s.opening.text_eq, s.opening.ending_eq, ScriptModule.literal]
  simp only [List.append_assoc, List.cons_append, List.nil_append]

/-- Each form is found once in a line that is written in it, and never in
another. -/
theorem yields_statement (s : ScriptStatement) (hbehind : StartsLine behind)
    (hrest : EndsLine rest) :
    f.pattern.Yields (fun m => [(m.start, m.get .path)]) behind s.text rest
      (f.found s) := by
  obtain ⟨o, m⟩ := s
  by_cases hform : f = o.form
  · subst hform
    -- up to the word of the form, the form, and the end of the line
    have hplace : o.text = o.before ++ (o.form.word ++ o.form.joint) := by
      rw [o.text_eq, List.append_assoc]
    have hopening : o.form.pattern.PassesOver behind o.before
        (o.form.word ++ o.form.joint ++ m.literal ++ o.form.closing ++ [';']
          ++ rest) := by
      have hpasses :
          o.form.pattern.PassesOver behind o.before
            (o.form.word ++ o.form.joint
              ++ m.quote :: (m.text ++ [m.quote] ++ o.form.closing ++ [';']
                ++ rest)) :=
        passesOver_opening m.isQuote hplace fun _ => Nat.le_refl _
      simpa only [ScriptModule.literal, List.append_assoc, List.cons_append,
        List.nil_append] using hpasses
    have hmodule : o.form.pattern.Yields (fun m => [(m.start, m.get .path)])
        (o.before.getLast?.or behind)
        (o.form.word ++ o.form.joint ++ m.literal ++ o.form.closing)
        ([';'] ++ rest) fun offset => [(offset, m.text)] := by
      refine (ScriptForm.reads m (o.fits hbehind)).yields
        (by simp [ScriptModule.literal]) fun found hparts => ?_
      rw [hparts]
      rfl
    have hend (behind : Option Char) :
        o.form.pattern.PassesOver behind [';'] rest :=
      passesOver_sign (by decide) (by decide)
    have hall := (hopening.yields _).append (hmodule.append ((hend _).yields _))
    intro offset
    rw [ScriptStatement.text_eq, ScriptForm.found, if_pos rfl]
    exact hall offset
  · have hopening : f.pattern.PassesOver behind o.text
        (m.quote :: m.text ++ m.quote :: o.ending ++ rest) :=
      passesOver_opening (w := []) m.isQuote (List.append_nil _).symm
        fun h => absurd h hform
    have hmodule (behind : Option Char) :
        f.pattern.PassesOver behind
          (m.quote :: m.text ++ m.quote :: o.ending) rest :=
      passesOver_module m o.isSign_ending hrest
    have hall :=
      (hopening.append (hmodule _)).yields fun m => [(m.start, m.get .path)]
    intro offset
    have htext : ScriptStatement.text ⟨o, m⟩
        = o.text ++ (m.quote :: m.text ++ m.quote :: o.ending) :=
      List.append_assoc _ _ _
    rw [htext, ScriptForm.found, if_neg hform]
    exact hall offset

-- ============================================================== all lines

/-- A statement is found by its own form only. -/
theorem flatMap_found (s : ScriptStatement) (offset : Nat) :
    (ScriptForm.all.flatMap fun f => f.found s offset)
      = [(offset + s.opening.before.length, s.name.text)] := by
  unfold ScriptForm.found ScriptForm.all
  cases s.opening.form <;> rfl

/-- Statements on lines of their own are found form by form. -/
theorem scriptFinds_ofLines (closed : Bool)
    (statements : List ScriptStatement) :
    scriptFinds (ofLines closed (statements.map ScriptStatement.text))
      = ScriptForm.all.flatMap fun f =>
          (placed ScriptStatement.text 0 statements).flatMap fun r =>
            f.found r.2 r.1 := by
  unfold scriptFinds
  rw [scriptForms_eq, List.flatMap_map]
  congr 1
  funext f
  rw [List.map_eq_flatMap]
  exact flatMap_findAll_lines closed (fun s _ behind rest => yields_statement s)
    fun behind rest => passesOver_sign (by decide) (by decide)

/-- A find lies in the line of its statement. -/
theorem bounds_of_mem_found {s : ScriptStatement} {offset : Nat} {x : Find}
    (h : x ∈ f.found s offset) :
    offset ≤ x.1 ∧ x.1 ≤ offset + s.text.length := by
  unfold ScriptForm.found at h
  split at h
  case isTrue =>
    rw [List.mem_singleton] at h
    rw [h, s.text_eq, List.length_append]
    exact ⟨Nat.le_add_right _ _, by omega⟩
  case isFalse => cases h

/-- Finds by offset and then by text. -/
def Find.precedes (a b : Find) : Bool :=
  a.1 < b.1 || (a.1 == b.1 && Text.le a.2 b.2)

theorem Find.precedes_of_lt {x y : Find} (h : x.1 < y.1) :
    x.precedes y = true ∧ y.precedes x = false := by
  unfold Find.precedes
  have hlt : ¬ y.1 < x.1 := by omega
  have hne : y.1 ≠ x.1 := by omega
  simp [h, hlt, hne]

/-- In order, the finds are one for each statement. -/
theorem sortBy_scriptFinds (closed : Bool) (statements : List ScriptStatement) :
    Ordered.sortBy Find.precedes
        (scriptFinds (ofLines closed (statements.map ScriptStatement.text)))
      = (placed ScriptStatement.text 0 statements).flatMap fun r =>
          [(r.1 + r.2.opening.before.length, r.2.name.text)] := by
  rw [scriptFinds_ofLines]
  refine (sortBy_lines (fun _ _ => Find.precedes_of_lt) ?_ ?_ 0).trans ?_
  · exact fun f s offset x => bounds_of_mem_found
  · intro s offset
    rw [flatMap_found]
    exact List.pairwise_singleton _ _
  · simp only [flatMap_found]

/-- Statements name their modules: a text with one import statement on each
line has the modules of the statements as its specifiers, each at its first
occurrence and nothing else, whatever words stand in clauses and modules. -/
theorem script_statements_name_their_modules (closed : Bool)
    (statements : List ScriptStatement) :
    specifiers (ofLines closed (statements.map ScriptStatement.text)) .script
      = (statements.map fun s => s.name.text).eraseDups := by
  have hmodules :
      ∀ name ∈ statements.map (fun s => s.name.text), name ≠ [] := by
    intro name hname
    obtain ⟨s, -, rfl⟩ := List.mem_map.mp hname
    exact s.name.nonempty
  calc specifiers (ofLines closed (statements.map ScriptStatement.text)) .script
      = Text.dedupe ((Ordered.sortBy Find.precedes
          (scriptFinds
            (ofLines closed (statements.map ScriptStatement.text)))).map
              (·.2)) := rfl
    _ = Text.dedupe ((placed ScriptStatement.text 0 statements).flatMap
          fun r => [r.2.name.text]) := by
        rw [sortBy_scriptFinds, List.map_flatMap]
        rfl
    _ = Text.dedupe (statements.map fun s => s.name.text) := by
        rw [flatMap_placed fun s : ScriptStatement => [s.name.text],
          ← List.map_eq_flatMap]
    _ = (statements.map fun s => s.name.text).eraseDups :=
        dedupe_eq_eraseDups hmodules

/-- The words of the forms may stand in a clause and in a module. -/
example : specifiers ("export from import( from 'require( from ';\n"
    ++ "import \x22a\x22;\nawait import('a');").toList .script
    = ["require( from ".toList, "a".toList] := by
  decide +kernel

end SourceAtlas.Import
