/-
Members of a Go package, declared one by one. A member is a capitalised or
other name, what opens its definition, and the lines inside that. One search
looks for a keyword and a capitalised name at the start of a line, another one
for a group of members.

The lines inside a definition are indented or start with a closing bracket, so
they announce neither search. Of members that stand alone the declared names
are found, therefore, and no group (`GoMember.yields_alone`,
`GoMember.passesOver_alone`).

Consumed by the theory of groups.
-/
import SourceAtlas.Export
import SourceAtlas.Proofs.Pattern.Lines

namespace SourceAtlas.Export

open Pattern
open Text (Blank isBlank_of_isUpper)

variable {behind : Option Char} {c : Char} {t u gap name tail rest : Text}

-- ============================================================ declarations

/-- The keywords that declare package members other than functions. -/
inductive GoKeyword where
  | type
  | var
  | const
  deriving DecidableEq

/-- How the keyword is written. -/
def GoKeyword.text : GoKeyword → Text
  | type => "type".toList
  | var => "var".toList
  | const => "const".toList

/-- A line inside a definition, as it is written if the definition stands
alone: indented, or with a closing bracket first. -/
def IsInner (line : Text) : Prop :=
  '\n' ∉ line ∧ ∀ c ∈ line.head?, Text.isBlank c = true ∨ c ∈ ['}', ')', ']']

/-- A declaration: its name, what follows the name on its line, and the other
lines of the definition. -/
structure GoMember where
  name : Text
  nonempty : name ≠ []
  word : ∀ c ∈ name, Text.isWord c = true
  opening : Text
  oneLine : '\n' ∉ opening
  apart : ∀ c ∈ opening.head?, Text.isWord c = false
  inner : List Text
  indented : ∀ line ∈ inner, IsInner line

/-- The declaration on lines of its own. -/
def GoMember.alone (kw : GoKeyword) (m : GoMember) : Text :=
  kw.text ++ [' '] ++ m.name ++ Text.join ['\n'] (m.opening :: m.inner)

/-- The lines of the declaration without its keyword. -/
def GoMember.lines (m : GoMember) : List Text :=
  (m.name ++ m.opening) :: m.inner

-- ============================================================= first words

/-- The word that a line starts with behind its indentation, if any. -/
def leadingWord (line : Text) : Text :=
  (line.dropWhile Text.isBlank).takeWhile Text.isWord

/-- Whether a word starts with a capital. -/
def isCapitalized (word : Text) : Bool := word.head?.any Char.isUpper

/-- A line is indentation alone, or indentation and a first word, possibly an
empty one. -/
theorem line_cases (line : Text) :
    Blank line ∧ leadingWord line = []
      ∨ ∃ gap c tail, line = gap ++ c :: tail ∧ Blank gap
        ∧ Text.isBlank c = false
        ∧ leadingWord line = (c :: tail).takeWhile Text.isWord := by
  have hsplit := List.takeWhile_append_dropWhile (p := Text.isBlank) (l := line)
  cases hrest : line.dropWhile Text.isBlank with
  | nil =>
      rw [hrest, List.append_nil] at hsplit
      refine .inl ⟨?_, by rw [leadingWord, hrest]; rfl⟩
      rw [← hsplit]
      exact fun c hc => List.mem_takeWhile_imp hc
  | cons c tail =>
      rw [hrest] at hsplit
      refine .inr ⟨_, c, tail, hsplit.symm,
        fun c hc => List.mem_takeWhile_imp hc, ?_, ?_⟩
      · have hhead := List.head?_dropWhile_not Text.isBlank line
        simpa [hrest] using hhead
      · rw [leadingWord, hrest]

/-- The name of a member starts with a word character. -/
theorem GoMember.exists_cons (m : GoMember) :
    ∃ c name, m.name = c :: name ∧ Text.isWord c = true := by
  obtain ⟨c, name, hname⟩ := List.exists_cons_of_ne_nil m.nonempty
  exact ⟨c, name, hname, m.word c (by rw [hname]; exact List.mem_cons_self)⟩

/-- The first word of a member is its name. -/
theorem GoMember.leadingWord_name (m : GoMember) :
    leadingWord (m.name ++ m.opening) = m.name := by
  have hopens : (m.name ++ m.opening).dropWhile Text.isBlank
      = m.name ++ m.opening := by
    obtain ⟨c, name, hname, hc⟩ := m.exists_cons
    rw [hname, List.cons_append,
      List.dropWhile_cons_of_neg (by simp [Text.isBlank_of_isWord hc])]
  rw [leadingWord, hopens, List.takeWhile_append_of_pos m.word]
  have happart := m.apart
  cases hopening : m.opening with
  | nil => simp
  | cons c opening =>
      rw [hopening] at happart
      rw [List.takeWhile_cons_of_neg (by simp [happart c rfl]), List.append_nil]

-- ================================================================ keywords

/-- What the pattern of keywords spans is a keyword. -/
theorem spans_goKeyword (h : goKeyword.Spans behind u rest) :
    ∃ kw : GoKeyword, u = kw.text := by
  rcases h with h | h | h
  · exact ⟨.type, spans_lit.mp h⟩
  · exact ⟨.var, spans_lit.mp h⟩
  · exact ⟨.const, spans_lit.mp h⟩

theorem GoKeyword.reads (kw : GoKeyword) (behind : Option Char) (rest : Text) :
    goKeyword.Reads behind kw.text rest [] := by
  have htype : (lit "type").Reads behind "type".toList rest [] :=
    reads_lit behind _ rest
  have hvar : (lit "var").Reads behind "var".toList rest [] :=
    reads_lit behind _ rest
  have hconst : (lit "const").Reads behind "const".toList rest [] :=
    reads_lit behind _ rest
  cases kw with
  | type => exact htype.alt
  | var => exact Misses.alt_reads (misses_lit (by simp [text])) hvar.alt
  | const =>
      exact Misses.alt_reads (misses_lit (by simp [text]))
        (Misses.alt_reads (misses_lit (by simp [text])) hconst)

/-- No keyword starts with another one. -/
theorem GoKeyword.eq_of_append {kw kw' : GoKeyword} {s t : Text}
    (h : kw.text ++ s = kw'.text ++ t) : s = t := by
  cases kw <;> cases kw' <;> simp_all [text]

/-- A match of the first search is a keyword, blanks and a capital letter. -/
theorem of_spans_goDeclaration (h : goDeclaration.Spans behind u rest) :
    "func".toList <+: u
      ∨ ∃ (kw : GoKeyword) (gap : Text) (c : Char) (tail : Text),
      u = kw.text ++ (gap ++ c :: tail) ∧ Blank gap ∧ c.isUpper = true := by
  obtain ⟨-, v, rfl, ⟨rfl, -⟩, hv⟩ := h
  rcases hv with hfunc | hother
  · obtain ⟨a, b, rfl,
      ⟨a, b', rfl, ⟨a, b'', rfl, ⟨word, gap, rfl, hword, -⟩, -⟩, -⟩, -⟩ := hfunc
    rw [spans_lit] at hword
    rw [hword]
    left
    simp
  · obtain ⟨a, name, rfl, ⟨word, gap, rfl, hword, hgap⟩, c, tail, rfl,
      ⟨c, rfl, hc⟩, -⟩ := hother
    obtain ⟨kw, rfl⟩ := spans_goKeyword hword
    obtain ⟨x, gap, rfl, hblank⟩ := spans_many1.mp hgap
    exact .inr ⟨kw, x :: gap, c, tail, by simp, hblank, hc⟩

/-- A match of the second search is a keyword, blanks and a parenthesis. -/
theorem of_spans_goGroup (h : goGroup.Spans behind u rest) :
    ∃ (kw : GoKeyword) (gap tail : Text), u = kw.text ++ (gap ++ '(' :: tail)
      ∧ Blank gap := by
  obtain ⟨-, w1, rfl, ⟨-, w2, rfl,
    ⟨-, w3, rfl, ⟨-, w4, rfl,
      ⟨-, w5, rfl, ⟨-, paren, rfl,
        ⟨-, gap, rfl, ⟨-, word, rfl, ⟨rfl, -⟩, hword⟩, hgap⟩, hparen⟩, -⟩, -⟩,
      -⟩, -⟩, -⟩ := h
  obtain ⟨kw, rfl⟩ := spans_goKeyword hword
  rw [spans_lit] at hparen
  subst hparen
  exact ⟨kw, gap, w5 ++ w4 ++ w3 ++ w2 ++ w1, by simp, hgap⟩

/-- Declarations are found at line starts only. -/
theorem lineBound_goDeclaration : LineBound goDeclaration :=
  lineBound_lineStart.append _

theorem lineBound_goGroup : LineBound goGroup :=
  (((((((lineBound_lineStart.append _).append _).append _).append _).append
    _).append _).append _).append _

/-- The first letters of `func` and of the keywords. -/
def firstLetters : List Char := ['f', 't', 'v', 'c']

/-- A keyword starts with one of the first letters. -/
theorem GoKeyword.head?_mem (kw : GoKeyword) (t : Text) :
    ∃ c ∈ firstLetters, (kw.text ++ t).head? = some c := by
  cases kw with
  | type => exact ⟨'t', by decide, rfl⟩
  | var => exact ⟨'v', by decide, rfl⟩
  | const => exact ⟨'c', by decide, rfl⟩

/-- Neither search finds anything where no keyword starts. -/
theorem misses_of_head (h : ∀ c ∈ t.head?, c ∉ firstLetters) :
    goDeclaration.Misses behind t ∧ goGroup.Misses behind t := by
  constructor
  · refine misses_of_not_spans fun u rest hu hspans => ?_
    rcases of_spans_goDeclaration hspans with ⟨s, rfl⟩
      | ⟨kw, gap, c, tail, rfl, -, -⟩
    · exact h 'f' (by rw [hu]; rfl) (by decide)
    · obtain ⟨d, hd, hhead⟩ := kw.head?_mem (gap ++ c :: tail ++ rest)
      rw [← List.append_assoc, ← hu] at hhead
      exact h d hhead hd
  · refine misses_of_not_spans fun u rest hu hspans => ?_
    obtain ⟨kw, gap, tail, rfl, -⟩ := of_spans_goGroup hspans
    obtain ⟨d, hd, hhead⟩ := kw.head?_mem (gap ++ '(' :: tail ++ rest)
    rw [← List.append_assoc, ← hu] at hhead
    exact h d hhead hd

/-- What stands behind a keyword and its blanks decides between the searches. -/
theorem GoKeyword.misses_goDeclaration (kw : GoKeyword) (hgap : Blank gap)
    (hc : Text.isBlank c = false) (hupper : c.isUpper = false) :
    goDeclaration.Misses behind (kw.text ++ (gap ++ c :: tail)) := by
  refine misses_of_not_spans fun u rest hu hspans => ?_
  rcases of_spans_goDeclaration hspans with ⟨s, rfl⟩
    | ⟨kw', gap', d, tail', rfl, hgap', hd⟩
  · cases kw <;> simp [text] at hu
  · rw [List.append_assoc, List.append_assoc, List.cons_append] at hu
    rw [Text.head_eq_of_append_cons hgap hgap' hc (isBlank_of_isUpper hd)
      (eq_of_append hu), hd] at hupper
    cases hupper

/-- Without a parenthesis after the keyword no group is found. -/
theorem GoKeyword.misses_goGroup (kw : GoKeyword) (hgap : Blank gap)
    (hc : Text.isBlank c = false) (hparen : c ≠ '(') :
    goGroup.Misses behind (kw.text ++ (gap ++ c :: tail)) := by
  refine misses_of_not_spans fun u rest hu hspans => ?_
  obtain ⟨kw', gap', tail', rfl, hgap'⟩ := of_spans_goGroup hspans
  rw [List.append_assoc, List.append_assoc, List.cons_append] at hu
  exact hparen (Text.head_eq_of_append_cons hgap hgap' hc (by decide)
    (eq_of_append hu))

-- ============================================================== one by one

/-- No keyword stands where an inner line starts. -/
theorem not_mem_firstLetters_of_isInner {line : Text} (h : IsInner line)
    (hrest : EndsLine rest) : ∀ c ∈ (line ++ rest).head?, c ∉ firstLetters := by
  have hblank : ∀ c ∈ firstLetters, Text.isBlank c = false
      ∧ c ∉ ['}', ')', ']'] := by decide
  intro c hc hletter
  cases line with
  | nil =>
      rw [hrest c hc] at hletter
      exact absurd hletter (by decide)
  | cons d line =>
      rcases h.2 c hc with hd | hd
      · rw [(hblank c hletter).1] at hd
        cases hd
      · exact (hblank c hletter).2 hd

/-- No line inside a definition announces a search. -/
theorem GoMember.missesIn_inner {p : Pattern} (m : GoMember) (hp : LineBound p)
    (hmisses : ∀ behind t, (∀ c ∈ t.head?, c ∉ firstLetters)
      → p.Misses behind t) (hbehind : ¬ StartsLine behind)
    (hrest : EndsLine rest) :
    p.MissesIn behind (Text.join ['\n'] (m.opening :: m.inner)) rest := by
  have hlines : ∀ line ∈ m.opening :: m.inner, '\n' ∉ line :=
    List.forall_mem_cons.mpr
      ⟨m.oneLine, fun line hline => (m.indented line hline).1⟩
  have hsplit : Text.split '\n' (Text.join ['\n'] (m.opening :: m.inner))
      = m.opening :: m.inner :=
    Text.split_join (List.cons_ne_nil _ _) hlines
  have hinner {rest : Text} (hrest : EndsLine rest) (behind : Option Char)
      (line : Text) (hline : IsInner line) : p.Misses behind (line ++ rest) :=
    hmisses behind _ (not_mem_firstLetters_of_isInner hline hrest)
  refine hp.missesIn_of_lines
    (fun behind line more => hinner (by simp [EndsLine]) behind line)
    (hinner hrest) (fun hstart => absurd hstart hbehind) ?_
  rw [hsplit]
  exact m.indented

/-- A capitalised name is read to its end. -/
theorem reads_capitalized (hupper : isCapitalized name = true)
    (hname : ∀ c ∈ name, Text.isWord c = true)
    (hrest : ∀ c ∈ rest.head?, Text.isWord c = false) :
    (capitalized .name).Reads behind name rest [(.name, name)] := by
  cases name with
  | nil => cases hupper
  | cons c name =>
      obtain ⟨-, hname⟩ := List.forall_mem_cons.mp hname
      have hletter : (char Char.isUpper).Reads behind [c] (name ++ rest) [] :=
        reads_char (by simpa [isCapitalized] using hupper)
      exact (hletter.append_left (reads_many hname hrest)).group

/-- The rest of a member does not go on with its name. -/
theorem GoMember.head?_inner (m : GoMember) (hrest : EndsLine rest) :
    ∀ c ∈ (Text.join ['\n'] (m.opening :: m.inner) ++ rest).head?,
      Text.isWord c = false := by
  have hfeed {c : Char} (hc : c = '\n') : Text.isWord c = false := by
    rw [hc]
    decide
  intro c hc
  by_cases hopening : m.opening = []
  · rw [hopening] at hc
    cases hinner : m.inner with
    | nil =>
        rw [hinner] at hc
        exact hfeed (hrest c hc)
    | cons line inner =>
        rw [hinner] at hc
        exact hfeed (Option.some.inj hc).symm
  · refine m.apart c ?_
    cases hinner : m.inner with
    | nil =>
        rw [hinner] at hc
        rwa [Text.join, List.head?_append_of_ne_nil _ hopening] at hc
    | cons line inner =>
        rw [hinner, Text.join_cons_cons, List.append_assoc, List.append_assoc,
          List.head?_append_of_ne_nil _ hopening] at hc
        exact hc

/-- No line starts behind the name of a member. -/
theorem GoMember.not_startsLine (m : GoMember) (front : Text) :
    ¬ StartsLine ((front ++ m.name).getLast?.or behind) := by
  rw [List.getLast?_append, Option.or_assoc]
  exact not_startsLine_of_mem m.nonempty fun hfeed =>
    absurd (m.word _ hfeed) (by decide)

/-- A search that the keyword and the name do not announce finds nothing up to
the end of the name. -/
theorem GoMember.missesIn_head {p : Pattern} (m : GoMember) (kw : GoKeyword)
    (hp : LineBound p)
    (hmisses : ∀ c tail, Text.isWord c = true → m.name ++ rest = c :: tail
      → p.Misses behind (kw.text ++ ([' '] ++ c :: tail))) :
    p.MissesIn behind (kw.text ++ [' '] ++ m.name) rest := by
  have hkeyword : '\n' ∉ kw.text := by cases kw <;> decide
  have hname : '\n' ∉ m.name := fun hfeed => absurd (m.word _ hfeed) (by decide)
  have hfeed : '\n' ∉ kw.text ++ [' '] ++ m.name :=
    List.not_mem_append (List.not_mem_append hkeyword (by decide)) hname
  refine hp.missesIn (fun hmem => hfeed (List.dropLast_subset _ hmem))
    fun _ => ?_
  obtain ⟨c, name, hcons, hc⟩ := m.exists_cons
  rw [List.append_assoc, List.append_assoc]
  have hstart := hmisses c (name ++ rest) hc (by rw [hcons]; rfl)
  rwa [← List.cons_append, ← hcons] at hstart

/-- A capitalised member is found where it is declared alone. -/
theorem GoMember.reads_alone (m : GoMember) (kw : GoKeyword)
    (hcapital : isCapitalized m.name = true) (hbehind : StartsLine behind)
    (hrest : EndsLine rest) :
    goDeclaration.Reads behind (kw.text ++ [' '] ++ m.name)
      (Text.join ['\n'] (m.opening :: m.inner) ++ rest) [(.name, m.name)] := by
  have hspace : ∀ c ∈ [' '], Text.isBlank c = true := by decide
  have hnext :
      ∀ d ∈ (m.name ++ (Text.join ['\n'] (m.opening :: m.inner) ++ rest)).head?,
        Text.isBlank d = false := by
    obtain ⟨c, name, hname, hc⟩ := m.exists_cons
    rw [hname]
    simpa using Text.isBlank_of_isWord hc
  have hfunc : (lit "func").Misses behind (kw.text ++ [' '] ++ m.name
      ++ (Text.join ['\n'] (m.opening :: m.inner) ++ rest)) := by
    refine misses_lit ?_
    cases kw <;> simp [GoKeyword.text]
  have hnamed :
      (goKeyword ++ blanks1 ++ capitalized .name).Reads behind
        (kw.text ++ [' '] ++ m.name)
        (Text.join ['\n'] (m.opening :: m.inner) ++ rest) [(.name, m.name)] :=
    ((kw.reads behind _).append_left
      (reads_many1 (List.cons_ne_nil ' ' []) hspace hnext)).append_right
      (reads_capitalized hcapital m.word (m.head?_inner hrest))
  exact (reads_anchor (startsLine_iff.mp hbehind)).append_right
    (hfunc.append.append.append.append.alt_reads hnamed)

/-- The first search finds the name of a declaration if it is capitalised. -/
theorem GoMember.yields_alone (m : GoMember) (kw : GoKeyword)
    (hbehind : StartsLine behind) (hrest : EndsLine rest) :
    goDeclaration.Yields (fun m => [m.get .name]) behind (m.alone kw) rest
      fun _ => [m.name].filter isCapitalized := by
  have hinner :
      goDeclaration.PassesOver ((kw.text ++ [' '] ++ m.name).getLast?.or behind)
        (Text.join ['\n'] (m.opening :: m.inner)) rest :=
    passesOver_of_misses (m.missesIn_inner lineBound_goDeclaration
      (fun _ _ h => (misses_of_head h).1) (m.not_startsLine _) hrest)
  have hspace : Blank [' '] := by decide
  -- The name is told by its first character: no capital, no match.
  have hhead :
      goDeclaration.Yields (fun m => [m.get .name]) behind
        (kw.text ++ [' '] ++ m.name)
        (Text.join ['\n'] (m.opening :: m.inner) ++ rest) fun _ =>
        [m.name].filter isCapitalized := by
    obtain ⟨c, name, hname, hc⟩ := m.exists_cons
    cases hupper : c.isUpper with
    | false =>
        have hnone : [m.name].filter isCapitalized = [] := by
          simp [isCapitalized, hname, hupper]
        rw [hnone]
        refine (passesOver_of_misses
          (m.missesIn_head kw lineBound_goDeclaration ?_)).yields _
        intro d tail hd hcons
        rw [hname, List.cons_append] at hcons
        rw [← (List.cons_eq_cons.mp hcons).1] at hd ⊢
        exact kw.misses_goDeclaration hspace (Text.isBlank_of_isWord hd) hupper
    | true =>
        have hcapital : isCapitalized m.name = true := by
          simpa [isCapitalized, hname] using hupper
        rw [List.filter_cons_of_pos hcapital, List.filter_nil]
        refine (m.reads_alone kw hcapital hbehind hrest).yields ?_
          fun m hparts => ?_
        · exact List.append_ne_nil_of_right_ne_nil _ m.nonempty
        · rw [hparts]
          rfl
  have hall := hhead.append (hinner.yields _)
  intro offset
  exact (hall offset).trans (by rw [List.append_nil]; rfl)

/-- The second search finds nothing there. -/
theorem GoMember.passesOver_alone (m : GoMember) (kw : GoKeyword)
    (hrest : EndsLine rest) : goGroup.PassesOver behind (m.alone kw) rest := by
  have hspace : Blank [' '] := by decide
  have hinner :
      goGroup.MissesIn ((kw.text ++ [' '] ++ m.name).getLast?.or behind)
        (Text.join ['\n'] (m.opening :: m.inner)) rest :=
    m.missesIn_inner lineBound_goGroup (fun _ _ h => (misses_of_head h).2)
      (m.not_startsLine _) hrest
  have hhead : goGroup.MissesIn behind (kw.text ++ [' '] ++ m.name)
      (Text.join ['\n'] (m.opening :: m.inner) ++ rest) := by
    refine m.missesIn_head kw lineBound_goGroup fun c tail hc _ => ?_
    refine kw.misses_goGroup hspace (Text.isBlank_of_isWord hc) ?_
    rintro rfl
    exact absurd hc (by decide)
  exact passesOver_of_misses (hhead.append hinner)

end SourceAtlas.Export
