/-
The import statements of Python: modules by their names, or names from a module
or from the package that some dots stand for, with the list on one line or in
parentheses. A statement is read whole by its own form (`reads_plainImport`,
`FromHeadline.reads`), and the other one passes over it.

- The text of a statement yields what the statement asks for, in its own form,
  and nothing in the other one (`yields_pythonStatement`).
- A sequence of statements yields what they ask for one after the other; sorting
  by offset restores their order across the two forms.
-/
import SourceAtlas.Proofs.Import.ClauseNames
import SourceAtlas.Proofs.Import.FirstWord

namespace SourceAtlas.Import

open Pattern Text

-- ============================================================== statements

/-- Where names are taken from: a module behind any number of dots, or dots
alone. -/
inductive ImportSource where
  | module (dots : Nat) (name : DottedName)
  | package (dots : Nat) (relative : 0 < dots)

/-- The dots in front. -/
def ImportSource.dots : ImportSource → Text
  | module dots _ => List.replicate dots '.'
  | package dots _ => List.replicate dots '.'

/-- The module after the dots, empty if there is none. -/
def ImportSource.name : ImportSource → Text
  | module _ name => name.text
  | package _ _ => []

/-- An import statement: modules, or names from somewhere. -/
inductive PythonStatement where
  | modules (items : List ModuleItem)
  | members (source : ImportSource) (names : List NameItem)

/-- What a statement asks for: its modules, the module that it takes names
from, or each name behind the dots. -/
def PythonStatement.specifiers : PythonStatement → List Text
  | modules items => items.map fun item => item.name.text
  | members (.module dots name) _ => [List.replicate dots '.' ++ name.text]
  | members (.package dots _) names =>
    names.map fun item => List.replicate dots '.' ++ item.name.text

/-- What a statement says before the names that it takes from somewhere. -/
structure FromHeadline where
  source : ImportSource
  indent : Text
  gapFrom : Text
  gapName : Text
  gapImport : Text
  inline : Inline indent
  apartFrom : Apart gapFrom
  apartName : Apart gapName
  apartImport : Apart gapImport

/-- The headline up to the names that it imports. -/
def FromHeadline.text (l : FromHeadline) : Text :=
  l.indent ++ "from".toList ++ l.gapFrom ++ l.source.dots ++ l.source.name
    ++ l.gapName ++ "import".toList ++ l.gapImport

/-- How a statement may be written: indented or not, and with any layout of
its list. -/
inductive PythonStatement.Spells : PythonStatement → Text → Prop where
  | modules {items : List ModuleItem} {ind gap t : Text} (hind : Inline ind)
      (hgap : Apart gap) (h : Row (items.map ModuleItem.text) t) :
      Spells (.modules items) (ind ++ "import".toList ++ gap ++ t)
  | members {names : List NameItem} {t : Text} (l : FromHeadline)
      (h : Clause (names.map NameItem.text) t) :
      Spells (.members l.source names) (l.text ++ t)

/-- A statement as it is written. -/
structure WrittenStatement where
  statement : PythonStatement
  text : Text
  spells : statement.Spells text

/-- The form that finds the statement. -/
def PythonStatement.form : PythonStatement → PythonForm
  | modules _ => .plain
  | members _ _ => .selective

-- ================================================================== reads

variable {behind : Option Char} {c : Char} {t ind gap w rest : Text}
  {items : List Text} {f : PythonForm}

/-- A heading is read at the start of a line, with the blanks around its
word. -/
theorem reads_heading (hbehind : StartsLine behind) (hind : Inline ind)
    (hw : ∀ c ∈ (w ++ (gap ++ rest)).head?, Text.isInline c = false)
    (hgap : Apart gap) (hrest : ∀ c ∈ rest.head?, Text.isInline c = false) :
    (heading w).Reads behind (ind ++ w ++ gap) rest [] := by
  have hindent : indent.Reads behind ([] ++ ind) (w ++ (gap ++ rest)) [] :=
    (reads_anchor (startsLine_iff.mp hbehind)).append_left (reads_many hind hw)
  exact (hindent.append_left (reads_lit _ w _)).append_left
    (reads_many1 hgap.nonempty hgap.inline hrest)

/-- No parenthesis closes in a gap: comments hold none. -/
theorem Gap.paren_not_mem (h : Gap gap) : ')' ∉ gap := by
  induction h with
  | nil => exact List.not_mem_nil
  | blank hc _ ih =>
      rw [List.mem_cons, not_or]
      refine ⟨?_, ih⟩
      rintro rfl
      exact absurd hc (by decide)
  | comment hbody _ ih =>
      simp only [List.cons_append, List.mem_cons, List.mem_append, not_or]
      exact ⟨by decide, fun hc => (hbody ')' hc).2 rfl, by decide, ih⟩

theorem paren_not_mem_of_listed (h : Listed Gap items t)
    (hitems : ∀ item ∈ items, IsItem item) : ')' ∉ t :=
  h.not_mem (fun _ hgap => hgap.paren_not_mem) (by decide)
    fun item hitem => (hitems item hitem).not_mem (by decide) (by decide)

/-- A row stays on its line. -/
theorem Row.feed_not_mem (h : Row items t)
    (hitems : ∀ item ∈ items, IsItem item) : '\n' ∉ t := by
  have hitem {item : Text} (h : IsItem item) : '\n' ∉ item :=
    h.not_mem (by decide) (by decide)
  induction h with
  | one item => exact hitem (hitems item List.mem_cons_self)
  | cons item hbefore hafter _ ih =>
      obtain ⟨hi, hothers⟩ := List.forall_mem_cons.mp hitems
      simp only [List.mem_append, List.mem_cons, not_or]
      exact ⟨⟨hitem hi, hbefore.feed_not_mem⟩, by decide,
        hafter.feed_not_mem, ih hothers⟩

/-- A row starts with its first item. -/
theorem Row.exists_item (h : Row items t) :
    ∃ item ∈ items, ∃ more, t = item ++ more := by
  cases h with
  | one item => exact ⟨t, List.mem_cons_self, [], (List.append_nil t).symm⟩
  | cons item hbefore hafter h =>
      exact ⟨item, List.mem_cons_self, _, List.append_assoc _ _ _⟩

/-- A list on one line starts with a word. -/
theorem Row.exists_cons (h : Row items t)
    (hitems : ∀ item ∈ items, IsItem item) :
    ∃ c more, t = c :: more ∧ Text.isWord c = true := by
  obtain ⟨item, hitem, behind, rfl⟩ := h.exists_item
  obtain ⟨c, more, hc, hword⟩ := (hitems item hitem).exists_cons
  exact ⟨c, more ++ behind, by rw [hc]; rfl, hword⟩

/-- A list in parentheses, or the rest of the line. -/
def clausePattern : Pattern :=
  alt (lit "(" ++ many (except [')']) ++ lit ")") (many1 inLine)

/-- Where a line ends, only a line feed can stand. -/
theorem head?_of_endsLine {p : Char → Bool} (hrest : EndsLine rest)
    (hp : p '\n' = false) : ∀ c ∈ rest.head?, p c = false := by
  intro c hc
  rw [hrest c hc]
  exact hp

/-- What may stand behind the headline, as far as finding it goes: anything on
one line, or a list in parentheses. -/
inductive ClauseText : Text → Prop where
  | line {t : Text} (hne : t ≠ []) (hline : '\n' ∉ t)
      (hstart : ∀ c ∈ t.head?, Text.isInline c = false ∧ c ≠ '(') : ClauseText t
  | spread {items : List Text} {t : Text} (h : Listed Gap items t)
      (hitems : ∀ item ∈ items, IsItem item) : ClauseText (['('] ++ t ++ [')'])

/-- A clause is read as one, whether it is in parentheses or not. -/
theorem Clause.clauseText (h : Clause items t)
    (hitems : ∀ item ∈ items, IsItem item) : ClauseText t := by
  cases h with
  | row h =>
      obtain ⟨c, more, rfl, hword⟩ := h.exists_cons hitems
      refine .line (List.cons_ne_nil c more) (h.feed_not_mem hitems)
        fun d hd => ?_
      obtain rfl : c = d := Option.some.inj hd
      refine ⟨isInline_of_isWord hword, ?_⟩
      rintro rfl
      exact absurd hword (by decide)
  | spread h => exact .spread h hitems

/-- A clause does not start with a blank. -/
theorem ClauseText.head? (h : ClauseText t) (rest : Text) :
    ∀ c ∈ (t ++ rest).head?, Text.isInline c = false := by
  cases h with
  | line hne hline hstart =>
      obtain ⟨d, more, rfl⟩ := List.exists_cons_of_ne_nil hne
      intro c hc
      exact (hstart c hc).1
  | spread h hitems => simpa using (by decide : Text.isInline '(' = false)

/-- A clause is read to the end of its line, or of its parentheses. -/
theorem ClauseText.reads (h : ClauseText t) (hrest : EndsLine rest) :
    clausePattern.Reads behind t rest [] := by
  cases h with
  | line hne hline hstart =>
      have hparen : (lit ['(']).Misses behind (t ++ rest) := by
        intro offset captures
        refine fails_lit ?_
        obtain ⟨d, more, rfl⟩ := List.exists_cons_of_ne_nil hne
        rw [List.cons_append, List.cons_prefix_cons]
        exact fun h => (hstart d rfl).2 h.1.symm
      refine Misses.alt_reads hparen.append.append (reads_many1 hne ?_ ?_)
      · exact fun x hx => bne_iff_ne.mpr fun hfeed => hline (hfeed ▸ hx)
      · exact head?_of_endsLine hrest (by decide)
  | @spread items body h hitems =>
      have hbody : ∀ x ∈ body, except [')'] x = true := by
        intro x hx
        have hne : x ≠ ')' :=
          fun hparen => paren_not_mem_of_listed h hitems (hparen ▸ hx)
        simp [except, hne]
      have hopen :
          (lit ['(']).Reads behind ['('] (body ++ ([')'] ++ rest)) [] :=
        reads_lit _ _ _
      have hinside := hopen.append_left (reads_many hbody (by simp [except]))
      exact (hinside.append_left (reads_lit _ [')'] _)).alt

-- ============================================================== from where

theorem ImportSource.isDot_dots (s : ImportSource) :
    ∀ c ∈ s.dots, (c == '.') = true := by
  cases s with
  | module dots name =>
      exact fun c hc => beq_iff_eq.mpr (List.eq_of_mem_replicate hc)
  | package dots relative =>
      exact fun c hc => beq_iff_eq.mpr (List.eq_of_mem_replicate hc)

/-- A module is made of dotted names. -/
theorem ImportSource.isDotted_name (s : ImportSource) :
    ∀ c ∈ s.name, isDotted c = true := by
  cases s with
  | module dots name => exact name.isDotted
  | package dots relative => exact fun c hc => absurd hc List.not_mem_nil

/-- The dots end where the name starts. -/
theorem ImportSource.head?_name (s : ImportSource)
    (ht : ∀ c ∈ t.head?, Text.isInline c = true) :
    ∀ c ∈ (s.name ++ t).head?, (c == '.') = false := by
  intro c hc
  refine beq_eq_false_iff_ne.mpr ?_
  rintro rfl
  cases s with
  | package dots relative => exact absurd (ht '.' hc) (by decide)
  | module dots name =>
      have hitem : IsItem name.text := ⟨name, none, rfl⟩
      obtain ⟨d, more, htext, hword⟩ := hitem.exists_cons
      have hc : (d :: more ++ t).head? = some '.' := by
        rw [← htext]
        exact hc
      rw [Option.some.inj hc] at hword
      exact absurd hword (by decide)

/-- The gap before the source ends where that starts. -/
theorem ImportSource.head? (s : ImportSource) (t : Text) :
    ∀ c ∈ (s.dots ++ (s.name ++ t)).head?, Text.isInline c = false := by
  have hstart {u : Text} (hne : u ≠ []) (hu : ∀ c ∈ u, isDotted c = true)
      (t : Text) : ∀ c ∈ (u ++ t).head?, Text.isInline c = false := by
    obtain ⟨d, u, rfl⟩ := List.exists_cons_of_ne_nil hne
    have hblank := isBlank_of_isDotted (hu d List.mem_cons_self)
    intro c hc
    rw [← Option.some.inj hc, ← Bool.not_eq_true]
    intro hinline
    rw [isBlank_of_isInline hinline] at hblank
    cases hblank
  have hdots (n : Nat) : ∀ c ∈ List.replicate n '.', isDotted c = true := by
    intro c hc
    rw [List.eq_of_mem_replicate hc]
    decide
  cases s with
  | module dots name =>
      have hsource := hstart (u := List.replicate dots '.' ++ name.text)
        (List.append_ne_nil_of_right_ne_nil _ name.text_ne_nil)
        (List.forall_mem_append.mpr ⟨hdots dots, name.isDotted⟩) t
      rwa [List.append_assoc] at hsource
  | package dots relative =>
      apply hstart _ (hdots dots)
      rw [Ne, List.replicate_eq_nil_iff]
      omega

/-- A `from` statement is read whole, with the clause that its names are in. -/
theorem FromHeadline.reads (l : FromHeadline) (h : ClauseText t)
    (hbehind : StartsLine behind) (hrest : EndsLine rest) :
    fromImport.Reads behind (l.text ++ t) rest
      [(.clause, t), (.moduleName, l.source.name), (.dots, l.source.dots)] := by
  have hword (t : Text) :
      ∀ c ∈ ("from".toList ++ t).head?, Text.isInline c = false := by
    simpa using (by decide : Text.isInline 'f' = false)
  have hword' (t : Text) :
      ∀ c ∈ ("import".toList ++ t).head?, Text.isInline c = false := by
    simpa using (by decide : Text.isInline 'i' = false)
  have hafterName (t : Text) := head?_append_of_apart l.apartName t
  have hafterName' (t : Text) :
      ∀ c ∈ (l.gapName ++ t).head?, isDotted c = false := by
    intro c hc
    rw [← Bool.not_eq_true]
    intro hdotted
    have hblank := isBlank_of_isInline (hafterName t c hc)
    rw [isBlank_of_isDotted hdotted] at hblank
    cases hblank
  have hhead :
      (heading "from".toList).Reads behind
        (l.indent ++ "from".toList ++ l.gapFrom)
        (l.source.dots ++ (l.source.name
          ++ (l.gapName ++ ("import".toList ++ (l.gapImport ++ (t ++ rest))))))
        [] :=
    reads_heading hbehind l.inline (hword _) l.apartFrom (l.source.head? _)
  -- from the last part of the pattern to the first
  refine Reads.append ?_ (h.reads hrest).group
  refine Reads.append_left ?_
    (reads_many1 l.apartImport.nonempty l.apartImport.inline (h.head? rest))
  refine Reads.append_left ?_ (reads_lit _ "import".toList _)
  refine Reads.append_left ?_
    (reads_many1 l.apartName.nonempty l.apartName.inline (hword' _))
  refine Reads.append ?_
    (reads_many l.source.isDotted_name (hafterName' _)).group
  exact hhead.append (reads_many l.source.isDot_dots
    (l.source.head?_name (hafterName _))).group

-- ================================================================ modules

/-- What may follow an item of a row: a comma, possibly behind blanks, or the
end of the line. -/
def EndsItem (rest : Text) : Prop :=
  ∃ blanks more, rest = blanks ++ more ∧ Inline blanks
    ∧ ∀ c ∈ more.head?, c = ',' ∨ c = '\n'

/-- An item ends where its line does. -/
theorem endsItem_of_endsLine (h : EndsLine rest) : EndsItem rest :=
  ⟨[], rest, rfl, by simp [Inline], fun c hc => .inr (h c hc)⟩

theorem endsItem_comma {before : Text} (h : Inline before) (more : Text) :
    EndsItem (before ++ ',' :: more) :=
  ⟨before, _, rfl, h, by simp⟩

/-- No dotted name goes on where an item ends. -/
theorem EndsItem.head? (h : EndsItem rest) :
    ∀ c ∈ rest.head?, isDotted c = false := by
  obtain ⟨blanks, more, rfl, hblanks, hmore⟩ := h
  intro c hc
  rw [← Bool.not_eq_true]
  intro hdotted
  cases blanks with
  | nil =>
      rcases hmore c hc with rfl | rfl
      · exact absurd hdotted (by decide)
      · exact absurd hdotted (by decide)
  | cons d blanks =>
      obtain rfl : d = c := Option.some.inj hc
      have hblank := isBlank_of_isInline (hblanks d List.mem_cons_self)
      rw [isBlank_of_isDotted hdotted] at hblank
      cases hblank

/-- What is not part of a dotted name is not part of a word. -/
theorem isWord_of_isDotted_eq_false (h : isDotted c = false) :
    Text.isWord c = false :=
  (Bool.or_eq_false_iff.mp h).1

theorem EndsItem.firstWord (h : EndsItem rest) : Text.firstWord rest = [] := by
  obtain ⟨blanks, more, rfl, hblanks, hmore⟩ := h
  rw [firstWord_append_of_inline hblanks]
  cases more with
  | nil => rfl
  | cons c more =>
      rcases hmore c rfl with rfl | rfl
      · exact firstWord_cons_of_sign (by decide) (by decide) more
      · exact firstWord_cons_of_sign (by decide) (by decide) more

/-- What gives a module another name. -/
def newNamePattern : Pattern :=
  inlineBlanks1 ++ lit "as" ++ inlineBlanks1 ++ many1 Text.isWord

theorem EndsItem.misses (h : EndsItem rest) :
    newNamePattern.Misses behind rest := by
  refine misses_of_not_spans fun u rest' hu hspans => ?_
  obtain ⟨-, name, rfl, ⟨-, gap, rfl, ⟨ind, w, rfl, hind, hw⟩, hgap⟩, -⟩ :=
    hspans
  rw [spans_lit] at hw
  obtain ⟨x, ind, rfl, hbefore⟩ := spans_many1.mp hind
  obtain ⟨y, gap, rfl, hafter⟩ := spans_many1.mp hgap
  have hword : Text.firstWord rest = "as".toList := by
    rw [hu, hw, List.append_assoc]
    exact firstWord_headline (by decide) (by decide) hbefore
      ⟨List.cons_ne_nil y gap, hafter⟩ _
  rw [h.firstWord] at hword
  cases hword

/-- A module with its new name is read as one item. -/
theorem ModuleItem.reads (item : ModuleItem) (hrest : EndsItem rest) :
    moduleItem.Reads behind item.text rest [] := by
  have hname := item.name.isDotted
  have hne := item.name.text_ne_nil
  obtain ⟨name, newName⟩ := item
  cases newName with
  | none =>
      have hplain :
          (opt newNamePattern).Reads (name.text.getLast?.or behind)
            [] rest [] :=
        hrest.misses.opt_reads
      have hread := (reads_many1 hne hname hrest.head?).append_left hplain
      rwa [List.append_nil] at hread
  | some newName =>
      have hspace : Inline [' '] := by simp [Inline, Text.isInline]
      have hend : ∀ c ∈ rest.head?, Text.isWord c = false :=
        fun c hc => isWord_of_isDotted_eq_false (hrest.head? c hc)
      have hstart :
          ∀ c ∈ (newName.text ++ rest).head?, Text.isInline c = false := by
        obtain ⟨c, more, hc, hword⟩ := newName.exists_cons
        rw [hc]
        simpa using isInline_of_isWord hword
      -- Each part ends where the next one starts, as no two neighbours share a
      -- character.
      have hrenamed (behind : Option Char) : newNamePattern.Reads behind
          ([' '] ++ "as".toList ++ [' '] ++ newName.text) rest [] := by
        refine Reads.append_left ?_
          (reads_many1 newName.nonempty newName.word hend)
        refine Reads.append_left ?_ (reads_many1 (by simp) hspace hstart)
        refine Reads.append_left ?_ (reads_lit _ "as".toList _)
        exact reads_many1 (by simp) hspace (by simp [Text.isInline])
      have hafter :
          ∀ c ∈ ([' '] ++ "as".toList ++ [' '] ++ newName.text ++ rest).head?,
            isDotted c = false := by
        simpa using (by decide : isDotted ' ' = false)
      rw [ModuleItem.text, renamed, List.append_assoc]
      exact (reads_many1 hne hname hafter).append_left (hrenamed _).alt

/-- A comma and the module behind it. -/
def nextModule : Pattern :=
  many Text.isInline ++ lit "," ++ many Text.isInline ++ moduleItem

/-- No further module follows where the line ends. -/
theorem misses_nextModule (h : EndsLine rest) :
    nextModule.Misses behind rest := by
  refine misses_of_not_spans fun u rest' hu hspans => ?_
  obtain ⟨-, item, rfl,
    ⟨-, after, rfl, ⟨before, comma, rfl, hbefore, hcomma⟩, -⟩, -⟩ := hspans
  rw [spans_lit] at hcomma
  rw [hcomma] at hu
  cases before with
  | nil => exact absurd (h ',' (by rw [hu]; rfl)) (by decide)
  | cons c before =>
      obtain rfl : c = '\n' := h c (by rw [hu]; rfl)
      exact absurd (hbefore '\n' List.mem_cons_self) (by decide)

/-- A row is read as its first module and one more behind each comma. -/
theorem Row.exists_reads {modules : List ModuleItem}
    (h : Row (modules.map ModuleItem.text) t) (hrest : EndsLine rest) :
    ∃ (first : ModuleItem) (tail : Text), t = first.text ++ tail
      ∧ EndsItem (tail ++ rest)
      ∧ ∀ behind, nextModule.ReadsOften behind tail rest := by
  -- The induction is on the row, whose items are the modules' texts.
  generalize hitems : modules.map ModuleItem.text = items at h
  induction h generalizing modules with
  | one item =>
      obtain ⟨m, -, rfl⟩ := List.mem_map.mp (hitems ▸ List.mem_cons_self)
      exact ⟨m, [], (List.append_nil _).symm, endsItem_of_endsLine hrest,
        fun _ => (misses_nextModule hrest).readsOften⟩
  | @cons item items before after t hbefore hafter _ ih =>
      obtain ⟨m, modules, rfl, rfl, hothers⟩ := List.map_eq_cons_iff.mp hitems
      obtain ⟨next, tail, rfl, hends, htail⟩ := ih hothers
      have hcomma (t : Text) :
          ∀ c ∈ ([','] ++ t).head?, Text.isInline c = false := by
        simpa using (by decide : Text.isInline ',' = false)
      have hnext (t : Text) :
          ∀ c ∈ (next.text ++ t).head?, Text.isInline c = false := by
        obtain ⟨c, more, hc, hword⟩ := next.isItem.exists_cons
        rw [hc]
        simpa using isInline_of_isWord hword
      refine ⟨m, before ++ [','] ++ after ++ next.text ++ tail, by simp, ?_,
        fun behind => ?_⟩
      · simpa using endsItem_comma hbefore
          (after ++ (next.text ++ (tail ++ rest)))
      · refine ReadsOften.cons ?_ (by simp) (htail _)
        refine Reads.append_left ?_ (next.reads hends)
        refine Reads.append_left ?_ (reads_many hafter (hnext _))
        exact (reads_many hbefore (hcomma _)).append_left (reads_lit _ [','] _)

/-- A plain import is read, with its modules as one clause. -/
theorem reads_plainImport {modules : List ModuleItem}
    (hbehind : StartsLine behind) (hind : Inline ind) (hgap : Apart gap)
    (h : Row (modules.map ModuleItem.text) t) (hrest : EndsLine rest) :
    plainImport.Reads behind (ind ++ "import".toList ++ gap ++ t) rest
      [(.clause, t)] := by
  have hword (t : Text) :
      ∀ c ∈ ("import".toList ++ t).head?, Text.isInline c = false := by
    simpa using (by decide : Text.isInline 'i' = false)
  obtain ⟨first, tail, rfl, hends, htail⟩ := h.exists_reads hrest
  have hfirst :
      ∀ c ∈ (first.text ++ tail ++ rest).head?, Text.isInline c = false := by
    obtain ⟨c, more, hc, hword⟩ := first.isItem.exists_cons
    rw [hc]
    simpa using isInline_of_isWord hword
  have hrow (behind : Option Char) :
      (moduleItem ++ star nextModule).Reads behind
        (first.text ++ tail) rest [] :=
    (first.reads hends).append_left (htail _).star
  exact (reads_heading hbehind hind (hword _) hgap hfirst).append (hrow _).group

-- ============================================================ one statement

theorem FromHeadline.firstWord_text (l : FromHeadline) (t : Text) :
    firstWord (l.text ++ t) = "from".toList := by
  have hword :=
    firstWord_headline (w := "from".toList) (by decide) (by decide) l.inline
      l.apartFrom (l.source.dots
        ++ (l.source.name ++ (l.gapName
          ++ ("import".toList ++ (l.gapImport ++ t)))))
  simpa only [text, List.append_assoc] using hword

theorem FromHeadline.feed_not_mem (l : FromHeadline) : '\n' ∉ l.text := by
  have hdots : '\n' ∉ l.source.dots :=
    fun hc => absurd (l.source.isDot_dots '\n' hc) (by decide)
  have hname : '\n' ∉ l.source.name :=
    fun hc => absurd (l.source.isDotted_name '\n' hc) (by decide)
  have hfrom : '\n' ∉ "from".toList := by decide
  have himport : '\n' ∉ "import".toList := by decide
  simp only [text, List.mem_append, not_or]
  exact ⟨⟨⟨⟨⟨⟨⟨l.inline.feed_not_mem, hfrom⟩, l.apartFrom.inline.feed_not_mem⟩,
    hdots⟩, hname⟩, l.apartName.inline.feed_not_mem⟩, himport⟩,
    l.apartImport.inline.feed_not_mem⟩

/-- The form of plain imports finds nothing in a `from` statement. -/
theorem FromHeadline.passesOver (l : FromHeadline) (h : ClauseText t) :
    PythonForm.plain.pattern.PassesOver behind (l.text ++ t) rest := by
  have hfrom (t : Text) : firstWord (l.text ++ t) ≠ PythonForm.plain.word := by
    rw [l.firstWord_text]
    decide
  cases h with
  | line hne hline hstart =>
      apply PythonForm.passesOver_line
      · intro _
        rw [List.append_assoc]
        exact hfrom _
      · rw [List.mem_append, not_or]
        exact ⟨l.feed_not_mem, hline⟩
  | @spread items body h hitems =>
      have hopen : PythonForm.plain.pattern.PassesOver behind (l.text ++ ['('])
          (body ++ [')'] ++ rest) := by
        apply PythonForm.passesOver_line
        · intro _
          rw [List.append_assoc]
          exact hfrom _
        · rw [List.mem_append, not_or]
          exact ⟨l.feed_not_mem, by decide⟩
      have hclose (behind : Option Char) :
          PythonForm.plain.pattern.PassesOver behind [')'] rest :=
        (PythonForm.misses_of_sign (by decide) (by decide)).passesOver
      have hall :=
        hopen.append ((passesOver_of_listed h hitems).append (hclose _))
      simpa only [List.append_assoc] using hall

/-- So does the form of `from` statements in an import of modules. -/
theorem passesOver_modules {modules : List ModuleItem} (hind : Inline ind)
    (hgap : Apart gap) (h : Row (modules.map ModuleItem.text) t) :
    PythonForm.selective.pattern.PassesOver behind
      (ind ++ "import".toList ++ gap ++ t) rest := by
  have hword : '\n' ∉ "import".toList := by decide
  have hrow :=
    h.feed_not_mem fun item hitem => ModuleItem.isItem_of_mem_map hitem
  apply PythonForm.passesOver_line
  · intro _
    rw [List.append_assoc, firstWord_headline (by decide) (by decide) hind hgap]
    decide
  · simp only [List.mem_append, not_or]
    exact ⟨⟨⟨hind.feed_not_mem, hword⟩, hgap.inline.feed_not_mem⟩, hrow⟩

/-- What a form finds in a statement that starts at an offset. -/
def PythonForm.found (f : PythonForm) (s : WrittenStatement) (offset : Nat) :
    List Find :=
  if f = s.statement.form
    then s.statement.specifiers.map fun x => (offset, x) else []

/-- A row of modules is found module by module. -/
theorem plainFinds_row {modules : List ModuleItem} {m : Match}
    (h : Row (modules.map ModuleItem.text) (m.get .clause)) :
    plainFinds m = modules.map fun item => (m.start, item.name.text) := by
  unfold plainFinds
  rw [← List.map_filterMap, h.filterMap_head?_words, List.map_map]
  rfl

/-- What is taken from a module asks for the module, whatever is taken. -/
theorem FromHeadline.yields_module {dots : Nat} {name : DottedName}
    (l : FromHeadline) (hsource : l.source = .module dots name)
    (h : ClauseText t) (hbehind : StartsLine behind) (hrest : EndsLine rest) :
    fromImport.Yields fromFinds behind (l.text ++ t) rest
      fun offset => [(offset, List.replicate dots '.' ++ name.text)] := by
  refine (l.reads h hbehind hrest).yields (by simp [text]) fun m hparts => ?_
  have hne : name.text.isEmpty = false := by simpa using name.text_ne_nil
  have hdots : m.get .dots = List.replicate dots '.' := by
    rw [hparts, hsource]
    rfl
  have hname : m.get .moduleName = name.text := by
    rw [hparts, hsource]
    rfl
  simp [fromFinds, hdots, hname, hne]

/-- What is taken from dots alone asks for each name that is taken. -/
theorem FromHeadline.yields_package {dots : Nat} {relative : 0 < dots}
    {names : List NameItem} (l : FromHeadline)
    (hsource : l.source = .package dots relative)
    (h : Clause (names.map NameItem.text) t) (hbehind : StartsLine behind)
    (hrest : EndsLine rest) :
    fromImport.Yields fromFinds behind (l.text ++ t) rest
      fun offset => names.map fun item =>
        (offset, List.replicate dots '.' ++ item.name.text) := by
  have hclause :=
    h.clauseText fun item hitem => NameItem.isItem_of_mem_map hitem
  refine (l.reads hclause hbehind hrest).yields (by simp [text])
    fun m hparts => ?_
  have hne : (List.replicate dots '.').isEmpty = false := by
    simpa using Nat.ne_of_gt relative
  have hdots : m.get .dots = List.replicate dots '.' := by
    rw [hparts, hsource]
    rfl
  have hname : m.get .moduleName = [] := by
    rw [hparts, hsource]
    rfl
  have hnames : clauseNames (m.get .clause) = names.map fun item =>
      item.name.text := by
    rw [hparts]
    exact h.clauseNames
  simp [fromFinds, hdots, hname, hne, hnames]

/-- A statement with names is found with what it asks for. -/
theorem FromHeadline.yields_members {names : List NameItem} (l : FromHeadline)
    (h : Clause (names.map NameItem.text) t) (hbehind : StartsLine behind)
    (hrest : EndsLine rest) :
    fromImport.Yields fromFinds behind (l.text ++ t) rest fun offset =>
      (PythonStatement.members l.source names).specifiers.map fun x =>
        (offset, x) := by
  have hclause :=
    h.clauseText fun item hitem => NameItem.isItem_of_mem_map hitem
  cases hsource : l.source with
  | module dots name => exact l.yields_module hsource hclause hbehind hrest
  | package dots relative =>
      simpa [PythonStatement.specifiers, Function.comp_def]
        using l.yields_package hsource h hbehind hrest

/-- A statement yields what it asks for, in its own form only. -/
theorem yields_pythonStatement (s : WrittenStatement)
    (hbehind : StartsLine behind) (hrest : EndsLine rest) :
    f.pattern.Yields f.finds behind s.text rest (f.found s) := by
  obtain ⟨statement, text, spells⟩ := s
  cases spells with
  | @modules items ind gap t hind hgap h =>
      cases f with
      | plain =>
          refine (reads_plainImport hbehind hind hgap h hrest).yields (by simp)
            fun m hparts => ?_
          have hclause : m.get .clause = t := hparts .clause
          rw [← hclause] at h
          simp [PythonForm.finds, PythonForm.found, PythonStatement.form,
            PythonStatement.specifiers, plainFinds_row h]
      | selective => exact (passesOver_modules hind hgap h).yields _
  | @members names t l h =>
      have hclause :=
        h.clauseText fun item hitem => NameItem.isItem_of_mem_map hitem
      cases f with
      | plain => exact (l.passesOver hclause).yields _
      | selective => exact l.yields_members h hbehind hrest

/-- A single statement that takes something from a module asks for the
module. -/
theorem FromHeadline.specifiers_module {dots : Nat} {name : DottedName}
    (l : FromHeadline) (closed : Bool) (hsource : l.source = .module dots name)
    (h : ClauseText t) :
    specifiers (ofLines closed [l.text ++ t]) .python
      = [List.replicate dots '.' ++ name.text] := by
  have hbreak (f : PythonForm) (behind : Option Char) (rest : Text) :
      f.pattern.PassesOver behind ['\n'] rest :=
    (PythonForm.misses_of_sign (by decide) (by decide)).passesOver
  have hplain : ∀ line ∈ [l.text ++ t], ∀ behind rest, StartsLine behind
      → EndsLine rest → plainImport.Yields plainFinds behind (id line) rest
        fun _ => [] := by
    intro line hline behind rest _ _
    rw [List.mem_singleton.mp hline]
    exact (l.passesOver h).yields _
  have hfrom : ∀ line ∈ [l.text ++ t], ∀ behind rest, StartsLine behind
      → EndsLine rest → fromImport.Yields fromFinds behind (id line) rest
        fun offset => [(offset, List.replicate dots '.' ++ name.text)] := by
    intro line hline behind rest hbehind hrest
    rw [List.mem_singleton.mp hline]
    exact l.yields_module hsource h hbehind hrest
  -- Either search is made line by line, and there is but one line.
  have hplain := flatMap_findAll_lines closed hplain (hbreak .plain)
  have hfrom := flatMap_findAll_lines closed hfrom (hbreak .selective)
  rw [List.map_id] at hplain hfrom
  show inOrder ((plainImport.findAll (ofLines closed [l.text ++ t])).flatMap
    plainFinds ++ (fromImport.findAll (ofLines closed [l.text ++ t])).flatMap
    fromFinds) = _
  rw [hplain, hfrom]
  show Text.dedupe [List.replicate dots '.' ++ name.text]
    = [List.replicate dots '.' ++ name.text]
  rw [dedupe_eq_eraseDups]
  · rfl
  · rw [List.forall_mem_singleton]
    exact List.append_ne_nil_of_right_ne_nil _ name.text_ne_nil

-- =========================================================== all statements

/-- Each statement is found by its own form only. -/
theorem flatMap_pythonFound (s : WrittenStatement) (offset : Nat) :
    (PythonForm.all.flatMap fun f => f.found s offset)
      = s.statement.specifiers.map fun x => (offset, x) := by
  unfold PythonForm.found PythonForm.all
  cases s.statement.form <;> simp

/-- In order, the finds of both forms are what the statements ask for. -/
theorem sortBy_pythonFinds (closed : Bool)
    (statements : List WrittenStatement) :
    Ordered.sortBy (fun a b : Find => decide (a.1 ≤ b.1))
        (PythonForm.all.flatMap fun f =>
          (f.pattern.findAll (ofLines closed
            (statements.map WrittenStatement.text))).flatMap f.finds)
      = (placed WrittenStatement.text 0 statements).flatMap fun r =>
          r.2.statement.specifiers.map fun x => (r.1, x) := by
  have hfinds (f : PythonForm) :
      (f.pattern.findAll (ofLines closed
        (statements.map WrittenStatement.text))).flatMap f.finds
        = (placed WrittenStatement.text 0 statements).flatMap fun r =>
          f.found r.2 r.1 :=
    flatMap_findAll_lines closed
      (fun s _ behind rest => yields_pythonStatement s) fun behind rest =>
      (PythonForm.misses_of_sign (by decide) (by decide)).passesOver
  simp only [hfinds]
  -- Finds lie where their statement starts, and a statement has one form:
  -- sorting brings them in the order of the statements.
  refine (sortBy_lines ?_ ?_ ?_ 0).trans ?_
  · intro x y hlt
    simp only [decide_eq_true_eq, decide_eq_false_iff_not]
    omega
  · intro f s offset x hx
    unfold PythonForm.found at hx
    split at hx
    case isTrue =>
      obtain ⟨specifier, -, rfl⟩ := List.mem_map.mp hx
      exact ⟨Nat.le_refl offset, Nat.le_add_right _ _⟩
    case isFalse => cases hx
  · intro s offset
    rw [flatMap_pythonFound, List.pairwise_map]
    exact List.pairwise_of_forall_sublist fun _ => by simp
  · simp only [flatMap_pythonFound]

/-- No specifier of a statement is empty. -/
theorem PythonStatement.ne_nil_of_mem_specifiers {s : PythonStatement}
    {x : Text} (h : x ∈ s.specifiers) : x ≠ [] := by
  cases s with
  | modules items =>
      obtain ⟨item, -, rfl⟩ := List.mem_map.mp h
      exact item.name.text_ne_nil
  | members source names =>
      cases source with
      | module dots name =>
          rw [List.mem_singleton.mp h]
          exact List.append_ne_nil_of_right_ne_nil _ name.text_ne_nil
      | package dots relative =>
          obtain ⟨item, -, rfl⟩ := List.mem_map.mp h
          exact List.append_ne_nil_of_right_ne_nil _ item.name.nonempty

/-- Statements ask for what they say: a text of import statements, each on its
own lines, indented or not, with its list on one line or spread over several
with comments between the names, has what the statements ask for as its
specifiers, in their order and each at its first occurrence. -/
theorem python_statements_ask_for_what_they_say (closed : Bool)
    (statements : List WrittenStatement) :
    specifiers (ofLines closed (statements.map WrittenStatement.text)) .python
      = (statements.flatMap fun s => s.statement.specifiers).eraseDups := by
  have hne :
      ∀ x ∈ statements.flatMap (fun s => s.statement.specifiers), x ≠ [] := by
    intro x hx
    obtain ⟨s, -, hx⟩ := List.mem_flatMap.mp hx
    exact s.statement.ne_nil_of_mem_specifiers hx
  calc specifiers
        (ofLines closed (statements.map WrittenStatement.text)) .python
      = Text.dedupe ((Ordered.sortBy (fun a b : Find => decide (a.1 ≤ b.1))
          (PythonForm.all.flatMap fun f =>
            (f.pattern.findAll (ofLines closed
              (statements.map WrittenStatement.text))).flatMap f.finds)).map
              (·.2)) := by
        simp [specifiers, pythonSpecifiers, inOrder, PythonForm.all,
          PythonForm.pattern, PythonForm.finds]
    _ = Text.dedupe ((placed WrittenStatement.text 0 statements).flatMap
          fun r => r.2.statement.specifiers) := by
        rw [sortBy_pythonFinds, List.map_flatMap]
        simp [Function.comp_def]
    _ = Text.dedupe (statements.flatMap fun s => s.statement.specifiers) := by
        rw [flatMap_placed fun s : WrittenStatement => s.statement.specifiers]
    _ = (statements.flatMap fun s => s.statement.specifiers).eraseDups :=
        dedupe_eq_eraseDups hne

/-- A comment may hold commas and keywords. -/
example : specifiers
  ("from . import (\n    a,  # first, import z\n    c as renamed,\n)\n"
    ++ "\timport os.path, sys as system\n").toList .python
    = [".a".toList, ".c".toList, "os.path".toList, "sys".toList] := by
  decide +kernel

end SourceAtlas.Import
