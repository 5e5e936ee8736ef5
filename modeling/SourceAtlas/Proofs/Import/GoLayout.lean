/-
How a Go file lays out its imports. An import has a line of its own, or it is
one line of a block in parentheses, and each layout has a search of its own.

- A line with an import is read by the first search. The second one passes
  over it, because it asks for a parenthesis where a name or a quote is
  (`yields_importLine`, `passesOver_importLine`).
- A block is passed over by the first search for the same reason. The second
  one reads it to the first closing parenthesis at the start of a line, and
  the lines of a block start with a tab, so that is the end of the block
  (`reads_importBlock`). Inside, the quotes pair up line by line, since neither
  a name nor a path holds one (`findAll_doubleQuoted`).

Paths may hold parentheses, blanks and keywords all the same.
-/
import SourceAtlas.Proofs.Import.NameList

namespace SourceAtlas.Import

open Pattern Text

-- ================================================================ imports

/-- An import: a path, with the name that it goes by if it is given one. -/
structure GoImport where
  newName : Option Text
  dotted : ∀ name ∈ newName, ∀ c ∈ name, isDotted c = true
  path : Text
  nonempty : path ≠ []
  plain : ∀ c ∈ path, c ≠ '\x22' ∧ c ≠ '\n'

namespace GoImport

/-- What stands before the path. -/
def lead (i : GoImport) : Text :=
  match i.newName with
  | none => []
  | some name => name ++ [' ']

/-- The path between its quotes. -/
def literal (i : GoImport) : Text := ['\x22'] ++ i.path ++ ['\x22']

/-- How the import is written in either layout, without its keyword. -/
def text (i : GoImport) : Text := i.lead ++ i.literal

/-- The line of an import that stands alone. -/
def line (i : GoImport) : Text := "import ".toList ++ i.text

/-- The line of an import in a block. -/
def blockLine (i : GoImport) : Text := '\t' :: i.text

end GoImport

/-- One line for each import. -/
def importLines (imports : List GoImport) : List Text :=
  imports.map GoImport.line

/-- One block for all imports. -/
def importBlockLines (imports : List GoImport) : List Text :=
  "import (".toList :: imports.map GoImport.blockLine ++ [[')']]

variable {behind : Option Char} {c : Char} {gap tail rest : Text}
  {imports : List GoImport}

/-- No blank is part of a dotted name. -/
theorem isInline_of_isDotted (h : isDotted c = true) :
    Text.isInline c = false := by
  rw [← Bool.not_eq_true]
  intro hinline
  have hblank := isBlank_of_isInline hinline
  rw [isBlank_of_isDotted h] at hblank
  cases hblank

namespace GoImport

/-- What stands before the literal is a dotted name and a space, or nothing. -/
theorem not_mem_lead (i : GoImport) (hdotted : isDotted c = false)
    (hspace : c ≠ ' ') : c ∉ i.lead := by
  intro hc
  unfold lead at hc
  cases hname : i.newName with
  | none => simp [hname] at hc
  | some name =>
      rw [hname] at hc
      rcases List.mem_append.mp hc with hc | hc
      · rw [i.dotted name hname c hc] at hdotted
        cases hdotted
      · exact hspace (List.mem_singleton.mp hc)

/-- An import is written on one line. -/
theorem feed_not_mem_text (i : GoImport) : '\n' ∉ i.text := by
  have hlead := i.not_mem_lead (c := '\n') (by decide) (by decide)
  have hpath : '\n' ∉ i.path := fun hc => (i.plain _ hc).2 rfl
  simp [text, literal, hlead, hpath]

theorem feed_not_mem_line (i : GoImport) : '\n' ∉ i.line :=
  List.not_mem_append (by decide) i.feed_not_mem_text

/-- A name with the space behind it, or nothing. -/
def Named (t : Text) : Prop :=
  t = [] ∨ ∃ name, name ≠ [] ∧ (∀ c ∈ name, isDotted c = true)
    ∧ t = name ++ [' ']

/-- Blanks follow the keyword, then a name if there is one, and the path. -/
theorem exists_gap (i : GoImport) :
    ∃ gap named, i.line = "import".toList ++ (gap ++ (named ++ i.literal))
      ∧ Apart gap
      ∧ Named named := by
  have hspace : Apart [' '] := ⟨by decide, by unfold Inline; decide⟩
  have hspaces : Apart [' ', ' '] := ⟨by decide, by unfold Inline; decide⟩
  unfold line text lead
  cases hname : i.newName with
  | none => exact ⟨[' '], [], rfl, hspace, .inl rfl⟩
  | some name =>
      by_cases hne : name = []
      · exact ⟨[' ', ' '], [], by rw [hne]; rfl, hspaces, .inl rfl⟩
      · exact ⟨[' '], name ++ [' '], rfl, hspace,
          .inr ⟨name, hne, i.dotted name hname, rfl⟩⟩

/-- A name or a quote comes first. -/
theorem exists_cons (i : GoImport) {named : Text} (h : Named named) :
    ∃ c tail, named ++ i.literal = c :: tail ∧ Text.isInline c = false
      ∧ c ≠ '(' := by
  rcases h with rfl | ⟨name, hne, hname, rfl⟩
  · exact ⟨'\x22', _, rfl, by decide, by decide⟩
  · obtain ⟨c, name, rfl⟩ := List.exists_cons_of_ne_nil hne
    have hc := hname c List.mem_cons_self
    refine ⟨c, _, rfl, isInline_of_isDotted hc, ?_⟩
    rintro rfl
    exact absurd hc (by decide)

end GoImport

-- =========================================================== the keyword

/-- Single imports are found at line starts only. -/
theorem lineBound_singleImport : LineBound singleImport :=
  (((lineBound_lineStart.append _).append _).append _).append _

theorem lineBound_importBlock : LineBound importBlock :=
  (((((lineBound_lineStart.append _).append _).append _).append _).append
    _).append _

/-- Neither search finds anything where the keyword is not. -/
theorem misses_of_not_import (h : ¬ "import".toList <+: rest) :
    singleImport.Misses behind rest ∧ importBlock.Misses behind rest := by
  have hword : (anchor .lineStart ++ lit "import").Misses behind rest :=
    misses_lineStart_lit h
  exact ⟨hword.append.append.append, hword.append.append.append.append.append⟩

/-- What stands behind the keyword and the blanks after it tells the two
searches apart. -/
theorem misses_importBlock (hgap : Inline gap) (hc : Text.isInline c = false)
    (hparen : c ≠ '(') :
    importBlock.Misses behind ("import".toList ++ (gap ++ c :: tail)) := by
  have hopen :
      (anchor .lineStart ++ lit "import" ++ many Text.isInline
        ++ lit ['(']).Misses behind
        ("import".toList ++ (gap ++ c :: tail)) := by
    refine misses_of_not_spans fun u rest hu hspans => ?_
    obtain ⟨-, paren, rfl,
      ⟨-, gap', rfl, ⟨-, word, rfl, ⟨rfl, -⟩, hword⟩, hgap'⟩, hparen'⟩ :=
      hspans
    rw [spans_lit] at hword hparen'
    subst hword hparen'
    simp only [List.nil_append, List.append_assoc] at hu
    exact hparen (Text.head_eq_of_append_cons hgap hgap' hc (by decide)
      (List.append_cancel_left hu))
  exact hopen.append.append.append

/-- A keyword without a name or a literal behind it is no single import. -/
theorem misses_singleImport (hgap : Inline gap) (hc : Text.isInline c = false)
    (hdotted : isDotted c = false) (hquote : c ≠ '\x22') :
    singleImport.Misses behind ("import".toList ++ (gap ++ c :: tail)) := by
  refine misses_of_not_spans fun u rest hu hspans => ?_
  obtain ⟨-, path, rfl,
    ⟨-, lead, rfl, ⟨-, gap', rfl, ⟨-, word, rfl, ⟨rfl, -⟩, hword⟩, hgap'⟩,
      hlead⟩, hpath⟩ := hspans
  rw [spans_lit] at hword
  subst hword
  obtain ⟨x, gap', rfl, hinline⟩ := spans_many1.mp hgap'
  simp only [List.nil_append, List.append_assoc] at hu
  have hafter := List.append_cancel_left hu
  rcases hlead with ⟨name, blanks, rfl, hname, -⟩ | rfl
  · obtain ⟨d, name, rfl, hdots⟩ := spans_many1.mp hname
    have hd := hdots d List.mem_cons_self
    rw [Text.head_eq_of_append_cons hgap hinline hc (isInline_of_isDotted hd)
      hafter, hd] at hdotted
    cases hdotted
  · obtain ⟨opening, closing, rfl, ⟨quote, body, rfl, ⟨d, rfl, hd⟩, -⟩, -⟩ :=
      hpath
    rw [beq_iff_eq.mp hd] at hafter
    exact hquote (Text.head_eq_of_append_cons hgap hinline hc
      (by decide) hafter)

-- =============================================================== one line

/-- The literal of an import is read, and its path captured. -/
theorem reads_doubleQuoted (i : GoImport) :
    doubleQuoted.Reads behind i.literal rest [(.path, i.path)] := by
  have hquote (behind : Option Char) (rest : Text) :
      (only '\x22').Reads behind ['\x22'] rest [] :=
    reads_lit behind ['\x22'] rest
  have hpath : ∀ c ∈ i.path, except ['\x22'] c = true := by
    intro c hc
    simpa [except] using (i.plain c hc).1
  have hend : ∀ c ∈ (['\x22'] ++ rest).head?, except ['\x22'] c = false := by
    simp [except]
  have hbody (behind : Option Char) :
      (group .path (many1 (except ['\x22']))).Reads behind i.path
        (['\x22'] ++ rest) [(.path, i.path)] :=
    (reads_many1 i.nonempty hpath hend).group
  exact ((hquote _ _).append (hbody _)).append (hquote _ _)

theorem GoImport.Named.reads {named : Text} (h : Named named) (i : GoImport) :
    (opt (many1 isDotted ++ inlineBlanks1)).Reads behind named
      (i.literal ++ rest) [] := by
  rcases h with rfl | ⟨name, hne, hname, rfl⟩
  · refine Misses.opt_reads (Misses.append (Misses.append (misses_char ?_)))
    simpa [literal] using (by decide : isDotted '\x22' = false)
  · have hspace : ∀ c ∈ [' '], Text.isInline c = true := by decide
    have hend :
        ∀ c ∈ ([' '] ++ (i.literal ++ rest)).head?, isDotted c = false := by
      simpa using (by decide : isDotted ' ' = false)
    have hquote : ∀ c ∈ (i.literal ++ rest).head?, Text.isInline c = false := by
      simpa [literal] using (by decide : Text.isInline '\x22' = false)
    have hword :
        (many1 isDotted).Reads behind name ([' '] ++ (i.literal ++ rest)) [] :=
      reads_many1 hne hname hend
    exact (hword.append (reads_many1 (by simp) hspace hquote)).alt

/-- An import on its own line is read, and its path captured. -/
theorem GoImport.reads (i : GoImport) (hbehind : StartsLine behind) :
    singleImport.Reads behind i.line rest [(.path, i.path)] := by
  obtain ⟨gap, named, hline, hgap, hnamed⟩ := i.exists_gap
  obtain ⟨c, tail, hcons, hc, -⟩ := i.exists_cons hnamed
  have hnext :
      ∀ d ∈ (named ++ (i.literal ++ rest)).head?, Text.isInline d = false := by
    rw [← List.append_assoc, hcons]
    simpa using hc
  have hword := (reads_anchor (startsLine_iff.mp hbehind)).append_left
    (reads_lit behind "import".toList (gap ++ (named ++ (i.literal ++ rest))))
  have hblanks :=
    hword.append_left (reads_many1 hgap.nonempty hgap.inline hnext)
  have hall :=
    (hblanks.append_left (hnamed.reads i)).append_right (reads_doubleQuoted i)
  simp only [List.nil_append, List.append_assoc] at hall
  rw [hline]
  exact hall

/-- The first search finds the path of a line. -/
theorem yields_importLine (i : GoImport) (hbehind : StartsLine behind) :
    singleImport.Yields (fun m => [(m.start, m.get .path)]) behind i.line rest
      fun offset => [(offset, i.path)] := by
  have hne : i.line ≠ [] := List.append_ne_nil_of_left_ne_nil (by decide) _
  refine (i.reads hbehind).yields hne fun m hparts => ?_
  rw [hparts]
  rfl

/-- The second one finds nothing there. -/
theorem passesOver_importLine (i : GoImport) :
    importBlock.PassesOver behind i.line rest := by
  obtain ⟨gap, named, hline, hgap, hnamed⟩ := i.exists_gap
  obtain ⟨c, tail, hcons, hc, hparen⟩ := i.exists_cons hnamed
  refine passesOver_of_misses (lineBound_importBlock.missesIn ?_ fun _ => ?_)
  · exact fun hfeed => i.feed_not_mem_line (List.dropLast_subset i.line hfeed)
  · rw [hline, hcons]
    simp only [List.append_assoc, List.cons_append]
    exact misses_importBlock hgap.inline hc hparen

/-- There is nothing to find in an empty line. -/
theorem passesOver_feed :
    singleImport.PassesOver behind ['\n'] rest
      ∧ importBlock.PassesOver behind ['\n'] rest := by
  have hnone : ¬ "import".toList <+: '\n' :: rest := by simp
  obtain ⟨hsingle, hblock⟩ := misses_of_not_import hnone
  exact ⟨hsingle.passesOver, hblock.passesOver⟩

-- =============================================================== one block

/-- Inside a block, the literals are the paths. -/
theorem findAll_doubleQuoted (imports : List GoImport) :
    (doubleQuoted.findAll
      (closedLines ([] :: imports.map GoImport.blockLine))).map (·.get .path)
      = imports.map GoImport.path := by
  have hplain {behind : Option Char} {t rest : Text} (ht : '\x22' ∉ t) :
      doubleQuoted.PassesOver behind t rest := by
    refine passesOver_of_misses fun v c w htvw => ?_
    have hc : c ≠ '\x22' := by
      rintro rfl
      exact ht (by rw [htvw]; simp)
    exact Misses.append (Misses.append (misses_char (by simpa using hc)))
  have hline (i : GoImport) (behind : Option Char) (rest : Text) :
      doubleQuoted.Yields (fun m => [m.get .path]) behind
        (i.blockLine ++ ['\n']) rest fun _ => [i.path] := by
    -- Only the literal of a line has quotes in it.
    have hlead :
        doubleQuoted.PassesOver behind ('\t' :: i.lead)
          (i.literal ++ ['\n'] ++ rest) := by
      refine hplain (List.not_mem_cons_of_ne_of_not_mem (by decide) ?_)
      exact i.not_mem_lead (by decide) (by decide)
    have hpath (behind : Option Char) :
        doubleQuoted.Yields (fun m => [m.get .path]) behind i.literal
          (['\n'] ++ rest) fun _ => [i.path] := by
      refine (reads_doubleQuoted i).yields (by simp [GoImport.literal])
        fun m hparts => ?_
      rw [hparts]
      rfl
    have hfeed (behind : Option Char) :
        doubleQuoted.PassesOver behind ['\n'] rest :=
      hplain (by decide)
    have hall := (hlead.yields _).append ((hpath _).append ((hfeed _).yields _))
    intro offset
    have htext : i.blockLine ++ ['\n']
        = '\t' :: i.lead ++ (i.literal ++ ['\n']) := by
      simp [GoImport.blockLine, GoImport.text]
    rw [htext]
    exact hall offset
  have hlines (behind : Option Char) (offset : Nat) :
      (doubleQuoted.findAllFrom 0 behind offset
        (closedLines (imports.map GoImport.blockLine))).flatMap
          (fun m => [m.get .path])
          = imports.map GoImport.path := by
    induction imports generalizing behind offset with
    | nil => rfl
    | cons i imports ih =>
        have hfirst :=
          hline i behind (closedLines (imports.map GoImport.blockLine)) offset
        rw [ih] at hfirst
        exact hfirst
  have hopen :
      doubleQuoted.PassesOver none ['\n']
        (closedLines (imports.map GoImport.blockLine)) :=
    hplain (by decide)
  calc (doubleQuoted.findAll
          (closedLines ([] :: imports.map GoImport.blockLine))).map
            (·.get .path)
      = (doubleQuoted.findAll
          (closedLines ([] :: imports.map GoImport.blockLine))).flatMap
          (fun m => [m.get .path]) := List.map_eq_flatMap
    _ = (doubleQuoted.findAllFrom 0 (some '\n') 1
          (closedLines (imports.map GoImport.blockLine))).flatMap
          (fun m => [m.get .path]) := congrArg _ (hopen 0)
    _ = imports.map GoImport.path := hlines _ _

/-- The lines of a block are indented. -/
theorem head?_blockLine (i : GoImport) : i.blockLine.head? = some '\t' := rfl

/-- The second search reads a block to its end. -/
theorem reads_importBlock (hbehind : StartsLine behind) :
    importBlock.Reads behind
      (closedLines ("import (".toList :: imports.map GoImport.blockLine)
        ++ [')']) rest
      [(.body, closedLines ([] :: imports.map GoImport.blockLine))] := by
  have hspace : ∀ c ∈ [' '], Text.isInline c = true := by decide
  have hparen (t : Text) :
      ∀ c ∈ (['('] ++ t).head?, Text.isInline c = false := by
    simpa using (by decide : Text.isInline '(' = false)
  have hlines : ∀ line ∈ [] :: imports.map GoImport.blockLine,
      '\n' ∉ line ∧ line.head? ≠ some ')' := by
    refine List.forall_mem_cons.mpr ⟨by simp, fun line hline => ?_⟩
    obtain ⟨i, -, rfl⟩ := List.mem_map.mp hline
    refine ⟨List.not_mem_cons_of_ne_of_not_mem (by decide) i.feed_not_mem_text,
      ?_⟩
    rw [head?_blockLine]
    decide
  have hopen (t : Text) :
      (anchor .lineStart ++ lit "import" ++ many Text.isInline
        ++ lit ['(']).Reads behind
        ([] ++ "import".toList ++ [' '] ++ ['(']) t [] := by
    have hword := (reads_anchor (startsLine_iff.mp hbehind)).append_left
      (reads_lit behind "import".toList ([' '] ++ (['('] ++ t)))
    exact (hword.append_left (reads_many hspace (hparen t))).append_left
      (reads_lit _ ['('] t)
  have hopening : "import (".toList
      = [] ++ "import".toList ++ [' '] ++ ['('] := by decide
  rw [closedLines_cons, List.append_assoc, hopening]
  exact reads_upToParen (hopen _) hlines (by simp)

/-- The first one finds nothing in it. -/
theorem missesIn_importBlockLines (imports : List GoImport) :
    singleImport.MissesIn behind
      (closedLines ("import (".toList :: imports.map GoImport.blockLine))
        rest := by
  apply lineBound_singleImport.missesIn_closedLines
  refine List.forall_mem_cons.mpr
    ⟨⟨by decide, fun behind rest => ?_⟩, fun line hline => ?_⟩
  · have hspace : Inline [' '] := by unfold Inline; decide
    have hopen : "import (".toList = "import".toList ++ ([' '] ++ ['(']) := by
      decide
    have hmisses :
        singleImport.Misses behind
          ("import".toList ++ ([' '] ++ '(' :: '\n' :: rest)) :=
      misses_singleImport hspace (by decide) (by decide) (by decide)
    rw [hopen, List.append_assoc, List.append_assoc]
    exact hmisses
  · obtain ⟨i, -, rfl⟩ := List.mem_map.mp hline
    refine ⟨List.not_mem_cons_of_ne_of_not_mem (by decide) i.feed_not_mem_text,
      fun behind rest => ?_⟩
    exact (misses_of_not_import (by simp [GoImport.blockLine])).1

-- ================================================================== finds

/-- Finds that are in order already keep it. -/
theorem inOrder_of_pairwise {finds : List Find}
    (h : finds.Pairwise fun x y => x.1 ≤ y.1) (hne : ∀ x ∈ finds, x.2 ≠ []) :
    inOrder finds = (finds.map (·.2)).eraseDups := by
  have hsorted : Ordered.sortBy (fun a b : Find => decide (a.1 ≤ b.1)) finds
      = finds :=
    Ordered.sortBy_of_pairwise (h.imp decide_eq_true)
  rw [inOrder, hsorted, dedupe_eq_eraseDups]
  intro path hpath
  obtain ⟨x, hx, rfl⟩ := List.mem_map.mp hpath
  exact hne x hx

/-- Single imports ask for their paths, each once. -/
theorem goSpecifiers_importLines (closed : Bool) (imports : List GoImport) :
    goSpecifiers (ofLines closed (importLines imports))
      = (imports.map GoImport.path).eraseDups := by
  have hsingle :
      (singleImport.findAll (ofLines closed (importLines imports))).map
        (fun m => (m.start, m.get .path))
        = (placed GoImport.line 0 imports).map fun r => (r.1, r.2.path) := by
    rw [List.map_eq_flatMap, List.map_eq_flatMap]
    exact flatMap_findAll_lines closed
      (fun i _ _ _ hbehind _ => yields_importLine i hbehind) fun _ _ =>
      passesOver_feed.1
  -- The second search has nothing to find, since no line opens a block.
  have hblock :
      (importBlock.findAll (ofLines closed (importLines imports))).flatMap
        (fun b => (doubleQuoted.findAll (b.get .body)).map fun m =>
          (b.start, m.get .path))
      = [] := by
    refine (flatMap_findAll_lines closed
      (fun i _ _ _ _ _ => (passesOver_importLine i).yields _) fun _ _ =>
      passesOver_feed.2).trans ?_
    exact List.flatMap_eq_nil_iff.mpr fun _ _ => rfl
  rw [goSpecifiers, hsingle, hblock, List.append_nil, inOrder_of_pairwise]
  · have hpaths : (placed GoImport.line 0 imports).flatMap (fun r => [r.2.path])
        = imports.flatMap fun i => [i.path] :=
          flatMap_placed (fun i : GoImport => [i.path]) 0
    rw [← List.map_eq_flatMap, ← List.map_eq_flatMap] at hpaths
    rw [List.map_map]
    exact congrArg List.eraseDups hpaths
  · rw [List.pairwise_map]
    exact (pairwise_placed 0).imp fun hrs => by omega
  · intro x hx
    obtain ⟨r, -, rfl⟩ := List.mem_map.mp hx
    exact r.2.nonempty

theorem goSpecifiers_importBlockLines (closed : Bool)
    (imports : List GoImport) :
    goSpecifiers (ofLines closed (importBlockLines imports))
      = (imports.map GoImport.path).eraseDups := by
  have hsingle :
      singleImport.findAll (ofLines closed (importBlockLines imports)) = [] :=
    findAll_block_eq_nil closed (fun _ => missesIn_importBlockLines imports)
      (fun _ _ => (misses_of_not_import (by simp)).1) fun _ _ =>
      passesOver_feed.1
  have hblock :
      ∃ b : Match, b.get .body
        = closedLines ([] :: imports.map GoImport.blockLine)
        ∧ importBlock.findAll (ofLines closed (importBlockLines imports))
          = [b] :=
    findAll_block_eq_singleton closed
      (fun _ => reads_importBlock (by simp [StartsLine])) fun _ _ =>
      passesOver_feed.2
  obtain ⟨b, hbody, hblock⟩ := hblock
  have hpaths :
      (doubleQuoted.findAll (b.get .body)).map (fun m => (b.start, m.get .path))
        = imports.map fun i => (b.start, i.path) := by
    have hfound :=
      congrArg (List.map (Prod.mk b.start)) (findAll_doubleQuoted imports)
    rw [List.map_map, List.map_map] at hfound
    rw [hbody]
    exact hfound
  -- All paths are found at one place, so sorting by place keeps them as they
  -- are.
  rw [goSpecifiers, hsingle, hblock, List.map_nil, List.nil_append,
    List.flatMap_singleton, hpaths, inOrder_of_pairwise, List.map_map]
  · rfl
  · rw [List.pairwise_map]
    exact List.pairwise_of_forall_sublist fun _ => Nat.le_refl _
  · intro x hx
    obtain ⟨i, -, rfl⟩ := List.mem_map.mp hx
    exact i.nonempty

/-- The layout of imports does not matter: a line for each or one block for all
of them, the specifiers are the paths in their order, each at its first
occurrence. -/
theorem go_layout_does_not_matter (closed : Bool) (imports : List GoImport) :
    specifiers (ofLines closed (importLines imports)) .go
        = specifiers (ofLines closed (importBlockLines imports)) .go
      ∧ specifiers (ofLines closed (importBlockLines imports)) .go
        = (imports.map GoImport.path).eraseDups := by
  have hlines := goSpecifiers_importLines closed imports
  have hblock := goSpecifiers_importBlockLines closed imports
  exact ⟨hlines.trans hblock.symm, hblock⟩

/-- A path may look like the end of a block or like an import. -/
example : specifiers
  "import (\n\tz \"a)\"\n\t\"import (b\"\n\t. \"a)\"\n)\n".toList .go
  = ["a)".toList, "import (b".toList] := by
  decide +kernel

end SourceAtlas.Import
