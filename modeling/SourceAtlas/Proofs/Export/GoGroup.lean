/-
What a Go file exports if its declarations stand one by one, and if they stand
in a group. The lines of a group are searched for a capitalised name behind
the indentation.

In a group, all lines are indented alike, so the first word of every line
counts, whether it is declared or stands inside a definition
(`flatMap_groupItems`). The indentation of a name may start on blank lines
above it, which is why the induction over lines carries the blanks so far.

Grouping therefore adds the capitalised first words of inner lines.
-/
import SourceAtlas.Proofs.Export.GoMember

namespace SourceAtlas.Export

open Pattern
open Text (Blank ofLines closedLines isWord_of_isUpper isBlank_of_isUpper)

variable {behind : Option Char} {c : Char} {t u gap name tail rest : Text}

-- =============================================================== one group

/-- All declarations in one group, each of their lines with a tab in front. -/
def groupLines (kw : GoKeyword) (members : List GoMember) : List Text :=
  (kw.text ++ " (".toList) :: (members.flatMap GoMember.lines).map ('\t' :: ·)
    ++ [[')']]

/-- The line feed that a group opens with is the last one before anything that
is not blank. -/
theorem reads_feed (hrest : rest = gap ++ c :: tail) (hgap : Blank gap)
    (hfeed : '\n' ∉ gap) (hc : Text.isBlank c = false) :
    (blanks ++ only '\n').Reads behind ['\n'] rest [] := by
  have hreads : (only '\n').Reads behind ['\n'] rest [] :=
    reads_char (by decide)
  refine Reads.after_many (v := []) (by simp)
    (fun w s hws hne hw => misses_char fun d hd => ?_) hreads
  rw [beq_eq_false_iff_ne]
  rintro rfl
  obtain ⟨x, w, rfl⟩ := List.exists_cons_of_ne_nil hne
  obtain ⟨s, rfl⟩ := List.head?_eq_some_iff.mp hd
  have hafter : gap ++ c :: tail = w ++ '\n' :: s := by
    rw [← hrest]
    exact (List.cons_eq_cons.mp hws).2
  -- a second line feed would stand in the gap, or what is not blank in the run
  rcases List.append_eq_append_iff.mp hafter with ⟨k, rfl, hk⟩ | ⟨k, rfl, hk⟩
  · cases k with
    | nil =>
        rw [(List.cons_eq_cons.mp hk).1] at hc
        exact absurd hc (by decide)
    | cons d k =>
        have hd := hw d (by simp)
        rw [← (List.cons_eq_cons.mp hk).1, hc] at hd
        cases hd
  · cases k with
    | nil =>
        rw [← (List.cons_eq_cons.mp hk).1] at hc
        exact absurd hc (by decide)
    | cons d k =>
        refine hfeed ?_
        rw [(List.cons_eq_cons.mp hk).1]
        simp

/-- What stands in a group. -/
def groupBody (members : List GoMember) : Text :=
  closedLines ((members.flatMap GoMember.lines).map ('\t' :: ·))

/-- The first character in a group that is no blank stands on a line of its
own. -/
theorem exists_groupBody (members : List GoMember) (rest : Text) :
    ∃ gap c tail, groupBody members ++ [')'] ++ rest = gap ++ c :: tail
      ∧ Blank gap ∧ '\n' ∉ gap
      ∧ Text.isBlank c = false := by
  cases members with
  | nil => exact ⟨[], ')', rest, rfl, Text.blank_nil, by decide, by decide⟩
  | cons m members =>
      obtain ⟨c, name, hname, hc⟩ := m.exists_cons
      have hbody :
          ∃ tail, groupBody (m :: members) ++ [')'] ++ rest
            = ['\t'] ++ c :: tail := by
        rw [groupBody, List.flatMap_cons, GoMember.lines, hname]
        exact ⟨_, rfl⟩
      obtain ⟨tail, hbody⟩ := hbody
      exact ⟨['\t'], c, tail,
        hbody, by decide, by decide, Text.isBlank_of_isWord hc⟩

/-- The lines of a member are lines. -/
theorem GoMember.feed_not_mem (m : GoMember) :
    ∀ line ∈ m.lines, '\n' ∉ line := by
  have hname : '\n' ∉ m.name := fun hfeed => absurd (m.word _ hfeed) (by decide)
  exact List.forall_mem_cons.mpr ⟨List.not_mem_append hname m.oneLine,
    fun line hline => (m.indented line hline).1⟩

theorem feed_not_mem_lines {members : List GoMember} :
    ∀ line ∈ members.flatMap GoMember.lines, '\n' ∉ line := by
  intro line hline
  obtain ⟨m, -, hm⟩ := List.mem_flatMap.mp hline
  exact m.feed_not_mem line hm

/-- The second search reads a group to its end. -/
theorem reads_goGroup (kw : GoKeyword) (members : List GoMember)
    (hbehind : StartsLine behind) :
    goGroup.Reads behind (closedLines
      ((kw.text ++ " (".toList)
        :: (members.flatMap GoMember.lines).map ('\t' :: ·)) ++ [')']) rest
      [(.body, groupBody members)] := by
  obtain ⟨gap, c, tail, hbody, hgap, hfeed, hc⟩ := exists_groupBody members rest
  have hspace : ∀ c ∈ [' '], Text.isBlank c = true := by decide
  have hparen (t : Text) :
      ∀ c ∈ (['('] ++ t).head?, Text.isBlank c = false := by
    simpa using (by decide : Text.isBlank '(' = false)
  have hkeyword (t : Text) :
      (anchor .lineStart ++ goKeyword ++ blanks ++ lit ['(']).Reads behind
        ([] ++ kw.text ++ [' '] ++ ['(']) t [] := by
    have hword := (reads_anchor (startsLine_iff.mp hbehind)).append_left
      (kw.reads behind ([' '] ++ (['('] ++ t)))
    exact (hword.append_left (reads_many hspace (hparen t))).append_left
      (reads_lit _ ['('] t)
  have hopen :=
    ((hkeyword _).append_left (reads_feed hbody hgap hfeed hc)).assoc
  have htext :
      closedLines ((kw.text ++ " (".toList)
        :: (members.flatMap GoMember.lines).map ('\t' :: ·)) ++ [')']
        = [] ++ kw.text ++ [' '] ++ ['('] ++ ['\n']
          ++ (groupBody members ++ [')']) := by
    rw [Text.closedLines_cons, groupBody]
    simp only [List.nil_append, List.append_assoc]
    rfl
  rw [htext]
  refine reads_upToParen hopen ?_ ?_
  · intro line hline
    obtain ⟨line, hmem, rfl⟩ := List.mem_map.mp hline
    exact ⟨List.not_mem_cons_of_ne_of_not_mem (by decide)
      (feed_not_mem_lines line hmem), by simp⟩
  · intro _
    simp [StartsLine]

/-- The first one finds nothing in it. -/
theorem missesIn_groupLines (kw : GoKeyword) (members : List GoMember) :
    goDeclaration.MissesIn behind (closedLines
      ((kw.text ++ " (".toList)
        :: (members.flatMap GoMember.lines).map ('\t' :: ·))) rest := by
  have hkeyword : '\n' ∉ kw.text := by cases kw <;> decide
  have hspace : Blank [' '] := by decide
  apply lineBound_goDeclaration.missesIn_closedLines
  refine List.forall_mem_cons.mpr
    ⟨⟨List.not_mem_append hkeyword (by decide), fun behind rest => ?_⟩,
      fun line hline => ?_⟩
  · have hopen : " (".toList = [' '] ++ ['('] := by decide
    rw [hopen, List.append_assoc, List.append_assoc, List.singleton_append]
    exact kw.misses_goDeclaration hspace (by decide) (by decide)
  · obtain ⟨line, hmem, rfl⟩ := List.mem_map.mp hline
    refine ⟨List.not_mem_cons_of_ne_of_not_mem (by decide)
      (feed_not_mem_lines line hmem), ?_⟩
    exact fun behind rest => (misses_of_head (by simp [firstLetters])).1

-- ======================================================== lines of a group

/-- Members of a group are found at line starts only. -/
theorem lineBound_goGroupItem : LineBound goGroupItem :=
  ((lineBound_lineStart.append _).append _).append _

/-- The search in a group finds nothing where the next character that is not
blank is no capital letter. -/
theorem misses_goGroupItem
    (h : ∀ c ∈ (t.dropWhile Text.isBlank).head?, c.isUpper = false) :
    goGroupItem.Misses behind t := by
  refine misses_of_not_spans fun u rest hu hspans => ?_
  obtain ⟨-, edge, rfl,
    ⟨-, word, rfl, ⟨-, gap, rfl, ⟨rfl, -⟩, hgap⟩, letter, tail, rfl,
      ⟨c, rfl, hc⟩, -⟩, -⟩ := hspans
  obtain ⟨x, gap, rfl, hblank⟩ := spans_many1.mp hgap
  have hdrop : t.dropWhile Text.isBlank = c :: (tail ++ edge ++ rest) := by
    rw [hu]
    simp only [List.nil_append, List.append_assoc, List.cons_append]
    rw [← List.cons_append, List.dropWhile_append_of_pos hblank,
      List.dropWhile_cons_of_neg (by simp [isBlank_of_isUpper hc])]
  have hlower := h c (by rw [hdrop]; rfl)
  rw [hc] at hlower
  cases hlower

/-- No member is found in blanks before what is no capital. -/
theorem missesIn_goGroupItem (hgap : Blank gap)
    (h : ∀ c ∈ (rest.dropWhile Text.isBlank).head?, c.isUpper = false) :
    goGroupItem.MissesIn behind gap rest := by
  intro v x w hvw
  have hblank : Blank (x :: w) :=
    fun c hc => hgap c (by rw [hvw]; exact List.mem_append_right v hc)
  apply misses_goGroupItem
  rwa [List.dropWhile_append_of_pos hblank]

/-- A capitalised word at the start of an indented line is found. -/
theorem reads_goGroupItem (hbehind : StartsLine behind) (hgap : Blank gap)
    (hne : gap ≠ []) (hcapital : isCapitalized name = true)
    (hname : ∀ c ∈ name, Text.isWord c = true)
    (hrest : ∀ c ∈ rest.head?, Text.isWord c = false) :
    goGroupItem.Reads behind (gap ++ name) rest [(.name, name)] := by
  obtain ⟨c, word, rfl⟩ : ∃ c word, name = c :: word := by
    cases name with
    | nil => cases hcapital
    | cons c word => exact ⟨c, word, rfl⟩
  have hnext : ∀ d ∈ (c :: word ++ rest).head?, Text.isBlank d = false := by
    simpa using Text.isBlank_of_isWord (hname c List.mem_cons_self)
  have hlast : Text.isWord ((c :: word).getLast (List.cons_ne_nil c word))
      = true :=
    hname _ (List.getLast_mem _)
  have hnone : rest.head?.any Text.isWord = false := by
    cases rest with
    | nil => rfl
    | cons d rest => exact hrest d rfl
  -- The word has been read whole, so an edge follows it.
  have hedge :
      wordEdge.Reads ((gap ++ c :: word).getLast?.or behind) [] rest [] := by
    refine reads_anchor ?_
    show (((gap ++ c :: word).getLast?.or behind).any Text.isWord
      != rest.head?.any Text.isWord) = true
    rw [List.getLast?_append_of_ne_nil _ (List.cons_ne_nil c word),
      List.getLast?_eq_some_getLast (List.cons_ne_nil c word), hnone]
    simpa using hlast
  have hgapped :
      (anchor .lineStart ++ blanks1).Reads behind ([] ++ gap)
        (c :: word ++ rest) [] :=
    (reads_anchor (startsLine_iff.mp hbehind)).append_left
      (reads_many1 hne hgap hnext)
  have hall :=
    (hgapped.append_right (reads_capitalized hcapital hname hrest)).append_left
      hedge
  rw [List.append_nil] at hall
  exact hall

/-- Only the first character of a word matters. -/
theorem isCapitalized_takeWhile (c : Char) (tail : Text) :
    isCapitalized ((c :: tail).takeWhile Text.isWord) = c.isUpper := by
  cases hupper : c.isUpper with
  | true =>
      rw [List.takeWhile_cons_of_pos (isWord_of_isUpper hupper)]
      exact hupper
  | false =>
      by_cases hword : Text.isWord c = true
      · rw [List.takeWhile_cons_of_pos hword]
        exact hupper
      · rw [List.takeWhile_cons_of_neg hword]
        rfl

/-- A capitalised first word is found on its line, and nothing behind it. -/
theorem yields_capitalized {after : Text} (hbehind : StartsLine behind)
    (hgap : Blank gap) (hne : gap ≠ []) (hcapital : isCapitalized name = true)
    (hname : ∀ c ∈ name, Text.isWord c = true)
    (hafter : ∀ c ∈ after.head?, Text.isWord c = false) (hfeed : '\n' ∉ after) :
    goGroupItem.Yields (fun m => [m.get .name]) behind
      (gap ++ name ++ (after ++ ['\n'])) rest fun _ => [name] := by
  have hend : ∀ c ∈ (after ++ ['\n'] ++ rest).head?, Text.isWord c = false := by
    cases after with
    | nil => simpa using (by decide : Text.isWord '\n' = false)
    | cons c after => exact hafter
  have hfirst :
      goGroupItem.Yields (fun m => [m.get .name]) behind (gap ++ name)
        (after ++ ['\n'] ++ rest) fun _ => [name] := by
    have hread := reads_goGroupItem hbehind hgap hne hcapital hname hend
    refine hread.yields (by simp [hne]) fun m hparts => ?_
    rw [hparts]
    rfl
  -- no line starts behind the word
  have hnone : name ≠ [] := by
    rintro rfl
    cases hcapital
  have hstart :
      ¬ StartsLine ((gap ++ name).getLast?.or behind) := by
    rw [List.getLast?_append_of_ne_nil _ hnone]
    exact not_startsLine_of_mem hnone fun h => absurd (hname _ h) (by decide)
  have hover :
      goGroupItem.PassesOver ((gap ++ name).getLast?.or behind)
        (after ++ ['\n']) rest := by
    refine passesOver_of_misses
      (lineBound_goGroupItem.missesIn ?_ fun h => absurd h hstart)
    rwa [List.dropLast_concat]
  exact hfirst.append (hover.yields _)

/-- A line whose first word is not capitalised is passed over. -/
theorem passesOver_uncapitalized (hgap : Blank gap)
    (hc : Text.isBlank c = false) (hupper : c.isUpper = false)
    (hfeed : '\n' ∉ c :: tail) :
    goGroupItem.PassesOver behind (gap ++ (c :: tail ++ ['\n'])) rest := by
  have hlower (t : Text) :
      ∀ d ∈ ((c :: t).dropWhile Text.isBlank).head?, d.isUpper = false := by
    rw [List.dropWhile_cons_of_neg (by simp [hc])]
    simpa using hupper
  refine passesOver_of_misses ((missesIn_goGroupItem hgap (hlower _)).append
    (lineBound_goGroupItem.missesIn ?_ fun _ => misses_goGroupItem (hlower _)))
  rwa [List.dropLast_concat]

/-- The first word of a line is found if it is capitalised, with the blanks in
front of it wherever they start. -/
theorem yields_line {ind : Text} (hgap : Blank gap)
    (hbehind : StartsLine behind) (hind : Blank ind)
    (hc : Text.isBlank c = false) (hfeed : '\n' ∉ c :: tail) :
    goGroupItem.Yields (fun m => [m.get .name]) behind
      (gap ++ ('\t' :: (ind ++ c :: tail) ++ ['\n'])) rest
      fun _ => [(c :: tail).takeWhile Text.isWord].filter isCapitalized := by
  have hfront : Blank (gap ++ '\t' :: ind) :=
    List.forall_mem_append.mpr
      ⟨hgap, List.forall_mem_cons.mpr ⟨by decide, hind⟩⟩
  have htext : gap ++ ('\t' :: (ind ++ c :: tail) ++ ['\n'])
      = (gap ++ '\t' :: ind) ++ (c :: tail ++ ['\n']) := by simp
  have hword := isCapitalized_takeWhile c tail
  rw [htext]
  -- A match takes the blanks and the word and leaves the rest of the line to be
  -- passed over; without a capital there is no match in the line.
  cases hupper : c.isUpper with
  | true =>
      rw [hupper] at hword
      have hsplit :=
        List.takeWhile_append_dropWhile (p := Text.isWord) (l := c :: tail)
      have hafter :
          ∀ d ∈ ((c :: tail).dropWhile Text.isWord).head?,
            Text.isWord d = false := by
        intro d hd
        have hhead := List.head?_dropWhile_not Text.isWord (c :: tail)
        rw [Option.mem_def.mp hd] at hhead
        simpa using hhead
      have hyields : goGroupItem.Yields _ behind _ rest _ :=
        yields_capitalized hbehind hfront (by simp) hword
          (fun d hd => List.mem_takeWhile_imp hd) hafter
          fun h => hfeed (hsplit ▸ List.mem_append_right _ h)
      rw [List.append_assoc, ← List.append_assoc _ _ ['\n'], hsplit] at hyields
      rw [List.filter_cons_of_pos hword]
      exact hyields
  | false =>
      rw [hupper] at hword
      rw [List.filter_cons_of_neg (by simp [hword])]
      exact (passesOver_uncapitalized hfront hc hupper hfeed).yields _

/-- The first words of the lines of a group are found if they are capitalised.
The induction carries the blank lines so far, which belong to the next name. -/
theorem flatMap_groupItems {lines : List Text}
    (hlines : ∀ line ∈ lines, '\n' ∉ line) (hgap : Blank gap)
    (hbehind : StartsLine behind) (offset : Nat) :
    (goGroupItem.findAllFrom 0 behind offset
      (gap ++ closedLines (lines.map ('\t' :: ·)))).flatMap
      (fun m => [m.get .name])
        = (lines.map leadingWord).filter isCapitalized := by
  induction lines generalizing gap behind offset with
  | nil =>
      have hall : goGroupItem.PassesOver behind gap [] :=
        passesOver_of_misses (missesIn_goGroupItem hgap (by simp))
      rw [List.map_nil, closedLines, List.flatMap_nil, hall]
      rfl
  | cons line lines ih =>
      obtain ⟨hline, hothers⟩ := List.forall_mem_cons.mp hlines
      have htext : gap ++ closedLines ((line :: lines).map ('\t' :: ·))
          = (gap ++ ('\t' :: line ++ ['\n']))
            ++ closedLines (lines.map ('\t' :: ·)) := by
        simp [closedLines]
      rw [htext]
      -- A blank line goes to the blanks so far; any other yields its first
      -- word, and the search goes on behind its line end.
      rcases line_cases line with ⟨hblank, hword⟩
        | ⟨ind, c, tail, rfl, hind, hc, hword⟩
      · have hfront : Blank (gap ++ ('\t' :: line ++ ['\n'])) := by
          have hends : Blank ['\t'] ∧ Blank ['\n'] := by decide
          have hwhole : Blank (['\t'] ++ line ++ ['\n']) :=
            List.forall_mem_append.mpr
              ⟨List.forall_mem_append.mpr ⟨hends.1, hblank⟩, hends.2⟩
          exact List.forall_mem_append.mpr ⟨hgap, hwhole⟩
        rw [ih hothers hfront hbehind, List.map_cons, hword]
        rfl
      · have htail : '\n' ∉ c :: tail :=
          fun h => hline (List.mem_append_right ind h)
        have hfirst :
            goGroupItem.Yields _ behind
              (gap ++ ('\t' :: (ind ++ c :: tail) ++ ['\n']))
              (closedLines (lines.map ('\t' :: ·))) _ :=
          yields_line hgap hbehind hind hc htail
        have hlast :
            (gap ++ ('\t' :: (ind ++ c :: tail) ++ ['\n'])).getLast?.or behind
              = some '\n' := by
          rw [← List.append_assoc, List.getLast?_concat]
          rfl
        have hrest :=
          ih hothers Text.blank_nil
            (by simp [StartsLine] : StartsLine (some '\n'))
            (offset + (gap ++ ('\t' :: (ind ++ c :: tail) ++ ['\n'])).length)
        rw [List.nil_append] at hrest
        rw [hfirst, hlast, hrest, ← List.filter_append, List.map_cons, hword]
        rfl

-- ================================================================= symbols

/-- The capitalised names. -/
def capitals (words : List Text) : List Text := words.filter isCapitalized

theorem passesOver_feed (behind : Option Char) (rest : Text) :
    goDeclaration.PassesOver behind ['\n'] rest
      ∧ goGroup.PassesOver behind ['\n'] rest := by
  have hmisses : goDeclaration.Misses behind ('\n' :: rest)
      ∧ goGroup.Misses behind ('\n' :: rest) :=
    misses_of_head (by simp [firstLetters])
  exact ⟨hmisses.1.passesOver, hmisses.2.passesOver⟩

/-- Of members declared alone the capitalised names are found. -/
theorem goSymbols_alone (closed : Bool) (kw : GoKeyword)
    (members : List GoMember) :
    goSymbols (ofLines closed (members.map (GoMember.alone kw)))
      = Ordered.ofList (capitals (members.map GoMember.name)) := by
  have halone :
      (goDeclaration.findAll
        (ofLines closed (members.map (GoMember.alone kw)))).map (·.get .name)
        = capitals (members.map GoMember.name) := by
    have hnames : capitals (members.map GoMember.name)
        = members.flatMap fun m => [m.name].filter isCapitalized := by
      rw [capitals, List.map_eq_flatMap, List.filter_flatMap]
    rw [hnames, List.map_eq_flatMap]
    refine (flatMap_findAll_lines closed
      (fun m _ _ _ hbehind hrest => m.yields_alone kw hbehind hrest)
      fun behind rest => (passesOver_feed behind rest).1).trans ?_
    exact flatMap_placed (fun m : GoMember => [m.name].filter isCapitalized) 0
  have hgrouped :
      (goGroup.findAll (ofLines closed
        (members.map (GoMember.alone kw)))).flatMap
        (fun m => (goGroupItem.findAll (m.get .body)).map (·.get .name))
        = [] := by
    refine (flatMap_findAll_lines closed
      (fun m _ _ _ _ hrest => (m.passesOver_alone kw hrest).yields _)
      fun behind rest => (passesOver_feed behind rest).2).trans ?_
    exact List.flatMap_eq_nil_iff.mpr fun _ _ => rfl
  show Ordered.ofList (_ ++ _) = _
  rw [halone, hgrouped, List.append_nil]

/-- Of a group the capitalised first words of all its lines are found. -/
theorem goSymbols_grouped (closed : Bool) (kw : GoKeyword)
    (members : List GoMember) :
    goSymbols (ofLines closed (groupLines kw members))
      = Ordered.ofList (capitals
        ((members.flatMap GoMember.lines).map leadingWord)) := by
  have halone : goDeclaration.findAll (ofLines closed (groupLines kw members))
      = [] :=
    findAll_block_eq_nil closed (fun _ => missesIn_groupLines kw members)
      (fun _ _ => (misses_of_head (by simp [firstLetters])).1)
      fun behind rest => (passesOver_feed behind rest).1
  have hgroup : ∃ m : Match, m.get .body = groupBody members
      ∧ goGroup.findAll (ofLines closed (groupLines kw members)) = [m] :=
    findAll_block_eq_singleton closed
      (fun _ => reads_goGroup kw members (by simp [StartsLine]))
      fun behind rest => (passesOver_feed behind rest).2
  obtain ⟨m, hbody, hgroup⟩ := hgroup
  have hitems : (goGroupItem.findAll (m.get .body)).map (·.get .name)
      = capitals ((members.flatMap GoMember.lines).map leadingWord) := by
    rw [hbody, List.map_eq_flatMap]
    exact flatMap_groupItems feed_not_mem_lines Text.blank_nil
      (by simp [StartsLine]) 0
  show Ordered.ofList (_ ++ _) = _
  rw [halone, hgroup, List.map_nil, List.nil_append,
    List.flatMap_singleton, hitems]

/-- The capitalised words that lines inside a definition start with. -/
def GoMember.innerCapitals (m : GoMember) : List Text :=
  capitals (m.inner.map leadingWord)

/-- The first words of a group are the names of its members and the first words
of their inner lines. -/
theorem mem_capitals_lines {members : List GoMember} {word : Text} :
    word ∈ capitals ((members.flatMap GoMember.lines).map leadingWord)
      ↔ word ∈ capitals (members.map GoMember.name)
        ++ members.flatMap GoMember.innerCapitals := by
  have hlines (m : GoMember) : m.lines.map leadingWord
      = m.name :: m.inner.map leadingWord := by
    rw [GoMember.lines, List.map_cons, m.leadingWord_name]
  have hmem : word ∈ (members.flatMap GoMember.lines).map leadingWord
      ↔ ∃ m ∈ members, word = m.name ∨ word ∈ m.inner.map leadingWord := by
    rw [List.map_flatMap, List.mem_flatMap]
    simp only [hlines, List.mem_cons]
  rw [capitals, List.mem_filter, hmem, List.mem_append, capitals,
    List.mem_filter, List.mem_map, List.mem_flatMap]
  constructor
  · rintro ⟨⟨m, hm, rfl | hinner⟩, hcapital⟩
    · exact .inl ⟨⟨m, hm, rfl⟩, hcapital⟩
    · exact .inr ⟨m, hm, List.mem_filter.mpr ⟨hinner, hcapital⟩⟩
  · rintro (⟨⟨m, hm, rfl⟩, hcapital⟩ | ⟨m, hm, hinner⟩)
    · exact ⟨⟨m, hm, .inl rfl⟩, hcapital⟩
    · obtain ⟨hinner, hcapital⟩ := List.mem_filter.mp hinner
      exact ⟨⟨m, hm, .inr hinner⟩, hcapital⟩

/-- Grouping declarations adds the capitalised first words inside definitions:
one by one, the capitalised names are reported; in a group, fields and keys at
the start of a line are reported as well, and so the two agree exactly if each
of these is declared, too. -/
theorem go_grouping_adds_inner_words (closed : Bool) (kw : GoKeyword)
    (members : List GoMember) :
    symbols (ofLines closed (members.map (GoMember.alone kw))) .go
        = Ordered.ofList (capitals (members.map GoMember.name))
      ∧ symbols (ofLines closed (groupLines kw members)) .go
        = Ordered.ofList
          (capitals (members.map GoMember.name)
            ++ members.flatMap GoMember.innerCapitals)
      ∧ (symbols (ofLines closed (members.map (GoMember.alone kw))) .go
          = symbols (ofLines closed (groupLines kw members)) .go
        ↔ ∀ m ∈ members, ∀ word ∈ m.innerCapitals,
          word ∈ members.map GoMember.name) := by
  have halone := goSymbols_alone closed kw members
  have hgrouped : goSymbols (ofLines closed (groupLines kw members))
      = Ordered.ofList (capitals (members.map GoMember.name)
        ++ members.flatMap GoMember.innerCapitals) := by
    rw [goSymbols_grouped]
    refine Ordered.eq_of_mem_iff (Ordered.pairwise_ofList _)
      (Ordered.pairwise_ofList _) fun x => ?_
    rw [Ordered.mem_ofList, Ordered.mem_ofList, mem_capitals_lines]
  refine ⟨halone, hgrouped, ?_⟩
  show goSymbols _ = goSymbols _ ↔ _
  rw [halone, hgrouped]
  constructor
  · intro hsame m hm word hword
    have hmem :
        word ∈ Ordered.ofList (capitals (members.map GoMember.name)) := by
      rw [hsame, Ordered.mem_ofList]
      exact List.mem_append_right _ (List.mem_flatMap.mpr ⟨m, hm, hword⟩)
    exact (List.mem_filter.mp (Ordered.mem_ofList.mp hmem)).1
  · intro hdeclared
    refine Ordered.eq_of_mem_iff (Ordered.pairwise_ofList _)
      (Ordered.pairwise_ofList _) fun x => ?_
    rw [Ordered.mem_ofList, Ordered.mem_ofList]
    refine ⟨List.mem_append_left _, fun hx => ?_⟩
    rcases List.mem_append.mp hx with hx | hx
    · exact hx
    · obtain ⟨m, hm, hword⟩ := List.mem_flatMap.mp hx
      exact List.mem_filter.mpr
        ⟨hdeclared m hm x hword, (List.mem_filter.mp hword).2⟩

/-- A type with one exported field. -/
def userType : GoMember where
  name := "User".toList
  nonempty := by decide
  word := by decide
  opening := " struct \x7b".toList
  oneLine := by decide
  apart := by
    intro c hc
    rw [← Option.some.inj hc]
    decide
  inner := ["\tName string".toList, "\x7d".toList]
  indented := by
    refine List.forall_mem_cons.mpr ⟨⟨by decide, fun c hc => .inl ?_⟩,
      List.forall_mem_singleton.mpr ⟨by decide, fun c hc => .inr ?_⟩⟩
    · rw [← Option.some.inj hc]
      decide
    · rw [← Option.some.inj hc]
      decide

/-- A field is no member of the package, yet it is reported if its type is
declared in a group. -/
theorem go_grouping_reports_field :
    ofLines true [userType.alone .type]
      = "type User struct \x7b\n\tName string\n\x7d\n".toList
      ∧ symbols "type User struct \x7b\n\tName string\n\x7d\n".toList .go
        = ["User".toList]
      ∧ ofLines true (groupLines .type [userType])
        = "type (\n\tUser struct \x7b\n\t\tName string\n\t\x7d\n)\n".toList
      ∧ symbols
        "type (\n\tUser struct \x7b\n\t\tName string\n\t\x7d\n)\n".toList .go
        = ["Name".toList, "User".toList] := by
  decide +kernel

end SourceAtlas.Export
