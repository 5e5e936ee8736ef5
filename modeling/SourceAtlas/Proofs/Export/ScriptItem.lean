/-
The items of an export list in a script, and what may stand between them. A
list is cut at its commas before its comments are dropped, so a piece is an
item with blanks and comments around it as long as no comment holds a comma.

- Dropping the comments of a gap leaves blanks (`ScriptGap.becomes`): a line
  comment goes up to the end of its line, and a block comment up to its first
  closing sign.
- What is left of a piece is its item, which names what stands before `as`
  (`ExportItem.listedName?_text`).

Consumed by the theory of export lists.
-/
import SourceAtlas.Export
import SourceAtlas.Proofs.Pattern.Lines

namespace SourceAtlas.Export

open Pattern
open Text (Blank Tight Opens Closes blank_nil)

-- =================================================================== items

/-- An identifier, by its first character and the further ones. -/
structure ScriptIdentifier where
  first : Char
  more : Text
  start : isScriptNameStart first = true
  chars : ∀ c ∈ more, isScriptName c = true

/-- How the identifier is written. -/
def ScriptIdentifier.text (i : ScriptIdentifier) : Text := i.first :: i.more

/-- One item of an export list: a name, with the name that it goes by if that is
another one. -/
structure ExportItem where
  typeOnly : Bool
  name : ScriptIdentifier
  newName : Option ScriptIdentifier
  free : name.text ≠ "type".toList

namespace ExportItem

/-- What stands before the name. -/
def marker (i : ExportItem) : Text := if i.typeOnly then "type ".toList else []

/-- What stands behind the name. -/
def ending (i : ExportItem) : Text :=
  match i.newName with
  | none => []
  | some newName => " as ".toList ++ newName.text

/-- How the item is written. -/
def text (i : ExportItem) : Text := i.marker ++ (i.name.text ++ i.ending)

end ExportItem

-- ==================================================================== gaps

/-- Blanks and comments with bodies that are allowed. -/
inductive ScriptGap (allowed : Text → Prop) : Text → Prop where
  | nil : ScriptGap allowed []
  | blank {c : Char} {t : Text} (hc : Text.isBlank c = true)
      (h : ScriptGap allowed t) : ScriptGap allowed (c :: t)
  | line {body t : Text} (hbody : '\n' ∉ body) (hallowed : allowed body)
      (h : ScriptGap allowed t) :
      ScriptGap allowed ("//".toList ++ body ++ ('\n' :: t))
  | block {body t : Text} (hbody : ¬ "*/".toList <:+: body)
      (hallowed : allowed body) (h : ScriptGap allowed t) :
      ScriptGap allowed ("/*".toList ++ body ++ ("*/".toList ++ t))

variable {behind : Option Char} {c : Char} {t body before after rest : Text}
  {allowed : Text → Prop}

-- ============================================================== characters

/-- A first character may be a further one. -/
theorem isScriptName_of_start (h : isScriptNameStart c = true) :
    isScriptName c = true := by
  rcases Bool.or_eq_true_iff.mp h with h | h
  · rcases Bool.or_eq_true_iff.mp h with h | h
    · rw [isScriptName, Text.isWord_of_isAlpha h]
      rfl
    · rw [beq_iff_eq.mp h]
      decide
  · rw [beq_iff_eq.mp h]
    decide

/-- No blank is part of an identifier. -/
theorem isBlank_of_isScriptName (h : isScriptName c = true) :
    Text.isBlank c = false := by
  rcases Bool.or_eq_true_iff.mp h with h | h
  · exact Text.isBlank_of_isWord h
  · rw [beq_iff_eq.mp h]
    decide

/-- An identifier is made of its characters only. -/
theorem ScriptIdentifier.isScriptName (i : ScriptIdentifier) :
    ∀ c ∈ i.text, isScriptName c = true :=
  List.forall_mem_cons.mpr ⟨isScriptName_of_start i.start, i.chars⟩

/-- There are no blanks in an identifier. -/
theorem ScriptIdentifier.tight (i : ScriptIdentifier) : Tight i.text :=
  fun c hc => isBlank_of_isScriptName (i.isScriptName c hc)

theorem ScriptIdentifier.text_ne_nil (i : ScriptIdentifier) : i.text ≠ [] :=
  List.cons_ne_nil i.first i.more

namespace ExportItem

/-- What stands in an item: its names, and the spaces between them. -/
theorem chars (i : ExportItem) :
    ∀ c ∈ i.text, isScriptName c = true ∨ c = ' ' := by
  have hwords : ∀ c ∈ "type ".toList ++ " as ".toList,
      isScriptName c = true ∨ c = ' ' := by decide
  have hname (n : ScriptIdentifier) :
      ∀ c ∈ n.text, isScriptName c = true ∨ c = ' ' :=
    fun c hc => .inl (n.isScriptName c hc)
  refine List.forall_mem_append.mpr
    ⟨?_, List.forall_mem_append.mpr ⟨hname i.name, ?_⟩⟩
  · unfold marker
    cases i.typeOnly with
    | false => simp
    | true => exact fun c hc => hwords c (List.mem_append_left _ hc)
  · unfold ending
    cases i.newName with
    | none => simp
    | some n =>
        exact List.forall_mem_append.mpr
          ⟨fun c hc => hwords c (List.mem_append_right _ hc), hname n⟩

/-- An item is made of identifiers and spaces. -/
theorem not_mem (i : ExportItem) (hname : Export.isScriptName c = false)
    (hspace : c ≠ ' ') : c ∉ i.text := by
  intro hc
  rcases i.chars c hc with hc | hc
  · rw [hname] at hc
    cases hc
  · exact hspace hc

/-- The item without its marker starts and ends with a name. -/
theorem opens_closes (i : ExportItem) :
    Opens (i.name.text ++ i.ending) ∧ Closes (i.name.text ++ i.ending) := by
  refine ⟨(i.name.tight.opens i.name.text_ne_nil).append _, ?_⟩
  unfold ending
  cases i.newName with
  | none =>
      rw [List.append_nil]
      exact i.name.tight.closes i.name.text_ne_nil
  | some n => exact ((n.tight.closes n.text_ne_nil).append _).append _

/-- An item does not start with a blank. -/
theorem opens (i : ExportItem) : Opens i.text := by
  unfold text marker
  cases i.typeOnly with
  | true => exact ⟨'t', _, rfl, by decide⟩
  | false => exact i.opens_closes.1

/-- Behind its name an item has a blank or nothing. -/
theorem head?_ending (i : ExportItem) :
    ∀ c ∈ i.ending.head?, Text.isBlank c = true := by
  unfold ending
  cases i.newName with
  | none => simp
  | some n => simpa using (by decide : Text.isBlank ' ' = true)

/-- A name is not taken for the marker. -/
theorem not_marker (i : ExportItem) :
    ¬ "type ".toList <+: i.name.text ++ i.ending := by
  have hspace (n : ScriptIdentifier) : ∀ c ∈ n.text, ¬ c = ' ' := by
    rintro c hc rfl
    exact absurd (n.isScriptName ' ' hc) (by decide)
  have htype : ∀ c ∈ "type".toList, ¬ c = ' ' := by decide
  rintro ⟨s, hs⟩
  have hs' : "type".toList ++ ' ' :: s = i.name.text ++ i.ending := hs
  unfold ending at hs'
  cases hnew : i.newName with
  | none =>
      rw [hnew, List.append_nil] at hs'
      exact hspace i.name ' ' (by rw [← hs']; simp) rfl
  | some n =>
      rw [hnew] at hs'
      have hname := (Text.eq_of_append_cons htype (hspace i.name) rfl rfl hs').1
      exact i.free hname.symm

end ExportItem

theorem scriptGap_of_blank (h : Blank t) : ScriptGap allowed t := by
  induction t with
  | nil => exact .nil
  | cons c t ih =>
      obtain ⟨hc, ht⟩ := List.forall_mem_cons.mp h
      exact .blank hc (ih ht)

/-- What stands in no comment does not stand in a gap, blanks and the signs of
comments apart. -/
theorem ScriptGap.not_mem (h : ScriptGap allowed t)
    (hblank : Text.isBlank c = false) (hsigns : c ∉ ['/', '*'])
    (hbodies : ∀ body, allowed body → c ∉ body) : c ∉ t := by
  have hfeed : c ≠ '\n' := by
    rintro rfl
    exact absurd hblank (by decide)
  simp only [List.mem_cons, List.not_mem_nil, or_false, not_or] at hsigns
  induction h with
  | nil => exact List.not_mem_nil
  | blank hd _ ih =>
      refine List.not_mem_cons_of_ne_of_not_mem ?_ ih
      rintro rfl
      rw [hd] at hblank
      cases hblank
  | @line body t _ hallowed _ ih =>
      simp [hsigns, hfeed, hbodies body hallowed, ih]
  | @block body t _ hallowed _ ih => simp [hsigns, hbodies body hallowed, ih]

-- ================================================================ comments

theorem misses_scriptComment (hc : c ≠ '/') :
    scriptComment.Misses behind (c :: rest) := by
  have hsign {d : Char} : ¬ ['/', d] <+: c :: rest := by
    rw [List.cons_prefix_cons]
    exact fun h => hc h.1.symm
  exact (misses_lit hsign).append.append.alt (misses_lit hsign).append

/-- A text without a slash is kept. -/
theorem becomes_scriptComment_self (h : '/' ∉ t) :
    scriptComment.Becomes (fun _ => []) behind t rest t :=
  becomes_self fun _ hc _ _ =>
    misses_scriptComment fun hslash => h (hslash ▸ hc)

/-- A line comment is dropped up to the end of its line. -/
theorem becomes_lineComment (h : '\n' ∉ body) :
    scriptComment.Becomes (fun _ => []) behind ("//".toList ++ body)
      ('\n' :: rest) [] := by
  have hbody : ∀ x ∈ body, inLine x = true :=
      fun x hx => bne_iff_ne.mpr fun hx' => h (hx' ▸ hx)
  have hend : ∀ x ∈ ('\n' :: rest).head?, inLine x = false := by simp [inLine]
  have hline :
      (lit "//" ++ many inLine).Reads behind ("//".toList ++ body)
        ('\n' :: rest) [] :=
    (reads_lit behind "//".toList _).append_left (reads_many hbody hend)
  have hblock :
      (lit "/*").Misses behind ("//".toList ++ body ++ '\n' :: rest) :=
    misses_lit (by simp)
  exact (hblock.append.append.alt_reads hline).becomes (by simp) fun _ => rfl

/-- A block comment goes up to its first closing sign. -/
theorem becomes_blockComment (h : ¬ "*/".toList <:+: body) :
    scriptComment.Becomes (fun _ => []) behind
      ("/*".toList ++ body ++ "*/".toList) rest [] := by
  have hearly (behind : Option Char) :
      (lit "*/").MissesIn behind body ("*/".toList ++ rest) := by
    intro v x w hvw
    refine misses_lit fun hsign => ?_
    have hsign' : ['*', '/'] <+: x :: (w ++ '*' :: '/' :: rest) := hsign
    obtain ⟨rfl, hslash⟩ := List.cons_prefix_cons.mp hsign'
    -- a closing sign that starts in the body ends in it, since a star follows
    -- it
    cases w with
    | nil => simp at hslash
    | cons y w =>
        obtain ⟨rfl, -⟩ := List.cons_prefix_cons.mp hslash
        exact h ⟨v, w, by rw [hvw]; simp⟩
  have hend (behind : Option Char) :
      (run (fun _ => true) .least ++ lit "*/").Reads behind
        (body ++ "*/".toList) rest [] :=
    Reads.after_least (fun _ _ => rfl) (hearly behind) (reads_lit _ _ rest)
  have hall := ((reads_lit behind "/*".toList _).append_left (hend _)).assoc
  rw [← List.append_assoc] at hall
  exact hall.alt.becomes (by simp) fun _ => rfl

/-- Without its comments a gap is blank. -/
theorem ScriptGap.becomes (h : ScriptGap allowed t) :
    ∃ t', Blank t' ∧ ∀ behind rest,
      scriptComment.Becomes (fun _ => []) behind t rest t' := by
  induction h with
  | nil =>
      exact ⟨[], blank_nil, fun _ _ => becomes_scriptComment_self (by simp)⟩
  | @blank c t hc _ ih =>
      obtain ⟨t', ht', hbecomes⟩ := ih
      have hblank : Blank [c] := by simpa [Blank] using hc
      refine ⟨[c] ++ t', List.forall_mem_append.mpr ⟨hblank, ht'⟩,
        fun behind rest => ?_⟩
      have hfirst :
          scriptComment.Becomes (fun _ => []) behind [c] (t ++ rest) [c] :=
        becomes_scriptComment_self (Text.not_mem_of_blank hblank (by decide))
      exact hfirst.append (hbecomes _ rest)
  | @line body t hbody _ _ ih =>
      obtain ⟨t', ht', hbecomes⟩ := ih
      have hfeed : Blank ['\n'] := by decide
      refine ⟨['\n'] ++ t', List.forall_mem_append.mpr ⟨hfeed, ht'⟩,
        fun behind rest => ?_⟩
      have hcomment :
          scriptComment.Becomes (fun _ => []) behind ("//".toList ++ body)
            ('\n' :: t ++ rest) [] := becomes_lineComment hbody
      -- The line end is not part of the comment and stays.
      have hend (behind : Option Char) :
          scriptComment.Becomes (fun _ => []) behind ['\n']
            (t ++ rest) ['\n'] :=
        becomes_scriptComment_self (by decide)
      exact hcomment.append ((hend _).append (hbecomes _ rest))
  | @block body t hbody _ _ ih =>
      obtain ⟨t', ht', hbecomes⟩ := ih
      refine ⟨t', ht', fun behind rest => ?_⟩
      have hcomment :
          scriptComment.Becomes (fun _ => []) behind
            ("/*".toList ++ body ++ "*/".toList) (t ++ rest) [] :=
        becomes_blockComment hbody
      rw [← List.append_assoc]
      exact hcomment.append (hbecomes _ rest)

-- =================================================================== names

/-- An identifier is matched as a whole. -/
theorem ScriptIdentifier.isSome_matchWhole (i : ScriptIdentifier) :
    (scriptIdentifier.matchWhole i.text).isSome = true := by
  have hfirst :
      (char isScriptNameStart).Reads none [i.first] (i.more ++ []) [] :=
    reads_char i.start
  have hall : scriptIdentifier.Reads none i.text [] [(.name, i.text)] :=
    (hfirst.append_left (reads_many i.chars (by simp))).group
  exact isSome_matchWhole_of_reads hall

/-- The name of an item, unless it is the one that is left out. -/
def ExportItem.listed? (i : ExportItem) : Option Text :=
  if i.name.text = "default".toList then none else some i.name.text

/-- The names of the items but the one that is left out. -/
def exportedNames (items : List ExportItem) : List Text :=
  (items.map fun i => i.name.text).filter (· ≠ "default".toList)

/-- The names of a list are those of its items. -/
theorem filterMap_listed? (items : List ExportItem) :
    items.filterMap ExportItem.listed? = exportedNames items := by
  induction items with
  | nil => rfl
  | cons i items ih =>
      by_cases hdefault : i.name.text = "default".toList
      · have hnone : i.listed? = none := if_pos hdefault
        have hout : ¬ decide (i.name.text ≠ "default".toList) = true :=
          fun h => absurd hdefault (of_decide_eq_true h)
        rw [List.filterMap_cons_none hnone, ih, exportedNames, exportedNames,
          List.map_cons, List.filter_cons, if_neg hout]
      · have hsome : i.listed? = some i.name.text := if_neg hdefault
        rw [List.filterMap_cons_some hsome, ih, exportedNames, exportedNames,
          List.map_cons, List.filter_cons, if_pos (decide_eq_true hdefault)]

/-- A piece with one item names it. -/
theorem ExportItem.listedName?_text (i : ExportItem)
    (hbefore : ScriptGap allowed before) (hafter : ScriptGap allowed after) :
    listedName? (before ++ i.text ++ after) = i.listed? := by
  obtain ⟨before', hblank, hfirst⟩ := hbefore.becomes
  obtain ⟨after', hblank', hlast⟩ := hafter.becomes
  obtain ⟨hopens, hcloses⟩ := i.opens_closes
  have hbare :
      scriptComment.replaceAll (fun _ => []) (before ++ i.text ++ after)
        = before' ++ i.text ++ after' := by
    have hitem (behind : Option Char) (rest : Text) :
        scriptComment.Becomes (fun _ => []) behind i.text rest i.text :=
      becomes_scriptComment_self (i.not_mem (by decide) (by decide))
    exact replaceAll_of_becomes
      (((hfirst _ _).append (hitem _ _)).append (hlast _ _))
  -- A name that is not marked cannot look as if it were.
  have hunmarked :
    (if "type ".toList.isPrefixOf (Text.trim (before' ++ i.text ++ after'))
      then Text.trim ((Text.trim (before' ++ i.text ++ after')).drop 5)
      else Text.trim (before' ++ i.text ++ after'))
        = i.name.text ++ i.ending := by
    have htrim : Text.trim (before' ++ i.text ++ after') = i.text :=
      Text.trim_append hblank i.opens (hcloses.append i.marker) hblank'
    have hself : Text.trim (i.name.text ++ i.ending)
        = i.name.text ++ i.ending := by
      simpa using Text.trim_append blank_nil hopens hcloses blank_nil
    rw [htrim, text, marker]
    cases i.typeOnly with
    | true => exact (if_pos rfl).trans hself
    | false =>
        exact if_neg fun h => i.not_marker (List.isPrefixOf_iff_prefix.mp h)
  have hword : (Text.words (i.name.text ++ i.ending)).head?
      = some i.name.text := by
    have hhead :=
      Text.head?_words blank_nil i.name.tight i.name.text_ne_nil i.head?_ending
    rwa [List.nil_append] at hhead
  unfold listedName?
  rw [hbare]
  show (Text.words (if _ then _ else _)).head?.filter _ = _
  rw [hunmarked, hword, Option.filter_some, i.name.isSome_matchWhole,
    Bool.and_true, listed?]
  by_cases hdefault : i.name.text = "default".toList
  · rw [if_pos hdefault, if_neg fun h => bne_iff_ne.mp h hdefault]
  · rw [if_neg hdefault, if_pos (bne_iff_ne.mpr hdefault)]

/-- There is no name in a gap. -/
theorem ScriptGap.listedName? (h : ScriptGap allowed t) :
    Export.listedName? t = none := by
  obtain ⟨t', hblank, hbecomes⟩ := h.becomes
  have htrim : Text.trim (scriptComment.replaceAll (fun _ => []) t) = [] := by
    rw [replaceAll_of_becomes (hbecomes none [])]
    exact Text.trim_eq_nil_iff.mpr hblank
  unfold Export.listedName?
  rw [htrim]
  rfl

end SourceAtlas.Export
