/-
What a script exports by an export list with comments. The list is found as a
whole, up to its closing brace, and gives the names of its items. Declarations
are looked for in the same text, comments included, and so a comment must not
look like one.

- A declaration is announced by the word `export` at the start of a line and by
  a second word that says what is declared (`misses_of_silent`). The items of a
  list and the gaps between them announce none: an item may be named `export`,
  but then a comma, a brace, a comment or `as` follows it (`ExportItem.silent`).
- The pieces between the commas name the items, since no comment holds a comma
  (`listedNames_enumerated`).

Both conditions on comments are needed: comments that hold a comma or an export
on a line of its own change what is exported.
-/
import SourceAtlas.Proofs.Export.ScriptItem

namespace SourceAtlas.Export

open Pattern
open Text (Blank Inline Listed Enumerated firstWord)

variable {behind : Option Char} {c : Char} {t u v w gap line rest : Text}

/-- An export list. -/
def exportText (body : Text) : Text :=
  "export".toList ++ [' '] ++ ['\x7b'] ++ body ++ ['\x7d']

/-- A comment that neither cuts a list in pieces nor looks like an export. -/
structure Quiet (body : Text) : Prop where
  brace : '\x7d' ∉ body
  comma : ',' ∉ body
  lines : ∀ line ∈ (Text.split '\n' body).tail, firstWord line ≠ "export".toList

-- ============================================================ declarations

/-- The words that may follow `export` in a declaration. -/
def declarationWords : List Text :=
  ["default".toList, "declare".toList, "async".toList, "abstract".toList,
    "const".toList,
    "let".toList, "var".toList, "function".toList, "class".toList,
    "type".toList,
    "interface".toList, "enum".toList, "namespace".toList]

/-- One of these words comes first. -/
def Declares (t : Text) : Prop := ∃ w ∈ declarationWords, w <+: t

theorem Declares.append (h : Declares t) (rest : Text) :
    Declares (t ++ rest) := by
  obtain ⟨w, hw, hprefix⟩ := h
  exact ⟨w, hw, hprefix.trans (List.prefix_append t rest)⟩

/-- A word that may be missing does not change that. -/
theorem declares_of_maybeWord (hw : w ∈ declarationWords)
    (hu : (maybeWord w).Spans behind u rest) (hv : Declares v) :
    Declares (u ++ v) := by
  rcases hu with ⟨word, gap, rfl, hword, -⟩ | rfl
  · rw [spans_lit.mp hword, List.append_assoc]
    exact ⟨w, hw, List.prefix_append w (gap ++ v)⟩
  · exact hv

/-- Nothing is declared before a character that starts no keyword. -/
theorem not_declares_cons (h : ∀ w ∈ declarationWords, w.head? ≠ some c) :
    ¬ Declares (c :: t) := by
  rintro ⟨w, hw, s, hs⟩
  cases w with
  | nil => exact absurd hw (by decide)
  | cons d w => exact h (d :: w) hw (by rw [(List.cons_eq_cons.mp hs).1]; rfl)

/-- What follows the word `export` at the start of a line. -/
def afterExport (t : Text) : Text :=
  ((t.dropWhile Text.isInline).drop 6).dropWhile Text.isBlank

/-- No declaration is announced at the front of the text. -/
def Silent (t : Text) : Prop :=
  firstWord t = "export".toList → ¬ Declares (afterExport t)

theorem afterExport_append (hgap : Inline gap) (t : Text) :
    afterExport (gap ++ t) = afterExport t := by
  rw [afterExport, List.dropWhile_append_of_pos hgap, afterExport]

theorem afterExport_export (t : Text) :
    afterExport ("export".toList ++ t) = t.dropWhile Text.isBlank := rfl

/-- The kinds of declarations. -/
def declarationKind : Pattern :=
  oneOf [lit "const" ++ blanks1 ++ lit "enum", lit "const", lit "let",
    lit "var", lit "function" ++ opt (blanks ++ lit "*"), lit "class",
    lit "type", lit "interface", lit "enum", lit "namespace"]

/-- Where a kind is spanned, a declaration starts. -/
theorem declares_of_kind (h : declarationKind.Spans behind u rest) :
    Declares u := by
  have hlit {w u : Text} {behind : Option Char} {rest : Text}
      (hw : w ∈ declarationWords) (h : (lit w).Spans behind u rest) :
      Declares u :=
    ⟨w, hw, [], by rw [spans_lit.mp h, List.append_nil]⟩
  rcases h with h | h | h | h | h | h | h | h | h | h
  · obtain ⟨_, _, rfl, ⟨_, _, rfl, hword, -⟩, -⟩ := h
    exact ((hlit (by decide) hword).append _).append _
  · exact hlit (by decide) h
  · exact hlit (by decide) h
  · exact hlit (by decide) h
  · obtain ⟨_, _, rfl, hword, -⟩ := h
    exact (hlit (by decide) hword).append _
  · exact hlit (by decide) h
  · exact hlit (by decide) h
  · exact hlit (by decide) h
  · exact hlit (by decide) h
  · exact hlit (by decide) h

/-- A declaration has no blanks in front. -/
theorem Declares.dropWhile_eq (h : Declares t) :
    t.dropWhile Text.isBlank = t := by
  have hwords : ∀ w ∈ declarationWords, w ≠ []
      ∧ w.all (!Text.isBlank ·) = true := by decide
  obtain ⟨w, hw, s, rfl⟩ := h
  obtain ⟨hne, hblank⟩ := hwords w hw
  obtain ⟨c, w, rfl⟩ := List.exists_cons_of_ne_nil hne
  have hc := List.all_eq_true.mp hblank c List.mem_cons_self
  rw [List.cons_append, List.dropWhile_cons_of_neg (by simpa using hc)]

/-- Where a declaration is found, `export` is the first word and a keyword
follows it. -/
theorem declares_of_spans (h : scriptDeclaration.Spans behind u rest) :
    firstWord (u ++ rest) = "export".toList
      ∧ Declares (afterExport (u ++ rest)) := by
  obtain ⟨-, name, rfl,
    ⟨-, gap', rfl, ⟨-, kind, rfl,
      ⟨-, m4, rfl, ⟨-, m3, rfl,
        ⟨-, m2, rfl, ⟨-, m1, rfl,
          ⟨-, gap, rfl, ⟨-, word, rfl, ⟨-, ind, rfl, ⟨rfl, -⟩, hind⟩, hword⟩,
            hgap⟩, h1⟩, h2⟩, h3⟩, h4⟩, hkind⟩, -⟩, -⟩ := h
  rw [spans_lit] at hword
  subst hword
  obtain ⟨x, gap, rfl, hblank⟩ := spans_many1.mp hgap
  have hdeclares :
      Declares
        (m1 ++ (m2 ++ (m3 ++ (m4 ++ (kind ++ (gap' ++ (name ++ rest))))))) :=
    declares_of_maybeWord (by decide) h1
      (declares_of_maybeWord (by decide) h2
        (declares_of_maybeWord (by decide) h3
          (declares_of_maybeWord (by decide) h4
            ((declares_of_kind hkind).append _))))
  simp only [List.nil_append, List.append_assoc]
  -- Only that this text declares something matters from here on.
  generalize m1 ++ (m2 ++ (m3 ++ (m4 ++ (kind ++ (gap' ++ (name ++ rest))))))
    = s at hdeclares
  rw [Text.firstWord_append_of_inline hind, afterExport_append hind,
    afterExport_export]
  constructor
  · apply Text.firstWord_append_of_word (by decide) (by decide)
    simpa using Text.isWord_of_isBlank (hblank x List.mem_cons_self)
  · rw [List.dropWhile_append_of_pos hblank, hdeclares.dropWhile_eq]
    exact hdeclares

/-- The search for declarations has no match where none is announced. -/
theorem misses_of_silent (h : Silent t) :
    scriptDeclaration.Misses behind t := by
  refine misses_of_not_spans fun u rest hu hspans => ?_
  obtain ⟨hword, hdeclares⟩ := declares_of_spans hspans
  rw [← hu] at hword hdeclares
  exact h hword hdeclares

/-- Declarations are found at line starts only. -/
theorem lineBound_scriptDeclaration : LineBound scriptDeclaration :=
  (((((((((lineBound_lineStart.append (many Text.isInline)).append _).append
    _).append _).append _).append _).append _).append _).append _).append _

/-- A text that starts with a sign is silent. -/
theorem silent_of_sign (hinline : Text.isInline c = false)
    (hword : Text.isWord c = false) : Silent (c :: t) := by
  intro h
  rw [Text.firstWord_cons_of_sign hinline hword] at h
  exact absurd h (by decide)

/-- Blanks in front keep a text silent. -/
theorem Silent.append (h : Silent t) (hgap : Inline gap) :
    Silent (gap ++ t) := by
  intro hword
  rw [Text.firstWord_append_of_inline hgap] at hword
  rw [afterExport_append hgap]
  exact h hword

/-- A line that does not start with `export` announces nothing, if a sign that
is no part of a word follows it. -/
theorem silent_line (hline : firstWord line ≠ "export".toList)
    (hinline : Text.isInline c = false) (hword : Text.isWord c = false) :
    Silent (line ++ c :: rest) := by
  intro h
  rw [Text.firstWord_append_cons hinline hword] at h
  exact absurd h hline

/-- What stands on one line announces nothing but at its start. -/
theorem missesIn_of_silent (hu : '\n' ∉ u.dropLast) (h : Silent (u ++ rest)) :
    scriptDeclaration.MissesIn behind u rest :=
  lineBound_scriptDeclaration.missesIn hu fun _ => misses_of_silent h

-- ==================================================================== gaps

variable {allowed : Text → Prop}

theorem ScriptGap.silent (h : ScriptGap allowed gap) (ht : Silent t) :
    Silent (gap ++ t) := by
  induction h with
  | nil => exact ht
  | @blank c gap hc _ ih =>
      cases hinline : Text.isInline c with
      | true =>
          have hone : Inline [c] := by simpa [Inline] using hinline
          exact ih.append hone
      | false => exact silent_of_sign hinline (Text.isWord_of_isBlank hc)
  | line => exact silent_of_sign (by decide) (by decide)
  | block => exact silent_of_sign (by decide) (by decide)

/-- Quiet comments announce no declaration. -/
theorem ScriptGap.missesIn (h : ScriptGap Quiet gap) (ht : Silent t) :
    scriptDeclaration.MissesIn behind gap t := by
  induction h generalizing behind with
  | nil => exact missesIn_nil _ _ _
  | @blank c gap hc h ih =>
      have hfirst : scriptDeclaration.MissesIn behind [c] (gap ++ t) :=
        missesIn_of_silent (by simp) ((ScriptGap.blank hc h).silent ht)
      exact hfirst.append ih
  | @line body gap hbody _ _ ih =>
      have hfirst :
          scriptDeclaration.MissesIn behind ("//".toList ++ body ++ ['\n'])
            (gap ++ t) := by
        refine missesIn_of_silent ?_ (silent_of_sign (by decide) (by decide))
        rw [List.dropLast_concat]
        exact List.not_mem_append (by decide) hbody
      have hall := hfirst.append ih
      rwa [List.append_assoc] at hall
  | @block body gap hbody hquiet _ ih =>
      have hopen : scriptDeclaration.MissesIn behind "/*".toList
          (body ++ ("*/".toList ++ gap ++ t)) :=
        missesIn_of_silent (by decide) (silent_of_sign (by decide) (by decide))
      -- Within a comment a declaration could start a line, which is why the
      -- comment has to be quiet.
      have hinside :
          scriptDeclaration.MissesIn (some '*') body
            ("*/".toList ++ gap ++ t) := by
        refine lineBound_scriptDeclaration.missesIn_of_lines
          (fun _ line more h => ?_) (fun _ line h => ?_) (by simp [StartsLine])
          hquiet.lines
        · exact misses_of_silent (silent_line h (by decide) (by decide))
        · exact misses_of_silent (silent_line h (by decide) (by decide))
      have hclose (behind : Option Char) :
          scriptDeclaration.MissesIn behind "*/".toList (gap ++ t) :=
        missesIn_of_silent (by decide) (silent_of_sign (by decide) (by decide))
      exact (hopen.append hinside).append ((hclose _).append ih)

/-- A gap in front starts no declaration. -/
theorem ScriptGap.not_declares (h : ScriptGap allowed gap)
    (ht : ¬ Declares (t.dropWhile Text.isBlank)) :
    ¬ Declares ((gap ++ t).dropWhile Text.isBlank) := by
  induction h with
  | nil => exact ht
  | blank hc _ ih =>
      rw [List.cons_append, List.dropWhile_cons_of_pos hc]
      exact ih
  | line => exact not_declares_cons (by decide)
  | block => exact not_declares_cons (by decide)

/-- A gap in front starts no word. -/
theorem ScriptGap.head?_append (h : ScriptGap allowed gap)
    (ht : ∀ c ∈ t.head?, Text.isWord c = false) :
    ∀ c ∈ (gap ++ t).head?, Text.isWord c = false := by
  have hslash : Text.isWord '/' = false := by decide
  cases h with
  | nil => exact ht
  | blank hc _ => simpa using Text.isWord_of_isBlank hc
  | line => simpa using hslash
  | block => simpa using hslash

-- =================================================================== items

theorem not_declares_as (t : Text) : ¬ Declares ("as ".toList ++ t) := by
  rintro ⟨w, hw, hprefix⟩
  simp only [declarationWords, List.mem_cons, List.not_mem_nil, or_false] at hw
  rcases hw with rfl | rfl | rfl | rfl | rfl | rfl | rfl | rfl | rfl | rfl | rfl
    | rfl | rfl <;>
    simp at hprefix

/-- Nothing is declared behind the name of an item. -/
theorem ExportItem.not_declares_ending (i : ExportItem)
    (hrest : ¬ Declares (rest.dropWhile Text.isBlank)) :
    ¬ Declares ((i.ending ++ rest).dropWhile Text.isBlank) := by
  unfold ending
  cases i.newName with
  | none => exact hrest
  | some n => exact not_declares_as (n.text ++ rest)

/-- The name of an item ends before its renaming. -/
theorem ExportItem.head?_ending_append (i : ExportItem)
    (hhead : ∀ c ∈ rest.head?, Text.isWord c = false) :
    ∀ c ∈ (i.ending ++ rest).head?, Text.isWord c = false := by
  unfold ending
  cases i.newName with
  | none => exact hhead
  | some n => simpa using (by decide : Text.isWord ' ' = false)

/-- The first word of a name is the whole name, or it ends at a dollar sign. -/
theorem ScriptIdentifier.firstWord_cases (i : ScriptIdentifier)
    (hrest : ∀ c ∈ rest.head?, Text.isWord c = false) (hne : w ≠ [])
    (h : firstWord (i.text ++ rest) = w) :
    i.text = w ∨ ∃ more, i.text = w ++ '$' :: more := by
  have hsplit :=
    List.takeWhile_append_dropWhile (p := Text.isWord) (l := i.text)
  have hchars : ∀ c ∈ i.text.takeWhile Text.isWord, Text.isWord c = true :=
    fun c hc => List.mem_takeWhile_imp hc
  generalize i.text.takeWhile Text.isWord = front at hsplit hchars
  cases hback : i.text.dropWhile Text.isWord with
  | nil =>
      rw [hback, List.append_nil] at hsplit
      rw [hsplit] at hchars
      rw [Text.firstWord_append_of_word i.text_ne_nil hchars hrest] at h
      exact .inl h
  | cons d back =>
      have hend : Text.isWord d = false := by
        have hhead := List.head?_dropWhile_not Text.isWord i.text
        simpa [hback] using hhead
      have hname : Export.isScriptName d = true :=
        i.isScriptName d (by rw [← hsplit, hback]; simp)
      -- The dollar sign is the one character of names that is none of words.
      have hdollar : d = '$' := by simpa [Export.isScriptName, hend] using hname
      subst hdollar
      rw [hback] at hsplit
      rw [← hsplit, List.append_assoc, List.cons_append,
        Text.firstWord_append_cons (by decide) (by decide)] at h
      have hfront : front ≠ [] := by
        rintro rfl
        exact hne h.symm
      have hword : firstWord (front ++ []) = front :=
        Text.firstWord_append_of_word hfront hchars (by simp)
      rw [List.append_nil, h] at hword
      exact .inr ⟨back, by rw [hword, hsplit]⟩

/-- An item announces no declaration: the name `export` is followed by a sign or
by `as`, which declare nothing. -/
theorem ExportItem.silent (i : ExportItem)
    (hhead : ∀ c ∈ rest.head?, Text.isWord c = false)
    (hrest : ¬ Declares (rest.dropWhile Text.isBlank)) :
    Silent (i.text ++ rest) := by
  have hname : Silent (i.name.text ++ (i.ending ++ rest)) := by
    intro hword
    rcases i.name.firstWord_cases (i.head?_ending_append hhead) (by decide)
      hword with hname | ⟨more, hname⟩
    · rw [hname, afterExport_export]
      exact i.not_declares_ending hrest
    · rw [hname, List.append_assoc, afterExport_export]
      exact not_declares_cons (by decide)
  unfold text marker
  cases htype : i.typeOnly with
  | true =>
      intro hword
      have hmarker :
          firstWord ("type".toList ++ ' ' :: (i.name.text ++ i.ending ++ rest))
            = "type".toList :=
        Text.firstWord_append_of_word (by decide) (by decide)
          (by simpa using (by decide : Text.isWord ' ' = false))
      exact absurd (hmarker.symm.trans hword) (by decide)
  | false =>
      rw [← List.append_assoc] at hname
      exact hname

-- ==================================================================== lists

/-- An export list announces no declaration inside. -/
theorem missesIn_enumerated {items : List ExportItem}
    (h : Enumerated (ScriptGap Quiet) (items.map ExportItem.text) t) :
    scriptDeclaration.MissesIn behind t ('\x7d' :: rest) := by
  have hbrace : Silent ('\x7d' :: rest) :=
    silent_of_sign (by decide) (by decide)
  have hcomma (behind : Option Char) (rest : Text) :
      scriptDeclaration.MissesIn behind [','] rest :=
    missesIn_of_silent (by simp) (silent_of_sign (by decide) (by decide))
  -- one item with its gaps, up to the sign behind them
  have hpiece {i : ExportItem} {before after : Text} {c : Char}
    (hbefore : ScriptGap Quiet before)
      (hafter : ScriptGap Quiet after) (hc : c ∈ [',', '\x7d'])
        (behind : Option Char)
      (rest : Text) :
      scriptDeclaration.MissesIn behind (before ++ i.text ++ after)
        (c :: rest) := by
    have hsigns : ∀ c ∈ [',', '\x7d'], Text.isInline c = false
        ∧ Text.isWord c = false ∧ Text.isBlank c = false
        ∧ ∀ w ∈ declarationWords, w.head? ≠ some c := by decide
    obtain ⟨hinline, hword, hblank, hnone⟩ := hsigns c hc
    have hdeclares :
        ¬ Declares ((after ++ c :: rest).dropWhile Text.isBlank) := by
      refine hafter.not_declares ?_
      rw [List.dropWhile_cons_of_neg (by simp [hblank])]
      exact not_declares_cons hnone
    have hsilent : Silent (i.text ++ (after ++ c :: rest)) :=
      i.silent (hafter.head?_append (by simpa using hword)) hdeclares
    have hitem (behind : Option Char) :
        scriptDeclaration.MissesIn behind i.text (after ++ c :: rest) := by
      refine missesIn_of_silent (fun hfeed => ?_) hsilent
      exact i.not_mem (by decide) (by decide) (List.dropLast_subset _ hfeed)
    exact ((hbefore.missesIn hsilent).append (hitem _)).append
      (hafter.missesIn (silent_of_sign hinline hword))
  generalize hitems : items.map ExportItem.text = texts at h
  cases h with
  | none h => exact h.missesIn hbrace
  | some h =>
      induction h generalizing items behind with
      | one item hbefore hafter =>
          obtain ⟨i, rfl, rfl⟩ := List.map_eq_singleton_iff.mp hitems
          exact hpiece hbefore hafter (by decide) behind rest
      | last item hbefore hafter hbehind =>
          obtain ⟨i, rfl, rfl⟩ := List.map_eq_singleton_iff.mp hitems
          exact (hpiece hbefore hafter (by decide) behind _).append
            ((hcomma _ _).append (hbehind.missesIn hbrace))
      | cons item hbefore hafter _ ih =>
          obtain ⟨i, items, rfl, rfl, hothers⟩ := List.map_eq_cons_iff.mp hitems
          exact (hpiece hbefore hafter (by decide) behind _).append
            ((hcomma _ _).append (ih hothers))

/-- The pieces between the commas of a list name its items. -/
theorem listedNames_enumerated {items : List ExportItem}
    (h : Enumerated (ScriptGap Quiet) (items.map ExportItem.text) t) :
    listedNames t = exportedNames items := by
  have hgap (gap : Text) (hgap : ScriptGap Quiet gap) : ',' ∉ gap :=
    hgap.not_mem (by decide) (by decide) fun _ hquiet => hquiet.comma
  have hself (i : ExportItem) : listedName? i.text = i.listed? := by
    have hnil : ScriptGap Quiet [] := .nil
    have hbare : listedName? ([] ++ i.text ++ []) = i.listed? :=
      i.listedName?_text hnil hnil
    rwa [List.nil_append, List.append_nil] at hbare
  rw [← filterMap_listed?, listedNames]
  generalize hitems : items.map ExportItem.text = texts at h
  cases h with
  | none h =>
      rw [List.map_eq_nil_iff.mp hitems, Text.split_of_not_mem (hgap t h)]
      exact List.filterMap_cons_none h.listedName?
  | some h =>
      subst hitems
      rw [h.filterMap_split hgap, List.filterMap_map]
      · exact List.filterMap_congr fun i _ => hself i
      · intro item hitem
        obtain ⟨i, -, rfl⟩ := List.mem_map.mp hitem
        exact i.not_mem (by decide) (by decide)
      · intro item hitem before after hbefore hafter
        obtain ⟨i, -, rfl⟩ := List.mem_map.mp hitem
        rw [i.listedName?_text hbefore hafter, hself]
      · exact fun gap hgap => hgap.listedName?

/-- The list is read to its closing brace. -/
theorem reads_exportList {body : Text} (hbody : '\x7d' ∉ body) :
    exportList.Reads none (exportText body) rest [(.body, body)] := by
  have hspace : ∀ c ∈ [' '], Text.isBlank c = true := by decide
  have hchars : ∀ c ∈ body, except ['\x7d'] c = true := by
    intro c hc
    simpa [except] using fun h : c = '\x7d' => hbody (h ▸ hc)
  have hend : ∀ c ∈ (['\x7d'] ++ rest).head?, except ['\x7d'] c = false := by
    simp [except]
  have hopen (t : Text) :
      ∀ c ∈ (['\x7b'] ++ t).head?, Text.isBlank c = false := by
    simpa using (by decide : Text.isBlank '\x7b' = false)
  have hindent (t : Text) :
      indent.Reads none ([] ++ []) ("export".toList ++ t) [] :=
    (reads_anchor rfl).append
      (reads_many (by simp)
        (by simpa using (by decide : Text.isInline 'e' = false)))
  have hword :=
    (hindent _).append_left
      (reads_lit _ "export".toList
        ([' '] ++ ([] ++ (['\x7b'] ++ (body ++ (['\x7d'] ++ rest))))))
  have htype (behind : Option Char) (t : Text) :
      (maybeWord "type").Reads behind [] (['\x7b'] ++ t) [] :=
    Misses.opt_reads (Misses.append (misses_lit (by simp)))
  have hgap :=
    hword.append_left (reads_many1 (List.cons_ne_nil ' ' []) hspace (hopen _))
  have hbrace :=
    (hgap.append_left (htype _ _)).append_left (reads_lit _ ['\x7b'] _)
  have hlisted (behind : Option Char) :
      (group .body (many (except ['\x7d']))).Reads behind body
        (['\x7d'] ++ rest) [(.body, body)] := (reads_many hchars hend).group
  have hall :=
    (hbrace.append_right (hlisted _)).append_left (reads_lit _ ['\x7d'] rest)
  simp only [List.nil_append, List.append_nil] at hall
  exact hall

/-- There is no declaration in an export list. -/
theorem missesIn_exportText {items : List ExportItem} {body : Text}
    (h : Enumerated (ScriptGap Quiet) (items.map ExportItem.text) body) :
    scriptDeclaration.MissesIn none (exportText body) [] := by
  have hopen :
      Silent ("export".toList ++ [' '] ++ ['\x7b'] ++ (body ++ ['\x7d'])) :=
    fun _ => not_declares_cons (by decide)
  have hfirst :
      scriptDeclaration.MissesIn none ("export".toList ++ [' '] ++ ['\x7b'])
        (body ++ ['\x7d']) := missesIn_of_silent (by decide) hopen
  have hlast (behind : Option Char) :
      scriptDeclaration.MissesIn behind ['\x7d'] [] :=
    missesIn_of_silent (by simp) (silent_of_sign (by decide) (by decide))
  exact (hfirst.append (missesIn_enumerated h)).append (hlast _)

/-- An export list exports the names of its items but `default`. -/
theorem scriptSymbols_exportText {items : List ExportItem} {body : Text}
    (h : Enumerated (ScriptGap Quiet) (items.map ExportItem.text) body) :
    scriptSymbols (exportText body) = Ordered.ofList (exportedNames items) := by
  have hbrace : '\x7d' ∉ body := by
    refine h.not_mem (fun gap hgap => ?_) (by decide) fun item hitem => ?_
    · exact hgap.not_mem (by decide) (by decide) fun _ hquiet => hquiet.brace
    · obtain ⟨i, -, rfl⟩ := List.mem_map.mp hitem
      exact i.not_mem (by decide) (by decide)
  have hnone : scriptDeclaration.findAll (exportText body) = [] := by
    have hall := passesOver_of_misses (missesIn_exportText h) 0
    rwa [List.append_nil] at hall
  have hne : exportText body ≠ [] :=
    List.append_ne_nil_of_right_ne_nil _ (List.cons_ne_nil '\x7d' [])
  have hread : exportList.Reads none (exportText body) [] [(.body, body)] :=
    reads_exportList hbrace
  obtain ⟨m, -, hparts, hfound⟩ := hread.findAllFrom hne 0
  rw [List.append_nil] at hfound
  have hone : exportList.findAll (exportText body) = [m] := hfound
  have hbody : m.get .body = body := hparts .body
  show Ordered.ofList (_ ++ _) = _
  rw [hnone, hone, List.map_nil, List.nil_append, List.flatMap_singleton, hbody,
    listedNames_enumerated h]

/-- Comments in an export list are ignored as long as they hold neither a comma
nor a line that starts with `export`: such a list exports the names of its items
but `default`, and so does the same list with blanks for its comments. -/
theorem quiet_comments_are_ignored {items : List ExportItem} {body : Text}
    (h : Enumerated (ScriptGap Quiet) (items.map ExportItem.text) body) :
    symbols (exportText body) .script = Ordered.ofList (exportedNames items)
      ∧ ∀ bare, Enumerated Blank (items.map ExportItem.text) bare →
        symbols (exportText bare) .script
          = symbols (exportText body) .script := by
  have hbody := scriptSymbols_exportText h
  refine ⟨hbody, fun bare hbare => ?_⟩
  exact (scriptSymbols_exportText
    (hbare.mono fun _ => scriptGap_of_blank)).trans hbody.symm

/-- The item `a`. -/
def itemA : ExportItem :=
  ⟨false, ⟨'a', [], by decide, by decide⟩, none, by decide⟩

/-- The item `type B as C`. -/
def itemB : ExportItem :=
  ⟨true, ⟨'B', [], by decide, by decide⟩,
    some ⟨'C', [], by decide, by decide⟩, by decide⟩

/-- A list with a line comment between its items and a block comment at its
end. -/
def commentedBody : Text :=
  [' '] ++ itemA.text ++ []
    ++ ',' :: ("//".toList ++ " next".toList ++ '\n' :: [' '] ++ itemB.text
      ++ ("/*".toList ++ " last\n line ".toList ++ ("*/".toList ++ [])))

theorem quiet_comments_are_ignored_two_items :
    exportText commentedBody
      = "export \x7b a,// next\n type B as C/* last\n line */\x7d".toList
      ∧ symbols (exportText commentedBody) .script
        = ["B".toList, "a".toList] := by
  have hline :
      ScriptGap Quiet ("//".toList ++ " next".toList ++ '\n' :: [' ']) :=
    .line (by decide) ⟨by decide, by decide, by decide +kernel⟩
      (.blank (by decide) .nil)
  have hblock :
      ScriptGap Quiet ("/*".toList ++ " last\n line ".toList
        ++ ("*/".toList ++ [])) :=
    .block (by decide +kernel) ⟨by decide, by decide, by decide +kernel⟩ .nil
  have hbody :
      Enumerated (ScriptGap Quiet) ([itemA, itemB].map ExportItem.text)
        commentedBody :=
    .some (.cons itemA.text (.blank (by decide) .nil) .nil
      (.one itemB.text hline hblock))
  refine ⟨by decide +kernel, ?_⟩
  rw [(quiet_comments_are_ignored hbody).1]
  decide +kernel

/-- The same items with a comma in a block comment between them. -/
def cutBody : Text :=
  [' '] ++ itemA.text ++ []
    ++ ',' :: ("/*".toList ++ " x, y ".toList ++ ("*/".toList ++ [' '])
      ++ itemB.text ++ [' '])

/-- A comma in a comment cuts the list there: what follows it in the comment is
exported, and the item behind the comment is not. -/
theorem comma_in_comment_changes_exports :
    Enumerated (ScriptGap ('\x7d' ∉ ·))
      ([itemA, itemB].map ExportItem.text) cutBody
      ∧ exportText cutBody = "export \x7b a,/* x, y */ type B as C \x7d".toList
      ∧ exportedNames [itemA, itemB] = ["a".toList, "B".toList]
      ∧ symbols (exportText cutBody) .script = ["a".toList, "y".toList] := by
  have hblock :
      ScriptGap ('\x7d' ∉ ·)
        ("/*".toList ++ " x, y ".toList ++ ("*/".toList ++ [' '])) :=
    .block (by decide +kernel) (by decide) (.blank (by decide) .nil)
  refine ⟨.some (.cons itemA.text (.blank (by decide) .nil) .nil
    (.one itemB.text hblock (.blank (by decide) .nil))), ?_⟩
  decide +kernel

/-- A declaration in a comment is exported, if it starts a line. -/
example : symbols "export \x7b a /*\nexport const x\n*/ \x7d".toList .script
    = ["a".toList, "x".toList] := by
  decide +kernel

end SourceAtlas.Export
