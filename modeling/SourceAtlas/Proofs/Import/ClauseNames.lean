/-
What the lists of import statements name. The pieces between the commas of a
list are its items with blanks around them, and each reading of a piece keeps
what stands in front of the new name: a module is the first word of its piece
(`Row.filterMap_head?_words`), and a name is what precedes `as`
(`filterMap_clauseName?`). Before that, a clause is rid of its comments,
its parentheses and the blanks around them, which leaves its list
(`Clause.clauseNames`).

Consumed by the theory of Python statements.
-/
import SourceAtlas.Proofs.Import.NameList

namespace SourceAtlas.Import

open Pattern Text

variable {c : Char} {t a b before after name rest : Text} {items : List Text}

-- ========================================================= modules by words

/-- The first word of an item is its module. -/
theorem ModuleItem.head?_words (item : ModuleItem) (hbefore : Blank before)
    (hafter : Blank after) :
    (Text.words (before ++ item.text ++ after)).head?
      = some item.name.text := by
  have hname := tight_of_isDotted item.name.isDotted
  have hne := item.name.text_ne_nil
  obtain ⟨name, newName⟩ := item
  cases newName with
  | none => exact Text.head?_words hbefore hname hne (isBlank_head hafter)
  | some newName =>
      have hrest :
          ∀ c ∈ (" as ".toList ++ newName.text ++ after).head?,
            Text.isBlank c = true := by
        simp [Text.isBlank, Text.blankRanges]
      have hwords := Text.head?_words hbefore hname hne hrest
      simpa only [ModuleItem.text, renamed, List.append_assoc] using hwords

/-- The first words between the commas of a row are its modules. -/
theorem Row.filterMap_head?_words {modules : List ModuleItem}
    (h : Row (modules.map ModuleItem.text) t) :
    (Text.split ',' t).filterMap (fun piece => (Text.words piece).head?)
      = modules.map fun item => item.name.text := by
  have hself (item : ModuleItem) : (Text.words item.text).head?
      = some item.name.text := by
    simpa using item.head?_words blank_nil blank_nil
  rw [h.listed.filterMap_split, List.filterMap_map]
  · simp only [Function.comp_def, hself, List.filterMap_eq_map']
  · exact fun _ hblank => not_mem_of_blank hblank (by decide)
  · exact fun item hitem =>
      (ModuleItem.isItem_of_mem_map hitem).not_mem (by decide) (by decide)
  · intro item hitem before after hbefore hafter
    obtain ⟨item, -, rfl⟩ := List.mem_map.mp hitem
    rw [item.head?_words hbefore hafter, hself]
  · intro blanks hblanks
    rw [Text.words, ← List.append_nil blanks, wordsFrom_append_of_blank hblanks]
    rfl

-- ========================================================= names of a clause

/-- No parenthesis is part of a dotted name. -/
theorem isParenthesis_of_isDotted (h : isDotted c = true) :
    isParenthesis c = false := by
  have hparens : ∀ c ∈ ['(', ')'], isDotted c = false := by decide
  rw [← Bool.not_eq_true]
  intro hc
  have hmem : c ∈ ['(', ')'] := by simpa [isParenthesis] using hc
  rw [hparens c hmem] at h
  cases h

/-- There are no parentheses to drop from a name. -/
theorem Identifier.trimBoth_text (i : Identifier) :
    Text.trimBoth isParenthesis i.text = i.text := by
  have hnone : ∀ c ∈ i.text, isParenthesis c = false :=
    fun c hc => isParenthesis_of_isDotted (i.isDotted c hc)
  have htrim : Text.trimBoth isParenthesis ([] ++ i.text ++ []) = i.text := by
    apply Text.trimBoth_append
    · simp
    · exact fun c hc => hnone c (List.mem_of_mem_head? hc)
    · exact fun c hc => hnone c (List.mem_of_getLast? hc)
    · simp
  simpa using htrim

theorem NameItem.before_as (item : NameItem) :
    Text.before " as ".toList item.text = item.name.text := by
  have hspace : ' ' ∉ item.name.text :=
    fun hc => absurd (item.name.word ' ' hc) (by decide)
  obtain ⟨name, newName⟩ := item
  cases newName with
  | none => exact Text.before_of_not_mem _ hspace
  | some newName => exact Text.before_append _ _ hspace

/-- The name of an item is read, with blanks around it. -/
theorem NameItem.clauseName?_text (item : NameItem) (hbefore : Blank before)
    (hafter : Blank after) :
    clauseName? (before ++ item.text ++ after) = some item.name.text := by
  have hitem := item.isItem
  have hmatch := isSome_matchWhole_many1 item.name.nonempty item.name.word
  unfold clauseName?
  rw [Text.trim_append hbefore hitem.opens hitem.closes hafter, item.before_as,
    Text.trim_of_tight (tight_of_isDotted item.name.isDotted),
    item.name.trimBoth_text]
  exact if_pos hmatch

theorem clauseName?_of_blank (h : Blank t) : clauseName? t = none := by
  have htrim : Text.trim t = [] := Text.trim_eq_nil_iff.mpr h
  unfold clauseName?
  rw [htrim]
  rfl

/-- The pieces between the commas of a list give its names. -/
theorem filterMap_clauseName? {names : List NameItem}
    (h : Listed Blank (names.map NameItem.text) t) :
    (Text.split ',' t).filterMap clauseName? = names.map fun item =>
      item.name.text := by
  have hself (item : NameItem) : clauseName? item.text
      = some item.name.text := by
    simpa using item.clauseName?_text blank_nil blank_nil
  rw [h.filterMap_split, List.filterMap_map]
  · simp only [Function.comp_def, hself, List.filterMap_eq_map']
  · exact fun _ hblank => not_mem_of_blank hblank (by decide)
  · exact fun item hitem =>
      (NameItem.isItem_of_mem_map hitem).not_mem (by decide) (by decide)
  · intro item hitem before after hbefore hafter
    obtain ⟨item, -, rfl⟩ := List.mem_map.mp hitem
    rw [item.clauseName?_text hbefore hafter, hself]
  · exact fun _ => clauseName?_of_blank

/-- Parentheses and backslashes. -/
def isBracing (c : Char) : Bool := isParenthesis c || c == '\x5c'

/-- There is no bracket in a list of names. -/
theorem not_isBracing_of_listed (h : Listed Blank items t)
    (hitems : ∀ item ∈ items, IsItem item) : ∀ c ∈ t, isBracing c = false := by
  have hsigns : ∀ c ∈ ['(', ')', '\x5c'], Text.isBlank c = false ∧ c ≠ ','
      ∧ isDotted c = false ∧ c ≠ ' ' := by decide
  intro c hc
  rw [← Bool.not_eq_true]
  intro hbracing
  have hmem : c ∈ ['(', ')', '\x5c'] := by
    simpa [isBracing, isParenthesis, or_assoc] using hbracing
  obtain ⟨hblank, hcomma, hdotted, hspace⟩ := hsigns c hmem
  exact h.not_mem (fun _ hgap => not_mem_of_blank hgap hblank) hcomma
    (fun item hitem => (hitems item hitem).not_mem hdotted hspace) hc

/-- A list is left of a clause when it is rid of its parentheses, if it has
any. -/
theorem trimBoth_isBracing (h : Listed Blank items t)
    (hitems : ∀ item ∈ items, IsItem item) (ha : ∀ c ∈ a, isBracing c = true)
    (hb : ∀ c ∈ b, isBracing c = true) :
    Text.trimBoth isBracing (a ++ t ++ b) = t := by
  have hnone := not_isBracing_of_listed h hitems
  apply Text.trimBoth_append ha _ _ hb
  · exact fun c hc => hnone c (List.mem_of_mem_head? hc)
  · exact fun c hc => hnone c (List.mem_of_getLast? hc)

/-- A clause names what its list names. -/
theorem Clause.clauseNames {names : List NameItem}
    (h : Clause (names.map NameItem.text) t) :
    Import.clauseNames t = names.map fun item => item.name.text := by
  have hitems : ∀ item ∈ names.map NameItem.text, IsItem item :=
    fun item hitem => NameItem.isItem_of_mem_map hitem
  have hopens : ∀ item ∈ names.map NameItem.text, Opens item :=
    fun item hitem => (hitems item hitem).opens
  have hcloses : ∀ item ∈ names.map NameItem.text, Closes item :=
    fun item hitem => (hitems item hitem).closes
  have hhash : ∀ item ∈ names.map NameItem.text, '#' ∉ item :=
    fun item hitem => (hitems item hitem).not_mem (by decide) (by decide)
  -- from the text without its comments on
  suffices hstages : ∃ bare, hashComment.replaceAll (fun _ => []) t = bare
      ∧ Listed Blank (names.map NameItem.text)
        (Text.trim (Text.trimBoth isBracing (Text.trim bare))) by
    obtain ⟨bare, hbare, hlisted⟩ := hstages
    unfold Import.clauseNames
    rw [hbare]
    exact filterMap_clauseName? hlisted
  cases h with
  | row h =>
      have hlisted := h.listed
      have hkept : hashComment.replaceAll (fun _ => []) t = t := by
        refine replaceAll_of_becomes (becomes_hashComment_self ?_)
        exact hlisted.not_mem (fun _ hgap => not_mem_of_blank hgap (by decide))
          (by decide) hhash
      have htrim := hlisted.trim hopens hcloses
      have hbraces : Text.trimBoth isBracing ([] ++ Text.trim t ++ [])
          = Text.trim t :=
        trimBoth_isBracing htrim hitems (by simp) (by simp)
      rw [List.nil_append, List.append_nil] at hbraces
      refine ⟨t, hkept, ?_⟩
      rw [hbraces]
      exact htrim.trim hopens hcloses
  | @spread body h =>
      obtain ⟨body', hlisted, hbody⟩ := becomes_of_listed h hhash
      have hparen (sign : Char) (hsign : '#' ∉ [sign]) (behind : Option Char)
          (rest : Text) :
          hashComment.Becomes (fun _ => []) behind [sign] rest [sign] :=
        becomes_hashComment_self hsign
      have hall := ((hparen '(' (by decide) none _).append (hbody _ _)).append
        (hparen ')' (by decide) _ [])
      have htrim : Text.trim (['('] ++ body' ++ [')'])
          = ['('] ++ body' ++ [')'] := by
        have hopens : Opens (['('] ++ body' ++ [')']) :=
          ⟨'(', body' ++ [')'], rfl, by decide⟩
        have hcloses : Closes (['('] ++ body' ++ [')']) :=
          ⟨['('] ++ body', ')', rfl, by decide⟩
        simpa using Text.trim_append blank_nil hopens hcloses blank_nil
      refine ⟨['('] ++ body' ++ [')'], replaceAll_of_becomes hall, ?_⟩
      rw [htrim, trimBoth_isBracing hlisted hitems (by decide) (by decide)]
      exact hlisted.trim hopens hcloses

end SourceAtlas.Import
