/-
Which handlers a file declares, and on which lines. A declaration stands at
the start of a line: `export`, what kind of declaration it is, and the name of
a method, which holds the only capital letters. So a declaration can be read
in one way only (`HandlerAt.unique`), and no other one starts inside it,
because `export` is written once in it (`keepsApart_handler`); hence the scan,
which goes on behind each match, overlooks no declaration
(`mem_located_handler_iff`).

The declarations of a text stand on different lines, and for each method the
first of them is reported (`mem_handlerLines_iff`).

Consumed by the theory of routing directories.
-/
import SourceAtlas.Proofs.Pattern.Located
import SourceAtlas.Proofs.Table
import SourceAtlas.Route

namespace SourceAtlas.Route

open Pattern
open Text (Blank Inline isBlank_of_isInline isBlank_of_isUpper
  isWord_of_isUpper)

variable {text before lead verb after u rest : Text} {behind : Option Char}
  {c : Cursor} {m : Match}

-- ======================================================== what announces

/-- Blanks, at least one. -/
structure Spaced (t : Text) : Prop where
  nonempty : t ≠ []
  blank : Blank t

/-- What kind of declaration it is: a function, or a variable. -/
inductive Kind : Text → Prop where
  | function {async gap star between : Text}
      (hasync : async = []
        ∨ ∃ apart, async = "async".toList ++ apart ∧ Spaced apart)
      (hgap : Blank gap) (hstar : star = [] ∨ star = ['*'])
        (hbetween : Blank between) :
      Kind (async ++ "function".toList ++ gap ++ star ++ between)
  | binding {word gap : Text}
      (hword : word ∈ ["const", "let", "var"].map String.toList)
      (hgap : Spaced gap) : Kind (word ++ gap)

/-- What announces a handler. -/
inductive Announces : Text → Prop where
  | exported {before gap kind : Text} (hbefore : Inline before)
      (hgap : Spaced gap) (hkind : Kind kind) :
      Announces (before ++ "export".toList ++ gap ++ kind)

/-- The pattern of `Kind`. -/
def kindPattern : Pattern :=
  alt (opt (lit "async" ++ blanks1) ++ lit "function" ++ blanks ++ opt (lit "*")
    ++ blanks) (anyOf ["const", "let", "var"] ++ blanks1)

/-- The pattern of `Announces` at the start of a line. -/
def leadPattern : Pattern := indent ++ lit "export" ++ blanks1 ++ kindPattern

theorem spans_blanks1 : blanks1.Spans behind u rest ↔ Spaced u := by
  rw [blanks1, spans_many1]
  constructor
  · rintro ⟨x, v, rfl, h⟩
    exact ⟨List.cons_ne_nil x v, h⟩
  · rintro ⟨hne, h⟩
    obtain ⟨x, v, rfl⟩ := List.exists_cons_of_ne_nil hne
    exact ⟨x, v, rfl, h⟩

/-- A function or a variable, up to its name. -/
theorem spans_kindPattern : kindPattern.Spans behind u rest ↔ Kind u := by
  constructor
  · rintro (hfunction | hbinding)
    · obtain ⟨_, between, rfl,
        ⟨_, star, rfl, ⟨_, gap, rfl, ⟨async, _, rfl, hasync, hword⟩, hgap⟩,
          hstar⟩, hbetween⟩ := hfunction
      rw [spans_lit.mp hword]
      refine .function ?_ hgap ?_ hbetween
      · rcases hasync with ⟨_, apart, rfl, hasync, hapart⟩ | hnone
        · exact .inr ⟨apart, by rw [spans_lit.mp hasync],
            spans_blanks1.mp hapart⟩
        · exact .inl hnone
      · rcases hstar with hstar | hnone
        · exact .inr (spans_lit.mp hstar)
        · exact .inl hnone
    · obtain ⟨word, gap, rfl, hword, hgap⟩ := hbinding
      exact .binding (spans_anyOf.mp hword) (spans_blanks1.mp hgap)
  · intro h
    cases h with
    | @function async gap star between hasync hgap hstar hbetween =>
        refine .inl ⟨_, between, rfl,
          ⟨_, star, rfl, ⟨_, gap, rfl, ⟨async, _, rfl, ?_, spans_lit.mpr rfl⟩,
            hgap⟩, ?_⟩, hbetween⟩
        · rcases hasync with rfl | ⟨apart, rfl, hapart⟩
          · exact .inr rfl
          · exact .inl ⟨_, apart, rfl, spans_lit.mpr rfl,
              spans_blanks1.mpr hapart⟩
        · rcases hstar with rfl | rfl
          · exact .inr rfl
          · exact .inl (spans_lit.mpr rfl)
    | @binding word gap hword hgap =>
        exact .inr ⟨word, gap, rfl, spans_anyOf.mpr hword,
          spans_blanks1.mpr hgap⟩

/-- What stands before the name of a handler. -/
theorem spans_leadPattern :
    leadPattern.Spans behind lead rest
      ↔ StartsLine behind ∧ Announces lead := by
  constructor
  · rintro ⟨_, kind, rfl,
      ⟨_, gap, rfl, ⟨_, word, rfl, ⟨_, before, rfl, ⟨rfl, hstart⟩, hbefore⟩,
        hword⟩, hgap⟩, hkind⟩
    rw [spans_lit.mp hword]
    exact ⟨startsLine_iff.mpr hstart,
      .exported hbefore (spans_blanks1.mp hgap) (spans_kindPattern.mp hkind)⟩
  · rintro ⟨hstart, h⟩
    obtain @⟨before, gap, kind, hbefore, hgap, hkind⟩ := h
    exact ⟨_, kind, rfl, ⟨_, gap, rfl, ⟨_, _, rfl, ⟨[], before, rfl,
      ⟨rfl, startsLine_iff.mp hstart⟩, hbefore⟩, spans_lit.mpr rfl⟩,
      spans_blanks1.mpr hgap⟩, spans_kindPattern.mpr hkind⟩

-- ======================================================== quiet characters

/-- No capital letter, and not the `x` of `export`. -/
def Quiet (x : Char) : Prop := x.isUpper = false ∧ x ≠ 'x'

instance (x : Char) : Decidable (Quiet x) := inferInstanceAs (Decidable (_ ∧ _))

theorem quiet_of_isBlank {x : Char} (h : Text.isBlank x = true) : Quiet x := by
  constructor
  · cases hupper : x.isUpper with
    | false => rfl
    | true =>
        rw [isBlank_of_isUpper hupper] at h
        cases h
  · rintro rfl
    exact absurd h (by decide)

theorem Spaced.quiet {gap : Text} (h : Spaced gap) : ∀ x ∈ gap, Quiet x :=
  fun x hx => quiet_of_isBlank (h.blank x hx)

/-- What follows `export` is quiet up to the method. -/
theorem Kind.quiet (h : Kind u) : ∀ x ∈ u, Quiet x := by
  cases h with
  | @function async gap star between hasync hgap hstar hbetween =>
      have hasync : ∀ x ∈ async, Quiet x := by
        rcases hasync with rfl | ⟨apart, rfl, hapart⟩
        · exact List.forall_mem_nil _
        · exact List.forall_mem_append.mpr ⟨by decide, hapart.quiet⟩
      have hstar : ∀ x ∈ star, Quiet x := by
        rcases hstar with rfl | rfl
        · exact List.forall_mem_nil _
        · decide
      have hgap : ∀ x ∈ gap, Quiet x := fun x hx => quiet_of_isBlank (hgap x hx)
      have hbetween : ∀ x ∈ between, Quiet x :=
          fun x hx => quiet_of_isBlank (hbetween x hx)
      simp only [List.forall_mem_append]
      exact ⟨⟨⟨⟨hasync, by decide⟩, hgap⟩, hstar⟩, hbetween⟩
  | @binding word gap hword hgap =>
      have hwords :
          ∀ word ∈ ["const", "let", "var"].map String.toList,
            ∀ x ∈ word, Quiet x := by
        decide
      exact List.forall_mem_append.mpr ⟨hwords word hword, hgap.quiet⟩

/-- Behind its `export` a lead is quiet. -/
theorem Announces.parts (h : Announces lead) : ∃ before more,
    lead = before ++ "export".toList ++ more ∧ Inline before
      ∧ ∀ x ∈ more, Quiet x := by
  obtain @⟨before, gap, kind, hbefore, hgap, hkind⟩ := h
  refine ⟨before, gap ++ kind, by rw [List.append_assoc (before ++ _)],
    hbefore, ?_⟩
  exact List.forall_mem_append.mpr ⟨hgap.quiet, hkind.quiet⟩

/-- There is no capital before the name of a handler. -/
theorem Announces.isUpper (h : Announces lead) :
    ∀ x ∈ lead, x.isUpper = false := by
  obtain ⟨before, more, rfl, hbefore, hmore⟩ := h.parts
  simp only [List.forall_mem_append]
  refine ⟨⟨fun x hx => ?_, by decide⟩, fun x hx => (hmore x hx).1⟩
  exact (quiet_of_isBlank (isBlank_of_isInline (hbefore x hx))).1

-- =========================================================== the methods

/-- The name of a method. -/
def IsVerb (verb : Text) : Prop := verb ∈ verbs.map String.toList

theorem IsVerb.capitals (h : IsVerb verb) :
    verb ≠ [] ∧ ∀ x ∈ verb, x.isUpper = true := by
  have hall : ∀ verb ∈ verbs.map String.toList, verb ≠ []
      ∧ ∀ x ∈ verb, x.isUpper = true := by
    decide
  exact hall verb h

/-- A request method is on one line. -/
theorem IsVerb.feed_not_mem (h : IsVerb verb) : '\n' ∉ verb :=
  fun hmem => absurd (h.capitals.2 '\n' hmem) (by decide)

/-- A request method is made of word characters. -/
theorem IsVerb.isWord (h : IsVerb verb) : ∀ x ∈ verb, Text.isWord x = true :=
  fun x hx => isWord_of_isUpper (h.capitals.2 x hx)

/-- The pattern of request methods spans just those. -/
theorem spans_verbs : (anyOf verbs).Spans behind verb rest ↔ IsVerb verb :=
  spans_anyOf

/-- The first capital letters of a text stand where they stand. -/
theorem eq_of_append_capitals {a a' w w' r r' : Text}
    (ha : ∀ x ∈ a, x.isUpper = false) (ha' : ∀ x ∈ a', x.isUpper = false)
    (hw : w ≠ [] ∧ ∀ x ∈ w, x.isUpper = true)
    (hw' : w' ≠ [] ∧ ∀ x ∈ w', x.isUpper = true)
    (h : a ++ (w ++ r) = a' ++ (w' ++ r')) : a = a' ∧ w ++ r = w' ++ r' := by
  obtain ⟨x, w, rfl⟩ := List.exists_cons_of_ne_nil hw.1
  obtain ⟨x', w', rfl⟩ := List.exists_cons_of_ne_nil hw'.1
  have hother {a : Text} (ha : ∀ x ∈ a, x.isUpper = false) :
      ∀ x ∈ a, ¬ x.isUpper = true := by
    intro x hx
    simp [ha x hx]
  obtain ⟨rfl, -⟩ := Text.eq_of_append_cons (hother ha) (hother ha')
    (hw.2 x List.mem_cons_self) (hw'.2 x' List.mem_cons_self) h
  exact ⟨rfl, List.append_cancel_left h⟩

-- =========================================================== declarations

/-- A handler for the method `verb` is declared in the text behind `before`: a
line starts there, `lead` announces the handler, and the name of the method is
a whole word. -/
structure HandlerAt (text before lead verb after : Text) : Prop where
  text_eq : text = before ++ (lead ++ (verb ++ after))
  startsLine : StartsLine before.getLast?
  announces : Announces lead
  isVerb : IsVerb verb
  whole : ∀ x ∈ after.head?, Text.isWord x = false

/-- A word ends where no word character follows. -/
theorem wordEdge_of_isWord (hu : u ≠ []) (hword : ∀ x ∈ u, Text.isWord x = true)
    (behind : Option Char) : wordEdge.Spans (u.getLast?.or behind) [] rest
      ↔ ∀ x ∈ rest.head?, Text.isWord x = false := by
  have hlast := hword _ (List.getLast_mem hu)
  rw [List.getLast?_eq_some_getLast hu]
  cases rest with
  | nil => simp [wordEdge, Spans, Anchor.holds, hlast]
  | cons y rest => simp [wordEdge, Spans, Anchor.holds, hlast]

/-- A declaration is what the search for handlers looks for. -/
theorem HandlerAt.spans (h : HandlerAt text before lead verb after) :
    handler.Spans before.getLast? (lead ++ verb) after := by
  have hedge := (wordEdge_of_isWord h.isVerb.capitals.1 h.isVerb.isWord
    (lead.getLast?.or before.getLast?)).mpr h.whole
  rw [← Option.or_assoc, ← List.getLast?_append] at hedge
  exact ⟨lead ++ verb, [], (List.append_nil _).symm,
    ⟨lead, verb, rfl, spans_leadPattern.mpr ⟨h.startsLine, h.announces⟩,
      spans_verbs.mpr h.isVerb⟩, hedge⟩

/-- A handler is what announces it and a request method. -/
theorem exists_of_spans_handler (h : handler.Spans behind u rest) :
    ∃ lead verb, u = lead ++ verb ∧ StartsLine behind ∧ Announces lead
      ∧ IsVerb verb := by
  obtain ⟨_, _, rfl, ⟨lead, verb, rfl, hlead, hverb⟩, rfl, -⟩ := h
  obtain ⟨hstart, hlead⟩ := spans_leadPattern.mp hlead
  exact ⟨lead, verb, List.append_nil _, hstart, hlead, spans_verbs.mp hverb⟩

/-- A match of the search is a declaration. -/
theorem exists_of_matchAt_handler {back : Text} (htext : text = before ++ back)
    (h : handler.matchAt ⟨before.getLast?.or none, 0 + before.length, back, []⟩
      = some m) :
    ∃ lead verb after, HandlerAt text before lead verb after ∧ Places .method
      ⟨before.getLast?.or none, 0 + before.length, back, []⟩ m lead verb
        [] after := by
  obtain ⟨lead, verb, _, after, hplaces, hlead, hverb, rfl, hedge⟩ :=
    exists_places rfl rfl rfl h
  obtain ⟨hstart, hlead⟩ := spans_leadPattern.mp hlead
  have hverb := spans_verbs.mp hverb
  have hback : back = lead ++ (verb ++ after) := hplaces.ahead
  refine ⟨lead, verb, after,
    ⟨by rw [htext, hback], ?_, hlead, hverb, ?_⟩, hplaces⟩
  · rwa [Option.or_none] at hstart
  · exact (wordEdge_of_isWord hverb.capitals.1 hverb.isWord _).mp ⟨rfl, hedge⟩

/-- A line that starts inside a declaration starts between `export` and the
method. -/
theorem exists_of_startsLine {x y : Char} {v w : Text} (hlead : Announces lead)
    (hverb : IsVerb verb) (hcut : x :: v ++ y :: w = lead ++ verb)
    (hstart : StartsLine (v.getLast?.or (some x))) :
    ∃ d, (∀ z ∈ d, Quiet z) ∧ y :: w = d ++ verb := by
  obtain ⟨ind, more, rfl, hind, hmore⟩ := hlead.parts
  rw [Cursor.getLast?_or_cons x v none] at hstart
  have hfeed : '\n' ∉ ind ++ "export".toList := by
    rw [List.mem_append, not_or]
    exact ⟨fun hmem => absurd (hind _ hmem) (by decide), by decide⟩
  rw [List.append_assoc] at hcut
  rcases List.append_eq_append_iff.mp hcut with ⟨a, hfront, -⟩
    | ⟨a, hfront, hbehind⟩
  · -- not before the end of `export`
    refine absurd hstart
      (not_startsLine_of_mem (List.cons_ne_nil x v) fun hmem => hfeed ?_)
    rw [hfront]
    exact List.mem_append_left a hmem
  · rcases List.append_eq_append_iff.mp hbehind with ⟨d, rfl, hverbs⟩
      | ⟨d, hd, hafter⟩
    · cases d with
      | nil => exact ⟨[], List.forall_mem_nil _, hverbs.symm⟩
      | cons z d =>
          -- not inside the method
          have hz : '\n' ∉ z :: d := by
            intro hmem
            have hupper :=
              hverb.capitals.2 '\n' (hverbs ▸ List.mem_append_left _ hmem)
            exact absurd hupper (by decide)
          rw [hfront, ← List.append_assoc, List.getLast?_append,
            Option.or_assoc] at hstart
          exact absurd hstart (not_startsLine_of_mem (List.cons_ne_nil z d) hz)
    · refine ⟨d, fun z hz => hmore z ?_, hafter⟩
      rw [hd]
      exact List.mem_append_right a hz

/-- `export` is written once in a declaration, so no other one starts in it. -/
theorem keepsApart_handler : handler.KeepsApart := by
  intro behind x u rest hspans v y w huvw
  obtain ⟨lead, verb, hcut, -, hlead, hverb⟩ := exists_of_spans_handler hspans
  refine misses_of_not_spans fun u' rest' hu' hspans' => ?_
  obtain ⟨lead', verb', rfl, hstart, hlead', hverb'⟩ :=
    exists_of_spans_handler hspans'
  rw [huvw] at hcut
  obtain ⟨d, hd, hrest⟩ := exists_of_startsLine hlead hverb hcut hstart
  rw [hrest, List.append_assoc, List.append_assoc] at hu'
  obtain ⟨rfl, -⟩ := eq_of_append_capitals (fun z hz => (hd z hz).1)
    hlead'.isUpper hverb.capitals hverb'.capitals hu'
  obtain ⟨ind, more, heq, -⟩ := hlead'.parts
  have hx : 'x' ∈ d := by
    rw [heq]
    exact List.mem_append_left more (List.mem_append_right ind (by decide))
  exact (hd 'x' hx).2 rfl

theorem namesByLine_handler : NamesByLine handler .method where
  lineBound :=
    (((((lineBound_lineStart.append (many Text.isInline)).append _).append
      _).append _).append _).append _
  consumes := by
    refine (Consumes.append_right _ fun behind rest h => ?_).append_left _
    exact (spans_verbs.mp h).capitals.1 rfl
  names := by
    intro c m h
    obtain ⟨lead, verb, _, after, hplaces, -, hverb, rfl, -⟩ :=
      exists_places rfl rfl rfl h
    have hverb := spans_verbs.mp hverb
    refine ⟨lead, verb, [], after, hplaces, hverb.feed_not_mem, ?_⟩
    rw [hplaces.text, List.append_nil, List.getLast?_append,
      List.getLast?_eq_some_getLast hverb.capitals.1, Option.some_or]
    intro heq
    exact hverb.feed_not_mem
      (Option.some.inj heq ▸ List.getLast_mem hverb.capitals.1)

-- ============================================================== the lines

/-- A handler for the method is declared on the line. -/
def DeclaredOn (text verb : Text) (line : Nat) : Prop :=
  ∃ before lead after, HandlerAt text before lead verb after
    ∧ line = (before ++ lead).count '\n' + 1

/-- A declaration can be read in one way only. -/
theorem HandlerAt.unique {lead' verb' after' : Text}
    (h : HandlerAt text before lead verb after)
    (h' : HandlerAt text before lead' verb' after') :
    lead = lead' ∧ verb = verb' := by
  have hcut := List.append_cancel_left (h.text_eq.symm.trans h'.text_eq)
  obtain ⟨rfl, hverbs⟩ :=
    eq_of_append_capitals h.announces.isUpper h'.announces.isUpper
      h.isVerb.capitals h'.isVerb.capitals hcut
  refine ⟨rfl, ?_⟩
  have hword {w r : Text} (hw : ∀ x ∈ w, Text.isWord x = true)
      (hr : ∀ x ∈ r.head?, Text.isWord x = false) :
      (w ++ r).takeWhile Text.isWord = w := by
    rw [List.takeWhile_append_of_pos hw]
    cases r with
    | nil => exact List.append_nil w
    | cons x r =>
        rw [List.takeWhile_cons_of_neg (by simp [hr x rfl]), List.append_nil]
  rw [← hword h.isVerb.isWord h.whole, hverbs, hword h'.isVerb.isWord h'.whole]

/-- What the scan captures at a declaration. -/
theorem HandlerAt.captured {back : Text}
    (h : HandlerAt text before lead verb after) (htext : text = before ++ back)
    (hplaces : Places .method
      ⟨before.getLast?.or none, 0 + before.length, back, []⟩ m lead verb []
        after) :
    (m.capture? .method).map (fun x => (x.text, text.lineAt x.start))
      = some (verb, (before ++ lead).count '\n' + 1) := by
  have hline := (hplaces.onLine h.isVerb.feed_not_mem htext (Nat.zero_add _)).1
  rw [hplaces.capture]
  exact congrArg (fun line => some (verb, line)) hline

/-- The scan finds the declarations of a text, and no others. -/
theorem mem_located_handler_iff {line : Nat} :
    (verb, line) ∈ located handler .method text
      ↔ DeclaredOn text verb line := by
  have hscans := scans_findAllFrom namesByLine_handler.consumes none 0 text
  constructor
  · intro h
    obtain ⟨m, hm, hentry⟩ := List.mem_filterMap.mp h
    obtain ⟨before, back, htext, hat⟩ := hscans.exists_of_mem hm
    obtain ⟨lead, name, after, hhandler, hplaces⟩ :=
      exists_of_matchAt_handler htext hat
    rw [hhandler.captured htext hplaces] at hentry
    obtain ⟨rfl, rfl⟩ := Prod.mk.inj (Option.some.inj hentry)
    exact ⟨before, lead, after, hhandler, rfl⟩
  · rintro ⟨before, lead, after, h, rfl⟩
    have hwritten :
        ¬ handler.Misses (before.getLast?.or none)
          (lead ++ (verb ++ after)) := by
      rw [Option.or_none]
      exact fun hmisses =>
        misses_iff.mp hmisses (lead ++ verb) after (by simp) h.spans
    have hne : lead ++ (verb ++ after) ≠ [] :=
      List.append_ne_nil_of_right_ne_nil lead
        (List.append_ne_nil_of_left_ne_nil h.isVerb.capitals.1 after)
    obtain ⟨m, hm, hat⟩ :=
      hscans.exists_matchAt keepsApart_handler h.text_eq hne hwritten
    obtain ⟨lead', name, after', hhandler, hplaces⟩ :=
      exists_of_matchAt_handler h.text_eq hat
    obtain ⟨rfl, rfl⟩ := h.unique hhandler
    exact List.mem_filterMap.mpr ⟨m, hm, hhandler.captured h.text_eq hplaces⟩

/-- The first declaration of a method is on the line. -/
def FirstDeclaredOn (text verb : Text) (line : Nat) : Prop :=
  DeclaredOn text verb line ∧ ∀ other, DeclaredOn text verb other → line ≤ other

/-- Where the handlers of a text are declared first, by method. -/
def firstHandlers (text : Text) : Table Nat :=
  Table.empty.collect Table.first (located handler .method text)

/-- Handlers are listed by the names of their methods. -/
theorem handlerLines_eq (text : Text) :
    handlerLines text = (firstHandlers text).sorted :=
  congrArg Table.sorted
    (Table.foldl_put_new Table.empty (located handler .method text))

/-- For each method the line of its first declaration is reported. -/
theorem mem_handlerLines_iff {line : Nat} :
    (verb, line) ∈ handlerLines text ↔ FirstDeclaredOn text verb line := by
  rw [handlerLines_eq, (Table.sorted_perm _).mem_iff, ← Table.get?_eq_some_iff,
    firstHandlers, Table.get?_collect_first, Table.get?_empty, Option.none_or,
    lookup_eq_some_iff_of_increasing
    (namesByLine_handler.pairwise_located text)]
  simp only [mem_located_handler_iff]
  exact Iff.rfl

theorem nodup_handlerLines (text : Text) :
    ((handlerLines text).map (·.1)).Nodup := by
  rw [handlerLines_eq]
  exact ((Table.sorted_perm _).map _).nodup_iff.mpr
    (firstHandlers text).distinct

end SourceAtlas.Route
