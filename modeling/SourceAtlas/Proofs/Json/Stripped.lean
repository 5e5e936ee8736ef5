/-
What dropping comments and trailing commas does to a document that has neither.

The first search keeps every literal together, so such a document passes it
unchanged. The second one does not know literals. Between the literals it finds
nothing: behind a comma of the grammar an element comes, and an element starts
with neither blank nor closing bracket (`tidy_append`). Inside a literal it
drops each comma before a bracket, and what is left can still be read
(`Readable.dropTrailing`). So the result is a document of the same shape, and
it is the same text exactly if no literal holds such a comma.

The four kinds of derivations of the grammar are walked three times, once for
each of these facts about their pieces.
-/
import SourceAtlas.Proofs.Json.Grammar

namespace SourceAtlas.Json

open Pattern (among)

variable {t u body rest : Text} {v : Json} {b : Bracket} {pieces : List Piece}

-- ================================================== ordinary characters

/-- Opens neither literal nor comment, and is no comma. -/
def Ordinary (c : Char) : Prop := c ≠ '\x22' ∧ c ≠ '/' ∧ c ≠ ','

instance (c : Char) : Decidable (Ordinary c) :=
  inferInstanceAs (Decidable (_ ∧ _))

/-- Digits take part in no comment, literal or trailing comma. -/
theorem ordinary_of_isDigit {c : Char} (h : isDigit c = true) : Ordinary c :=
  ⟨ne_of_isDigit h (by decide), ne_of_isDigit h (by decide),
    ne_of_isDigit h (by decide)⟩

theorem Spaces.ordinary (h : Spaces t) : ∀ c ∈ t, Ordinary c := by
  intro c hc
  have hspace := h c hc
  simp only [isSpace, Bool.or_eq_true, beq_iff_eq] at hspace
  rcases hspace with ((rfl | rfl) | rfl) | rfl
  all_goals decide

theorem IsDigits.ordinary (h : IsDigits u) : ∀ c ∈ u, Ordinary c :=
  fun c hc => ordinary_of_isDigit (h.digits c hc)

theorem IsWhole.ordinary (h : IsWhole u) : ∀ c ∈ u, Ordinary c := by
  rcases h with rfl | ⟨hdigits, -⟩
  · rw [List.forall_mem_singleton]
    decide
  · exact hdigits.ordinary

theorem IsExponent.ordinary (h : IsExponent u) : ∀ c ∈ u, Ordinary c := by
  obtain @⟨e, sign, d, he, hsign, hd⟩ := h
  have hfirst : Ordinary e := by
    rcases he with rfl | rfl
    all_goals decide
  have hsecond : ∀ c ∈ sign, Ordinary c := by
    rcases hsign with rfl | rfl | rfl
    · exact List.forall_mem_nil _
    · exact List.forall_mem_singleton.mpr (by decide)
    · exact List.forall_mem_singleton.mpr (by decide)
  simp only [List.forall_mem_cons, List.forall_mem_append]
  exact ⟨hfirst, hsecond, hd.ordinary⟩

theorem Numeral.ordinary (h : Numeral u) : ∀ c ∈ u, Ordinary c := by
  have hpoint : Ordinary '.' := by decide
  cases h with
  | whole hw => exact hw.ordinary
  | power hw hx =>
      rw [List.forall_mem_append]
      exact ⟨hw.ordinary, hx.ordinary⟩
  | fraction hw hf =>
      rw [List.forall_mem_append, List.forall_mem_cons]
      exact ⟨hw.ordinary, hpoint, hf.ordinary⟩
  | fractionPower hw hf hx =>
      rw [List.forall_mem_append, List.forall_mem_cons, List.forall_mem_append]
      exact ⟨hw.ordinary, hpoint, hf.ordinary, hx.ordinary⟩

theorem ordinary_of_mem_wordLiterals {word : String}
    (h : (word, v) ∈ wordLiterals) : ∀ c ∈ word.toList, Ordinary c := by
  have hall :
      wordLiterals.all (fun p => p.1.toList.all fun c => decide (Ordinary c))
        = true := by
    decide
  intro c hc
  exact of_decide_eq_true
    (List.all_eq_true.mp (List.all_eq_true.mp hall _ h) c hc)

/-- Brackets are ordinary: only a comma before one is not. -/
theorem Bracket.ordinary (b : Bracket) :
    Ordinary b.opening ∧ Ordinary b.closing := by
  cases b with
  | array => decide
  | object => decide

-- ====================================================== trailing commas

/-- Holds a comma whose next character that is no blank closes a bracket. -/
def HoldsTrailingComma (t : Text) : Prop :=
  ∃ before after, t = before ++ ',' :: after ∧ closesNext after = true

theorem dropTrailing_sublist (t : Text) : List.Sublist (dropTrailing t) t := by
  induction t with
  | nil => exact .slnil
  | cons c t ih =>
      rw [dropTrailing]
      split
      case isTrue => exact ih.cons c
      case isFalse => exact ih.cons_cons c

/-- A trailing comma stands in front or further on. -/
theorem holdsTrailingComma_cons {c : Char} :
    HoldsTrailingComma (c :: t)
      ↔ (c = ',' ∧ closesNext t = true) ∨ HoldsTrailingComma t := by
  constructor
  · rintro ⟨before, after, h, hnext⟩
    cases before with
    | nil =>
        injection h with hc ht
        rw [ht]
        exact .inl ⟨hc, hnext⟩
    | cons d before =>
        injection h with _ ht
        exact .inr ⟨before, after, ht, hnext⟩
  · rintro (⟨rfl, hnext⟩ | ⟨before, after, rfl, hnext⟩)
    · exact ⟨[], t, rfl, hnext⟩
    · exact ⟨c :: before, after, rfl, hnext⟩

/-- A text stays as it is exactly if it holds no trailing comma. -/
theorem dropTrailing_eq_self_iff :
    dropTrailing t = t ↔ ¬ HoldsTrailingComma t := by
  induction t with
  | nil =>
      refine ⟨fun _ => ?_, fun _ => rfl⟩
      rintro ⟨before, after, h, -⟩
      simp at h
  | cons c t ih =>
      rw [holdsTrailingComma_cons, dropTrailing]
      by_cases h : c = ',' ∧ closesNext t = true
      · obtain ⟨rfl, hnext⟩ := h
        have hshort : dropTrailing t ≠ ',' :: t := by
          intro heq
          have hlength := (dropTrailing_sublist t).length_le
          rw [heq, List.length_cons] at hlength
          omega
        simp [hnext, hshort]
      · simp [h, ih]

/-- What can be read can be read without its trailing commas: a comma is never
part of an escape. -/
theorem Readable.dropTrailing (h : Readable body) :
    Readable (dropTrailing body) := by
  induction h with
  | nil => exact .nil
  | @plain c body hquote hslash hcontrol h ih =>
      rw [Json.dropTrailing]
      split
      case isTrue => exact ih
      case isFalse => exact .plain hquote hslash hcontrol ih
  | @letter e c body he h ih =>
      have hcomma : ',' ∉ ['\x5c', e] := by
        simp only [List.mem_cons, List.not_mem_nil, or_false, not_or]
        refine ⟨by decide, ?_⟩
        rintro rfl
        cases he
      have hdrop := dropTrailing_append_of_not_mem hcomma body
      simp only [List.cons_append, List.nil_append] at hdrop
      rw [hdrop]
      exact .letter he ih
  | @unit digits body hdigits h ih =>
      have hcomma : ',' ∉ '\x5c' :: 'u' :: digits := by
        simp only [List.mem_cons, not_or]
        exact ⟨by decide, by decide, fun hmem => (hdigits.ne hmem).2.2 rfl⟩
      have hdrop := dropTrailing_append_of_not_mem hcomma body
      simp only [List.cons_append] at hdrop
      rw [hdrop]
      exact .unit hdigits ih

-- ================================================ the pieces of a document

/-- The search for comments passes over this piece. -/
def Piece.Passed (p : Piece) : Prop := p.Valid ∧ p.isComment = false

/-- Single characters are passed over unless they open a literal or a
comment. -/
theorem passed_chars (h : ∀ c ∈ t, c ≠ '\x22' ∧ c ≠ '/') :
    ∀ p ∈ chars t, p.Passed := by
  intro p hp
  obtain ⟨c, hc, rfl⟩ := List.mem_map.mp hp
  exact ⟨h c hc, rfl⟩

theorem passed_ordinary (h : ∀ c ∈ t, Ordinary c) : ∀ p ∈ chars t, p.Passed :=
  passed_chars fun c hc => ⟨(h c hc).1, (h c hc).2.1⟩

/-- A sign of the grammar with white space around it. -/
theorem passed_sign {before after : Text} {c : Char} (hbefore : Spaces before)
    (hafter : Spaces after) (hc : c ≠ '\x22' ∧ c ≠ '/') :
    ∀ p ∈ chars (before ++ c :: after), p.Passed := by
  refine passed_chars ?_
  rw [List.forall_mem_append, List.forall_mem_cons]
  exact ⟨fun d hd => ⟨(hbefore.ordinary d hd).1, (hbefore.ordinary d hd).2.1⟩,
    hc, fun d hd => ⟨(hafter.ordinary d hd).1, (hafter.ordinary d hd).2.1⟩⟩

/-- A literal is passed over as a whole. -/
theorem Readable.passed (h : Readable body) : (Piece.literal body).Passed :=
  ⟨h.quotable, rfl⟩

mutual

/-- All pieces of a value are passed over, since there is no comment in it. -/
theorem IsValue.passed :
    ∀ {pieces : List Piece}, IsValue pieces → ∀ p ∈ pieces, p.Passed
  | _, .string h => by
      rw [List.forall_mem_singleton]
      exact h.passed
  | _, .word h => passed_ordinary (ordinary_of_mem_wordLiterals h)
  | _, .positive h => passed_ordinary h.ordinary
  | _, .negative h => by
      refine passed_ordinary ?_
      rw [List.forall_mem_cons]
      exact ⟨by decide, h.ordinary⟩
  | _, .empty b hblanks => by
      refine passed_ordinary ?_
      rw [List.forall_mem_append, List.forall_mem_cons,
        List.forall_mem_singleton]
      exact ⟨⟨b.ordinary.1, hblanks.ordinary⟩, b.ordinary.2⟩
  | _, .full hblanks h => by
      rw [List.forall_mem_append]
      refine ⟨passed_ordinary ?_, h.passed⟩
      rw [List.forall_mem_cons]
      exact ⟨(Bracket.ordinary _).1, hblanks.ordinary⟩

theorem IsElement.passed :
    ∀ {b : Bracket} {pieces : List Piece}, IsElement b pieces →
    ∀ p ∈ pieces, p.Passed
  | _, _, .item h => h.passed
  | _, _, .member hkey hbefore hafter h => by
      rw [List.forall_mem_cons, List.forall_mem_append]
      exact ⟨hkey.passed, passed_sign hbefore hafter (by decide), h.passed⟩

theorem AreElements.passed :
    ∀ {b : Bracket} {pieces : List Piece}, AreElements b pieces →
    ∀ p ∈ pieces, p.Passed
  | b, _, .last h hblanks => by
      rw [List.forall_mem_append]
      exact ⟨h.passed, passed_sign hblanks (by simp [Spaces])
        ⟨b.ordinary.2.1, b.ordinary.2.2.1⟩⟩
  | _, _, .more h hbefore hafter hrest => by
      rw [List.forall_mem_append, List.forall_mem_append]
      exact ⟨h.passed, passed_sign hbefore hafter (by decide), hrest.passed⟩

end

theorem IsDocument.passed (h : IsDocument pieces) : ∀ p ∈ pieces, p.Passed := by
  obtain ⟨hbefore, hvalue, hafter⟩ := h
  rw [List.forall_mem_append, List.forall_mem_append]
  exact ⟨passed_ordinary hbefore.ordinary, hvalue.passed,
    passed_ordinary hafter.ordinary⟩

-- ============================================== literals without commas

/-- Nothing is taken out of single characters. -/
@[simp] theorem map_squeezed_chars (t : Text) :
    (chars t).map Piece.squeezed = chars t := by
  unfold chars
  rw [List.map_map]
  rfl

mutual

/-- A value stays one when the commas in its literals are taken out. -/
theorem IsValue.squeezed : ∀ {pieces : List Piece}, IsValue pieces →
    IsValue (pieces.map Piece.squeezed)
  | _, .string h => .string h.dropTrailing
  | _, .word h => by
      rw [map_squeezed_chars]
      exact .word h
  | _, .positive h => by
      rw [map_squeezed_chars]
      exact .positive h
  | _, .negative h => by
      rw [map_squeezed_chars]
      exact .negative h
  | _, .empty b hblanks => by
      rw [map_squeezed_chars]
      exact .empty b hblanks
  | _, .full hblanks h => by
      rw [List.map_append, map_squeezed_chars]
      exact .full hblanks h.squeezed

theorem IsElement.squeezed :
    ∀ {b : Bracket} {pieces : List Piece}, IsElement b pieces →
    IsElement b (pieces.map Piece.squeezed)
  | _, _, .item h => .item h.squeezed
  | _, _, .member hkey hbefore hafter h => by
      rw [List.map_cons, List.map_append, map_squeezed_chars]
      exact .member hkey.dropTrailing hbefore hafter h.squeezed

theorem AreElements.squeezed :
    ∀ {b : Bracket} {pieces : List Piece}, AreElements b pieces →
    AreElements b (pieces.map Piece.squeezed)
  | _, _, .last h hblanks => by
      rw [List.map_append, map_squeezed_chars]
      exact .last h.squeezed hblanks
  | _, _, .more h hbefore hafter hrest => by
      rw [List.map_append, List.map_append, map_squeezed_chars]
      exact .more h.squeezed hbefore hafter hrest.squeezed

end

theorem IsDocument.squeezed (h : IsDocument pieces) :
    IsDocument (pieces.map Piece.squeezed) := by
  obtain ⟨hbefore, hvalue, hafter⟩ := h
  rw [List.map_append, List.map_append, map_squeezed_chars, map_squeezed_chars]
  exact .mk hbefore hvalue.squeezed hafter

-- ===================================================== between the literals

theorem tidy_chars (h : ∀ c ∈ t, Ordinary c) (rest : List Piece) :
    tidy (chars t ++ rest) = t ++ tidy rest := by
  induction t with
  | nil => rfl
  | cons c t ih =>
      obtain ⟨hc, ht⟩ := List.forall_mem_cons.mp h
      show tidy (.char c :: (chars t ++ rest)) = c :: (t ++ tidy rest)
      rw [tidy, if_neg fun hboth => hc.2.2 hboth.1, ih ht]

/-- No bracket closes where a value begins. -/
theorem closesNext_of_begins {blanks : Text} (hblanks : Spaces blanks)
    (h : Begins t) : closesNext (blanks ++ t) = false := by
  obtain ⟨c, more, rfl, hblank, hclose⟩ := h
  rw [closesNext_append_cons hblank hclose]
  have hnone : blanks.find? (fun d => !Text.isBlank d) = none := by
    refine List.find?_eq_none.mpr fun d hd => ?_
    simp [isBlank_of_isSpace (hblanks d hd)]
  rw [closesNext, hnone]
  rfl

/-- Dropping comments keeps what is passed over. -/
theorem textOf_kept_append (h : ∀ p ∈ pieces, p.Passed) (rest : List Piece) :
    textOf (kept (pieces ++ rest)) = textOf pieces ++ textOf (kept rest) := by
  have hself : pieces.filter (fun p => !p.isComment) = pieces :=
    List.filter_eq_self.mpr fun p hp => by simp [(h p hp).2]
  rw [kept, List.filter_append, hself, textOf_append]
  rfl

/-- A comma in front of an element is not trailing. -/
theorem tidy_comma {after : Text} (hafter : Spaces after)
    (hbegins : Begins (textOf pieces)) (hpassed : ∀ p ∈ pieces, p.Passed)
    (rest : List Piece) :
    tidy (.char ',' :: (chars after ++ (pieces ++ rest)))
      = ',' :: (after ++ tidy (pieces ++ rest)) := by
  have hnext : closesNext (textOf (kept (chars after ++ (pieces ++ rest))))
      = false := by
    rw [textOf_kept_append (passed_ordinary hafter.ordinary), textOf_chars,
      textOf_kept_append hpassed]
    exact closesNext_of_begins hafter (hbegins.append _)
  rw [tidy, hnext, tidy_chars hafter.ordinary]
  simp

mutual

/-- A value is kept as it is spelled: none of its commas is trailing. -/
theorem IsValue.tidy_append :
    ∀ {pieces : List Piece}, IsValue pieces → ∀ rest : List Piece,
    tidy (pieces ++ rest) = textOf pieces ++ tidy rest
  | _, .string _, rest => by simp [tidy, textOf_cons]
  | _, .word h, rest => by
      rw [tidy_chars (ordinary_of_mem_wordLiterals h), textOf_chars]
  | _, .positive h, rest => by
      rw [tidy_chars h.ordinary, textOf_chars]
  | _, .negative h, rest => by
      rw [tidy_chars (List.forall_mem_cons.mpr ⟨by decide, h.ordinary⟩),
        textOf_chars]
  | _, .empty b hblanks, rest => by
      rw [tidy_chars, textOf_chars]
      rw [List.forall_mem_append, List.forall_mem_cons,
        List.forall_mem_singleton]
      exact ⟨⟨b.ordinary.1, hblanks.ordinary⟩, b.ordinary.2⟩
  | _, .full hblanks h, rest => by
      rw [List.append_assoc, tidy_chars, h.tidy_append, textOf_append,
        textOf_chars, List.append_assoc]
      rw [List.forall_mem_cons]
      exact ⟨(Bracket.ordinary _).1, hblanks.ordinary⟩

theorem IsElement.tidy_append :
    ∀ {b : Bracket} {pieces : List Piece}, IsElement b pieces →
    ∀ rest : List Piece, tidy (pieces ++ rest) = textOf pieces ++ tidy rest
  | _, _, .item h, rest => h.tidy_append rest
  | _, _, .member hkey hbefore hafter h, rest => by
      have hcolon : ∀ c ∈ _ ++ ':' :: _, Ordinary c :=
        List.forall_mem_append.mpr ⟨hbefore.ordinary,
          List.forall_mem_cons.mpr ⟨by decide, hafter.ordinary⟩⟩
      rw [List.cons_append, tidy, List.append_assoc, tidy_chars hcolon,
        h.tidy_append]
      simp [textOf_cons]

theorem AreElements.tidy_append :
    ∀ {b : Bracket} {pieces : List Piece}, AreElements b pieces →
    ∀ rest : List Piece, tidy (pieces ++ rest) = textOf pieces ++ tidy rest
  | b, _, .last h hblanks, rest => by
      have hclose : ∀ c ∈ _ ++ [b.closing], Ordinary c :=
        List.forall_mem_append.mpr
          ⟨hblanks.ordinary, List.forall_mem_singleton.mpr b.ordinary.2⟩
      rw [List.append_assoc, h.tidy_append, tidy_chars hclose]
      simp
  | _, _, @AreElements.more _ element elements before after h hbefore hafter
      hmore, rest => by
      have hsplit :
          element ++ (chars (before ++ ',' :: after) ++ elements) ++ rest
            = element ++ (chars before
              ++ .char ',' :: (chars after ++ (elements ++ rest))) := by
        simp [chars]
      rw [hsplit, h.tidy_append, tidy_chars hbefore.ordinary,
        tidy_comma hafter hmore.begins hmore.passed, hmore.tidy_append]
      simp

end

theorem IsDocument.tidy_eq (h : IsDocument pieces) :
    tidy pieces = textOf pieces := by
  obtain @⟨before, after, value, hbefore, hvalue, hafter⟩ := h
  have hlast : tidy (chars after) = after := by
    simpa [tidy] using tidy_chars hafter.ordinary []
  rw [tidy_chars hbefore.ordinary, hvalue.tidy_append, hlast]
  simp

-- ======================================================= the whole text

/-- Every line comment among the pieces ends, because there is none. -/
theorem linesEnd_of_passed (h : ∀ p ∈ pieces, p.Passed) : LinesEnd pieces := by
  induction pieces with
  | nil => trivial
  | cons p rest ih =>
      obtain ⟨hp, hrest⟩ := List.forall_mem_cons.mp h
      cases p with
      | literal body => exact ih hrest
      | lineComment body => cases hp.2
      | blockComment body => cases hp.2
      | char c => exact ih hrest

/-- Stripping a document takes the trailing commas out of its literals and
changes nothing else. -/
theorem IsDocument.stripComments_eq (h : IsDocument pieces) :
    stripComments (textOf pieces) = textOf (pieces.map Piece.squeezed) := by
  rw [stripComments_textOf (fun p hp => (h.passed p hp).1)
    (linesEnd_of_passed h.passed)]
  exact h.squeezed.tidy_eq

theorem Piece.text_squeezed_sublist (p : Piece) :
    List.Sublist p.squeezed.text p.text := by
  cases p with
  | literal body =>
      exact ((dropTrailing_sublist body).append_right _).cons_cons _
  | lineComment body => exact List.Sublist.refl _
  | blockComment body => exact List.Sublist.refl _
  | char c => exact List.Sublist.refl _

theorem textOf_squeezed_sublist (pieces : List Piece) :
    List.Sublist (textOf (pieces.map Piece.squeezed)) (textOf pieces) := by
  induction pieces with
  | nil => exact .slnil
  | cons p rest ih =>
      rw [List.map_cons, textOf_cons, textOf_cons]
      exact p.text_squeezed_sublist.append ih

/-- A piece stays as it is unless it is a literal that holds a trailing
comma. -/
theorem Piece.text_squeezed_eq_iff (p : Piece) :
    p.squeezed.text = p.text
      ↔ ∀ body, p = .literal body → ¬ HoldsTrailingComma body := by
  cases p with
  | literal body =>
      simp only [Piece.squeezed, Piece.text, List.cons_append, List.cons.injEq,
        true_and, List.append_left_inj, dropTrailing_eq_self_iff,
        Piece.literal.injEq]
      exact ⟨fun h other heq => heq ▸ h, fun h => h body rfl⟩
  | lineComment body => simp [Piece.squeezed]
  | blockComment body => simp [Piece.squeezed]
  | char c => simp [Piece.squeezed]

/-- Texts of pieces only get shorter, so the whole is the same exactly if each
part is. -/
theorem textOf_squeezed_eq_iff :
    textOf (pieces.map Piece.squeezed) = textOf pieces
      ↔ ∀ body, .literal body ∈ pieces → ¬ HoldsTrailingComma body := by
  induction pieces with
  | nil => simp
  | cons p rest ih =>
      have hboth : textOf ((p :: rest).map Piece.squeezed) = textOf (p :: rest)
          ↔ p.squeezed.text = p.text
            ∧ textOf (rest.map Piece.squeezed) = textOf rest := by
        rw [List.map_cons, textOf_cons, textOf_cons]
        refine ⟨fun h => ?_, fun h => by rw [h.1, h.2]⟩
        have hlength := congrArg List.length h
        have hp := p.text_squeezed_sublist.length_le
        have hrest := (textOf_squeezed_sublist rest).length_le
        rw [List.length_append, List.length_append] at hlength
        exact List.append_inj h (by omega)
      rw [hboth, p.text_squeezed_eq_iff, ih]
      constructor
      · rintro ⟨hp, hrest⟩ body hbody
        rcases List.mem_cons.mp hbody with heq | hmem
        · exact hp body heq.symm
        · exact hrest body hmem
      · intro h
        exact ⟨fun body heq => h body (heq ▸ List.mem_cons_self),
          fun body hmem => h body (List.mem_cons_of_mem _ hmem)⟩

/-- A text that can be read loses nothing between its literals, and inside each
literal the commas whose next character that is no blank closes a bracket. So
what is left can be read as well, and it is the same text, with the same value,
as long as no literal holds such a comma. -/
theorem stripping_reaches_into_literals (h : read t = .ok v) :
    ∃ pieces, IsDocument pieces ∧ t = textOf pieces
      ∧ stripComments t = textOf (pieces.map Piece.squeezed)
      ∧ (∃ w, read (stripComments t) = .ok w)
      ∧ (stripComments t = t
        ↔ ∀ body, .literal body ∈ pieces → ¬ HoldsTrailingComma body)
      ∧ ((∀ body, .literal body ∈ pieces → ¬ HoldsTrailingComma body) →
          read (stripComments t) = .ok v) := by
  obtain ⟨pieces, hpieces, rfl⟩ := exists_isDocument_of_read h
  have hsame : stripComments (textOf pieces) = textOf pieces
      ↔ ∀ body, .literal body ∈ pieces → ¬ HoldsTrailingComma body := by
    rw [hpieces.stripComments_eq]
    exact textOf_squeezed_eq_iff
  refine ⟨pieces, hpieces, rfl, hpieces.stripComments_eq, ?_, hsame, ?_⟩
  · rw [hpieces.stripComments_eq]
    exact hpieces.squeezed.exists_read
  · intro hliterals
    rw [hsame.mpr hliterals]
    exact h

/-- An empty array and a string of two characters, of which the comma goes. -/
def commaInLiteral : List Piece :=
  [.char '[', .char '[', .char ']', .char ',', .char ' ',
    .literal [',', ']'], .char ']']

theorem read_commaInLiteral :
    read (textOf commaInLiteral)
      = .ok (.array [.array [], .string [',', ']']]) := by
  cbv

theorem stripping_reaches_into_literals_comma :
    read (textOf commaInLiteral) = .ok (.array [.array [], .string [',', ']']])
      ∧ ∃ w, read (stripComments (textOf commaInLiteral)) = .ok w := by
  obtain ⟨pieces, -, -, -, hafter, -, -⟩ :=
    stripping_reaches_into_literals read_commaInLiteral
  exact ⟨read_commaInLiteral, hafter⟩

/-- A string that can be read need not stay as it is. -/
theorem stripping_changes_strings :
    ¬ ∀ t v, read t = .ok v → read (stripComments t) = .ok v := by
  intro h
  have hstrip : stripComments (textOf commaInLiteral)
      = ['[', '[', ']', ',', ' ', '\x22', ']', '\x22', ']'] := by
    have hbody : Quotable [',', ']'] :=
      .plain (by decide) (by decide) (.plain (by decide) (by decide) .nil)
    rw [stripComments_textOf]
    · decide
    · simp [commaInLiteral, Piece.Valid, hbody]
    · simp [commaInLiteral, LinesEnd]
  have hshort : read ['[', '[', ']', ',', ' ', '\x22', ']', '\x22', ']']
      = .ok (.array [.array [], .string [']']]) := by
    cbv
  have hafter := h _ _ read_commaInLiteral
  rw [hstrip, hshort] at hafter
  simp at hafter

end SourceAtlas.Json
