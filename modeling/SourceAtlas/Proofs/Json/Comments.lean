/-
Documents with comments, piece by piece: string literals, line and block
comments, and single characters. Dropping comments and trailing commas runs
two searches over the text, one after the other, and neither knows of the
pieces.

- The first search stays in step with the pieces: at the start of each it
  settles on just that piece, or on nothing at a single character
  (`replaceAllFrom_stringOrComment`).
- The second one drops a comma exactly if the next character that is no blank
  closes a bracket, wherever that comma stands (`replaceAll_trailingComma`);
  a string literal ends in a quote, so nothing behind it matters to the
  commas inside it (`dropTrailing_textOf`).

So a document loses its comments and its trailing commas and nothing else as
long as its literals hold no trailing comma of their own. Consumed by the
theory of what the reader accepts.
-/
import SourceAtlas.Json.Reader
import SourceAtlas.Proofs.Pattern.Preferred

namespace SourceAtlas.Json

-- ================================================================ pieces

/-- A piece of a document with comments. -/
inductive Piece where
  /-- A string literal, by what stands between its quotes. -/
  | literal (body : Text)
  /-- A comment up to the end of its line. -/
  | lineComment (body : Text)
  /-- A comment between its two signs. -/
  | blockComment (body : Text)
  /-- Any other character. -/
  | char (c : Char)
  deriving DecidableEq, Repr

/-- What can stand between quotes: characters other than quote and backslash,
and pairs of a backslash and any character. -/
inductive Quotable : Text → Prop where
  | nil : Quotable []
  | plain {c : Char} {body : Text} (hquote : c ≠ '\x22') (hslash : c ≠ '\x5c')
      (h : Quotable body) : Quotable (c :: body)
  | escaped {body : Text} (c : Char) (h : Quotable body) :
      Quotable ('\x5c' :: c :: body)

namespace Piece

/-- The text of a piece. -/
def text : Piece → Text
  | literal body => '\x22' :: body ++ ['\x22']
  | lineComment body => '/' :: '/' :: body
  | blockComment body => '/' :: '*' :: body ++ ['*', '/']
  | char c => [c]

/-- Whether a piece is a comment. -/
def isComment : Piece → Bool
  | lineComment _ => true
  | blockComment _ => true
  | _ => false

/-- A piece ends where its text does: no literal and no comment is closed
before its end, and no other character opens one. -/
def Valid : Piece → Prop
  | literal body => Quotable body
  | lineComment body => '\n' ∉ body
  | blockComment body => ¬ ['*', '/'] <:+: body
  | char c => c ≠ '\x22' ∧ c ≠ '/'

end Piece

/-- Every line comment is followed by the end of its line or of the text. -/
def LinesEnd : List Piece → Prop
  | [] => True
  | .lineComment _ :: rest =>
    (rest.head? = none ∨ rest.head? = some (.char '\n')) ∧ LinesEnd rest
  | _ :: rest => LinesEnd rest

/-- The text of some pieces. -/
def textOf (pieces : List Piece) : Text := pieces.flatMap Piece.text

/-- The pieces that are no comments. -/
def kept (pieces : List Piece) : List Piece :=
  pieces.filter fun p => !p.isComment

/-- Whether the first character that is no blank closes a bracket. -/
def closesNext (t : Text) : Bool :=
  (t.find? fun c => !Text.isBlank c).any (Pattern.among ['\x7d', ']'])

/-- The pieces without comments, and without each comma whose next character
that is no blank, comments apart, closes a bracket. -/
def tidy : List Piece → Text
  | [] => []
  | .literal body :: rest => (Piece.literal body).text ++ tidy rest
  | .lineComment _ :: rest => tidy rest
  | .blockComment _ :: rest => tidy rest
  | .char c :: rest =>
    if c = ',' ∧ closesNext (textOf (kept rest)) = true then tidy rest
    else c :: tidy rest

/-- A text without each comma whose next character that is no blank closes a
bracket. -/
def dropTrailing : Text → Text
  | [] => []
  | c :: rest =>
    if c = ',' ∧ closesNext rest = true then dropTrailing rest
    else c :: dropTrailing rest

/-- A literal loses the commas before closing brackets in it. -/
def Piece.squeezed : Piece → Piece
  | .literal body => .literal (dropTrailing body)
  | p => p

variable {c : Cursor} {body rest u v : Text} {x : Char} {pieces : List Piece}

-- ================================================== the first search

open Pattern

/-- One step inside a literal. -/
def literalUnit : Pattern :=
  alt (only '\x5c' ++ char fun _ => true) (char (except ['\x22', '\x5c']))

theorem fails_only (hahead : c.ahead = u) (h : u.head? ≠ some x) :
    (only x).Fails c := by
  refine fails_char fun y more hy => beq_eq_false_iff_ne.mpr ?_
  rintro rfl
  rw [hahead] at hy
  subst hy
  exact h rfl

theorem prefers_only (hahead : c.ahead = x :: rest) :
    (only x).Prefers c (c.past [x] rest) :=
  prefers_char hahead (beq_self_eq_true x)

/-- The steps inside a literal end at its closing quote and not before. -/
theorem repeats_literalUnit (h : Quotable body)
    (hahead : c.ahead = body ++ '\x22' :: rest) :
    Repeats literalUnit c (c.past body ('\x22' :: rest)) := by
  induction h generalizing c with
  | nil =>
      rw [List.nil_append] at hahead
      rw [Cursor.past_nil hahead]
      -- Neither an escape nor a plain character starts with a quote.
      refine .stop (Fails.alt (Fails.seq ?_) ?_)
      · exact fails_only hahead (by simp)
      · refine fails_char fun y more hy => ?_
        rw [hahead, List.cons.injEq] at hy
        rw [← hy.1]
        rfl
  | @plain y body hquote hslash hbody ih =>
      have hstep :
          literalUnit.Prefers c (c.past [y] (body ++ '\x22' :: rest)) := by
        refine Fails.alt_prefers (Fails.seq (fails_only hahead ?_))
          (prefers_char hahead ?_)
        · simpa using hslash
        · simp [except, hquote, hslash]
      refine .step hstep (Nat.lt_succ_self _) ?_ ?_
      · rw [hahead]
        exact Nat.lt_succ_self _
      · show Repeats literalUnit _ (c.past ([y] ++ body) _)
        rw [← Cursor.past_past c [y] body (body ++ '\x22' :: rest)]
        exact ih rfl
  | @escaped body y hbody ih =>
      have hstep :
          literalUnit.Prefers c
            (c.past ['\x5c', y] (body ++ '\x22' :: rest)) := by
        have hsecond :
            (char fun _ => true).Prefers
              (c.past ['\x5c'] (y :: body ++ '\x22' :: rest)) _ :=
          prefers_char rfl rfl
        rw [Cursor.past_past] at hsecond
        exact Prefers.alt (Prefers.seq (prefers_only hahead) hsecond)
      refine .step hstep ?_ ?_ ?_
      · simp [Cursor.past]
      · rw [hahead]
        simp only [Cursor.past, List.cons_append, List.length_cons]
        omega
      · show Repeats literalUnit _ (c.past (['\x5c', y] ++ body) _)
        rw [← Cursor.past_past c ['\x5c', y] body (body ++ '\x22' :: rest)]
        exact ih rfl

/-- A literal is preferred as a whole, and captured. -/
theorem prefers_literal (h : Quotable body)
    (hahead : c.ahead = (Piece.literal body).text ++ rest) :
    stringOrComment.Prefers c { c.past (Piece.literal body).text rest with
      captures := ⟨.body, c.offset, (Piece.literal body).text⟩
        :: c.captures } := by
  refine Prefers.alt (Prefers.group hahead ?_)
  have hopen :
      (only '\x22').Prefers c (c.past ['\x22'] (body ++ '\x22' :: rest)) := by
    refine prefers_only ?_
    rw [hahead, Piece.text, List.append_assoc]
    rfl
  have hsteps :
      Repeats literalUnit (c.past ['\x22'] (body ++ '\x22' :: rest)) _ :=
    repeats_literalUnit h rfl
  have hbody := hsteps.prefers_star
  have hclose :=
    prefers_only (x := '\x22')
      (c := (c.past ['\x22'] (body ++ '\x22' :: rest)).past body
        ('\x22' :: rest)) rfl
  have hall := (hopen.seq hbody).seq hclose
  rwa [Cursor.past_past, Cursor.past_past] at hall

/-- A literal is not even begun where no quote is. -/
theorem fails_literal {slot : Slot} {q : Pattern} (hahead : c.ahead = u)
    (h : u.head? ≠ some '\x22') :
    (group slot (only '\x22' ++ star literalUnit ++ q)).Fails c :=
  Fails.group (Fails.seq (Fails.seq (fails_only hahead h)))

/-- A line comment is preferred up to the end of its line. -/
theorem prefers_lineComment (h : '\n' ∉ body)
    (hrest : ∀ y ∈ rest.head?, y = '\n')
    (hahead : c.ahead = (Piece.lineComment body).text ++ rest) :
    stringOrComment.Prefers c (c.past (Piece.lineComment body).text rest) := by
  refine Fails.alt_prefers (fails_literal hahead (by simp [Piece.text]))
    (Prefers.alt ?_)
  have hopen :
      (lit ['/', '/']).Prefers c (c.past ['/', '/'] (body ++ rest)) := by
    exact prefers_lit hahead
  have hbody : (many inLine).Prefers (c.past ['/', '/'] (body ++ rest))
      ((c.past ['/', '/'] (body ++ rest)).past body rest) := by
    refine prefers_many rfl ?_ ?_
    · intro y hy
      refine bne_iff_ne.mpr ?_
      rintro rfl
      exact h hy
    · intro y hy
      rw [hrest y hy]
      rfl
  rw [Cursor.past_past] at hbody
  exact hopen.seq hbody

/-- The closing sign of a block comment does not occur earlier. -/
theorem not_isPrefix_of_not_isInfix {w : Text} (h : ¬ ['*', '/'] <:+: v ++ w)
    (hw : w ≠ []) : ¬ ['*', '/'] <+: w ++ (['*', '/'] ++ rest) := by
  obtain ⟨y, w, rfl⟩ := List.exists_cons_of_ne_nil hw
  intro hpre
  cases w with
  | nil =>
      rw [List.singleton_append] at hpre
      have hsecond := (List.cons_prefix_cons.mp hpre).2
      exact absurd hsecond (by simp)
  | cons z w =>
      have hboth : ['*', '/'] <+: y :: z :: w := by
        simpa using hpre
      exact h (hboth.isInfix.trans (List.suffix_append v _).isInfix)

/-- A block comment is preferred up to its first end. -/
theorem prefers_blockComment (h : ¬ ['*', '/'] <:+: body)
    (hahead : c.ahead = (Piece.blockComment body).text ++ rest) :
    stringOrComment.Prefers c (c.past (Piece.blockComment body).text rest) := by
  refine Fails.alt_prefers (fails_literal hahead (by simp [Piece.text])) ?_
  refine Fails.alt_prefers (Fails.seq (fails_lit ?_)) (Prefers.assoc ?_)
  · rw [hahead]
    simp [Piece.text]
  have hopen : (lit ['/', '*']).Prefers c
      (c.past ['/', '*'] (body ++ (['*', '/'] ++ rest))) := by
    refine prefers_lit ?_
    rw [hahead, Piece.text, List.append_assoc]
    rfl
  have hclose :
      (lit ['*', '/']).Prefers
        ((c.past ['/', '*'] (body ++ (['*', '/'] ++ rest))).past body
          (['*', '/'] ++ rest)) _ :=
    prefers_lit rfl
  have hbody :=
    prefers_run_least (fun _ => true) rfl (fun _ _ => rfl)
      (fun v w hvw hw => fails_lit (not_isPrefix_of_not_isInfix (hvw ▸ h) hw))
      hclose
  rw [Cursor.past_past, Cursor.past_past] at hbody
  exact hopen.seq hbody

/-- Nothing is found at a single character. -/
theorem fails_stringOrComment (hahead : c.ahead = x :: rest)
    (h : (Piece.char x).Valid) : stringOrComment.Fails c := by
  obtain ⟨hquote, hslash⟩ := h
  refine Fails.alt (fails_literal hahead (by simpa using hquote)) ?_
  refine Fails.alt (Fails.seq (fails_lit ?_))
    (Fails.seq (Fails.seq (fails_lit ?_)))
  · rw [hahead]
    simp [Ne.symm hslash]
  · rw [hahead]
    simp [Ne.symm hslash]

/-- The first search drops the comments, from any place on. -/
theorem replaceAllFrom_stringOrComment (hvalid : ∀ p ∈ pieces, p.Valid)
    (hlines : LinesEnd pieces) (behind : Option Char) (offset : Nat) :
    stringOrComment.replaceAllFrom (·.get .body) 0 behind offset (textOf pieces)
      = textOf (kept pieces) := by
  induction pieces generalizing behind offset with
  | nil => rfl
  | cons p rest ih =>
      obtain ⟨hp, hrest⟩ := List.forall_mem_cons.mp hvalid
      have hsplit : textOf (p :: rest) = p.text ++ textOf rest :=
        List.flatMap_cons
      rw [hsplit]
      cases p with
      | literal body =>
          have hne : (Piece.literal body).text ≠ [] := List.cons_ne_nil _ _
          rw [replaceAllFrom_of_prefers hne (prefers_literal hp rfl) rfl,
            ih hrest hlines]
          rfl
      | lineComment body =>
          obtain ⟨hend, hlines⟩ := hlines
          -- A line comment goes as far as its line, so what follows decides
          -- where it ends.
          have hnext : ∀ y ∈ (textOf rest).head?, y = '\n' := by
            intro y hy
            cases rest with
            | nil => cases hy
            | cons next more =>
                rcases hend with hend | hend
                · cases hend
                · injection hend with hend
                  subst hend
                  injection hy with hy
                  exact hy.symm
          have hne : (Piece.lineComment body).text ≠ [] := List.cons_ne_nil _ _
          rw [replaceAllFrom_of_prefers hne (prefers_lineComment hp hnext rfl)
            rfl, ih hrest hlines]
          rfl
      | blockComment body =>
          have hne : (Piece.blockComment body).text ≠ [] := List.cons_ne_nil _ _
          rw [replaceAllFrom_of_prefers hne (prefers_blockComment hp rfl) rfl,
            ih hrest hlines]
          rfl
      | char y =>
          show stringOrComment.replaceAllFrom _ 0 behind offset
            (y :: textOf rest) = _
          rw [replaceAllFrom_of_fails (fails_stringOrComment rfl hp),
            ih hrest hlines]
          rfl

-- =================================================== the second search

theorem isBlank_of_closes (h : among ['\x7d', ']'] x = true) :
    Text.isBlank x = false := by
  have hx : x = '\x7d' ∨ x = ']' := by simpa [among] using h
  rcases hx with rfl | rfl
  · decide
  · decide

/-- A bracket closes next if nothing but blanks stands before it. -/
theorem closesNext_iff :
    closesNext u = true ↔ ∃ blanks x rest, u = blanks ++ x :: rest
      ∧ (∀ y ∈ blanks, Text.isBlank y = true)
      ∧ among ['\x7d', ']'] x = true := by
  unfold closesNext
  constructor
  · intro h
    cases hfind : u.find? fun c => !Text.isBlank c with
    | none =>
        rw [hfind] at h
        cases h
    | some x =>
        rw [hfind] at h
        obtain ⟨-, blanks, rest, hu, hblanks⟩ :=
          List.find?_eq_some_iff_append.mp hfind
        exact ⟨blanks, x, rest, hu, fun y hy => by simpa using hblanks y hy, h⟩
  · rintro ⟨blanks, x, rest, rfl, hblanks, hx⟩
    have hfind : (blanks ++ x :: rest).find? (fun c => !Text.isBlank c)
        = some x := by
      refine List.find?_eq_some_iff_append.mpr ⟨?_, blanks, rest, rfl, ?_⟩
      · simp [isBlank_of_closes hx]
      · exact fun y hy => by simp [hblanks y hy]
    rw [hfind]
    exact hx

/-- Without a comma nothing is dropped. -/
theorem dropTrailing_append_of_not_mem (h : ',' ∉ u) (v : Text) :
    dropTrailing (u ++ v) = u ++ dropTrailing v := by
  induction u with
  | nil => rfl
  | cons x u ih =>
      obtain ⟨hx, hu⟩ := List.ne_and_not_mem_of_not_mem_cons h
      rw [List.cons_append, dropTrailing,
        if_neg fun hboth => hx hboth.1.symm, ih hu]
      rfl

/-- A match at a trailing comma, which captures what follows the comma. -/
theorem prefers_trailingComma {blanks : Text}
    (hblanks : ∀ y ∈ blanks, Text.isBlank y = true)
    (hx : among ['\x7d', ']'] x = true)
      (hahead : c.ahead = [','] ++ (blanks ++ [x]) ++ rest) :
    trailingComma.Prefers c { c.past ([','] ++ (blanks ++ [x])) rest with
      captures := ⟨.body, c.offset + 1, blanks ++ [x]⟩ :: c.captures } := by
  have hcomma :
      (lit [',']).Prefers c (c.past [','] (blanks ++ [x] ++ rest)) := by
    refine prefers_lit ?_
    rw [hahead, List.append_assoc]
  have hspace :
      (many Text.isBlank).Prefers (c.past [','] (blanks ++ [x] ++ rest))
        ((c.past [','] (blanks ++ [x] ++ rest)).past blanks (x :: rest)) := by
    refine prefers_many (List.append_assoc _ _ _) hblanks ?_
    intro y hy
    injection hy with hy
    rw [← hy]
    exact isBlank_of_closes hx
  have hclose :
      (char (among ['\x7d', ']'])).Prefers
        ((c.past [','] (blanks ++ [x] ++ rest)).past blanks (x :: rest)) _ :=
    prefers_char rfl hx
  have hbody := hspace.seq hclose
  rw [Cursor.past_past _ blanks] at hbody
  have hgroup :
      (group .body (Pattern.blanks ++ char (among ['\x7d', ']']))).Prefers
        (c.past [','] (blanks ++ [x] ++ rest)) _ := Prefers.group rfl hbody
  rw [Cursor.past_past] at hgroup
  exact hcomma.seq hgroup

/-- No match at a comma that is not trailing, and none elsewhere. -/
theorem fails_trailingComma (hahead : c.ahead = x :: rest)
    (h : ¬ (x = ',' ∧ closesNext rest = true)) :
    trailingComma.Fails c := by
  refine fails_char_seq (· == ',') fun y more hy hcomma => Fails.group ?_
  rw [hahead, List.cons.injEq] at hy
  obtain ⟨rfl, rfl⟩ := hy
  refine fails_many_seq fun blanks more hmore hblanks =>
    fails_char fun z last hz => ?_
  by_cases hclose : among ['\x7d', ']'] z = true
  · have hrest : rest = blanks ++ z :: last := by
      rw [show rest = blanks ++ more from hmore, show more = z :: last from hz]
    have hnext : closesNext rest = true :=
      closesNext_iff.mpr ⟨blanks, z, last, hrest, hblanks, hclose⟩
    exact absurd ⟨beq_iff_eq.mp hcomma, hnext⟩ h
  · exact Bool.not_eq_true _ ▸ hclose

/-- The second search drops the trailing commas, from any place on. A match
uses up all that follows the comma to the bracket, so the induction is on the
length. -/
theorem replaceAllFrom_trailingComma (t : Text) (behind : Option Char)
    (offset : Nat) :
    trailingComma.replaceAllFrom (·.get .body) 0 behind offset t
      = dropTrailing t := by
  induction hn : t.length
    using Nat.strongRecOn generalizing t behind offset with
  | _ n ih =>
    cases t with
    | nil => rfl
    | cons x rest =>
        by_cases h : x = ',' ∧ closesNext rest = true
        · obtain ⟨rfl, hnext⟩ := h
          obtain ⟨blanks, y, more, rfl, hblanks, hy⟩ := closesNext_iff.mp hnext
          -- The match has no other comma in it, so nothing else is dropped
          -- there.
          have hcomma : ',' ∉ blanks ++ [y] := by
            intro hmem
            rcases List.mem_append.mp hmem with hmem | hmem
            · exact absurd (hblanks _ hmem) (by decide)
            · rw [← List.mem_singleton.mp hmem] at hy
              exact absurd hy (by decide)
          have hsplit : ',' :: (blanks ++ y :: more)
              = [','] ++ (blanks ++ [y]) ++ more := by simp
          rw [dropTrailing, if_pos ⟨rfl, hnext⟩, hsplit,
            replaceAllFrom_of_prefers (by simp)
            (prefers_trailingComma hblanks hy rfl) rfl,
            ih more.length (by rw [← hn]; simp; omega) more _ _ rfl]
          show blanks ++ [y] ++ dropTrailing more
            = dropTrailing (blanks ++ y :: more)
          rw [← dropTrailing_append_of_not_mem hcomma, List.append_assoc]
          rfl
        · rw [replaceAllFrom_of_fails (fails_trailingComma rfl h), dropTrailing,
            if_neg h, ih rest.length (by rw [← hn]; exact Nat.lt_succ_self _)
            rest _ _ rfl]

-- ========================================================= by pieces

/-- The text of pieces starts with that of the first. -/
theorem textOf_cons (p : Piece) (pieces : List Piece) :
    textOf (p :: pieces) = p.text ++ textOf pieces :=
  List.flatMap_cons

/-- What closes no bracket itself hides whatever closes one behind it. -/
theorem closesNext_append_cons (hblank : Text.isBlank x = false)
    (hclose : among ['\x7d', ']'] x = false) (u v : Text) :
    closesNext (u ++ x :: v) = closesNext u := by
  unfold closesNext
  rw [List.find?_append, List.find?_cons_of_pos (by simp [hblank])]
  cases u.find? fun c => !Text.isBlank c with
  | none => exact hclose
  | some y => rfl

/-- So the commas in front of it and those behind it are dropped apart. -/
theorem dropTrailing_append_cons (hblank : Text.isBlank x = false)
    (hclose : among ['\x7d', ']'] x = false) (hcomma : x ≠ ',') (u v : Text) :
    dropTrailing (u ++ x :: v) = dropTrailing u ++ x :: dropTrailing v := by
  induction u with
  | nil =>
      show dropTrailing (x :: v) = x :: dropTrailing v
      rw [dropTrailing, if_neg fun hboth => hcomma hboth.1]
  | cons y u ih =>
      rw [List.cons_append, dropTrailing, dropTrailing,
        closesNext_append_cons hblank hclose, ih]
      split
      · rfl
      · rfl

/-- Trailing commas of a literal are dropped apart from those behind it: its
quote is no blank. -/
theorem dropTrailing_literal (body rest : Text) :
    dropTrailing ((Piece.literal body).text ++ rest)
      = (Piece.literal (dropTrailing body)).text ++ dropTrailing rest := by
  have hquote :=
    dropTrailing_append_cons (x := '\x22') (by decide) (by decide) (by decide)
  have hsplit : (Piece.literal body).text ++ rest
      = [] ++ '\x22' :: (body ++ '\x22' :: rest) := by
    simp [Piece.text]
  rw [hsplit, hquote, hquote]
  simp [Piece.text, dropTrailing]

/-- What comes next does not depend on what the literals hold. -/
theorem closesNext_squeezed (pieces : List Piece) :
    closesNext (textOf (pieces.map Piece.squeezed))
      = closesNext (textOf pieces) := by
  induction pieces with
  | nil => rfl
  | cons p rest ih =>
      rw [List.map_cons, textOf_cons, textOf_cons]
      cases p with
      | literal body =>
          have hquote :=
            closesNext_append_cons (x := '\x22') (by decide) (by decide) []
          exact (hquote _).trans (hquote _).symm
      | lineComment body =>
          have hslash :=
            closesNext_append_cons (x := '/') (by decide) (by decide) []
          exact (hslash _).trans (hslash _).symm
      | blockComment body =>
          have hslash :=
            closesNext_append_cons (x := '/') (by decide) (by decide) []
          exact (hslash _).trans (hslash _).symm
      | char y =>
          unfold closesNext at ih ⊢
          by_cases hblank : Text.isBlank y = true
          · simpa [Piece.squeezed, Piece.text, hblank] using ih
          · simp [Piece.squeezed, Piece.text, hblank]

/-- Comments may be dropped before literals are squeezed or after. -/
theorem kept_squeezed (pieces : List Piece) :
    kept (pieces.map Piece.squeezed) = (kept pieces).map Piece.squeezed := by
  have hsame : (fun p : Piece => !p.squeezed.isComment) = fun p =>
      !p.isComment := by
    funext p
    cases p with
    | literal body => rfl
    | lineComment body => rfl
    | blockComment body => rfl
    | char c => rfl
  unfold kept
  rw [List.filter_map]
  exact congrArg (fun f => (pieces.filter f).map Piece.squeezed) hsame

theorem kept_kept (pieces : List Piece) : kept (kept pieces) = kept pieces := by
  unfold kept
  rw [List.filter_filter]
  simp

/-- Comments do not matter for trailing commas. -/
theorem tidy_kept (pieces : List Piece) : tidy (kept pieces) = tidy pieces := by
  induction pieces with
  | nil => rfl
  | cons p rest ih =>
      cases p with
      | literal body => exact congrArg ((Piece.literal body).text ++ ·) ih
      | lineComment body => exact ih
      | blockComment body => exact ih
      | char c =>
          show tidy (.char c :: kept rest) = _
          rw [tidy, tidy, kept_kept, ih]

/-- Trailing commas are dropped from single characters, and from the inside of
each literal on its own. -/
theorem dropTrailing_textOf (h : ∀ p ∈ pieces, p.isComment = false) :
    dropTrailing (textOf pieces) = tidy (pieces.map Piece.squeezed) := by
  induction pieces with
  | nil => rfl
  | cons p rest ih =>
      obtain ⟨hp, hrest⟩ := List.forall_mem_cons.mp h
      have hkept : kept rest = rest :=
        List.filter_eq_self.mpr fun q hq => by simp [hrest q hq]
      rw [textOf_cons]
      cases p with
      | literal body =>
          rw [dropTrailing_literal, ih hrest]
          rfl
      | lineComment body => cases hp
      | blockComment body => cases hp
      | char c =>
          show dropTrailing (c :: textOf rest)
            = tidy (.char c :: rest.map Piece.squeezed)
          rw [dropTrailing, tidy, kept_squeezed, hkept,
            closesNext_squeezed, ih hrest]

/-- What is left of a document: its pieces without comments and trailing
commas, with the trailing commas inside each literal gone as well. -/
theorem stripComments_textOf (hvalid : ∀ p ∈ pieces, p.Valid)
    (hlines : LinesEnd pieces) :
    stripComments (textOf pieces) = tidy (pieces.map Piece.squeezed) := by
  have hfirst : stringOrComment.replaceAll (·.get .body) (textOf pieces)
      = textOf (kept pieces) :=
    replaceAllFrom_stringOrComment hvalid hlines none 0
  have hkept : ∀ p ∈ kept pieces, p.isComment = false := by
    intro p hp
    simpa using (List.mem_filter.mp hp).2
  unfold stripComments
  rw [hfirst]
  show trailingComma.replaceAllFrom _ 0 none 0 _ = _
  rw [replaceAllFrom_trailingComma, dropTrailing_textOf hkept,
    ← kept_squeezed, tidy_kept]

/-- Nothing is dropped from a text without commas. -/
theorem dropTrailing_of_not_mem (h : ',' ∉ u) : dropTrailing u = u := by
  simpa [dropTrailing] using dropTrailing_append_of_not_mem h []

/-- Comments and trailing commas go, and nothing else: a document whose
literals hold no comma is left with its literals as they are and with all
other characters but the commas whose next character that is no blank, once
the comments are gone, closes a bracket. -/
theorem only_comments_and_trailing_commas_go (hvalid : ∀ p ∈ pieces, p.Valid)
    (hlines : LinesEnd pieces)
    (hcomma : ∀ body, Piece.literal body ∈ pieces → ',' ∉ body) :
    stripComments (textOf pieces) = tidy pieces := by
  have hsame : pieces.map Piece.squeezed = pieces.map id := by
    refine List.map_congr_left fun p hp => ?_
    cases p with
    | literal body =>
        exact congrArg Piece.literal (dropTrailing_of_not_mem (hcomma body hp))
    | lineComment body => rfl
    | blockComment body => rfl
    | char c => rfl
  rw [stripComments_textOf hvalid hlines, hsame, List.map_id]

/-- A document with a quote and a comment sign in a literal, quotes and
brackets in comments, and two commas that only the comments keep from a
bracket. -/
def untidyPieces : List Piece :=
  [.char '\x7b', .literal ['\x5c', '\x22', '/', '/'], .char ':', .char '[',
    .char '1', .char ',', .lineComment [' ', '\x22', ']', ','], .char '\n',
    .blockComment ['\x22', '*'], .char ' ', .char ']', .char ',',
    .blockComment [], .char '\x7d']

theorem only_comments_and_trailing_commas_go_untidy :
    stripComments "\x7b\"\\\"//\":[1,// \"],\n/*\"**/ ],/**/\x7d".toList
      = "\x7b\"\\\"//\":[1\n ]\x7d".toList := by
  have hbody : Quotable ['\x5c', '\x22', '/', '/'] :=
    .escaped _ (.plain (by decide) (by decide)
      (.plain (by decide) (by decide) .nil))
  have hblock : ¬ ['*', '/'] <:+: ['\x22', '*'] := by decide
  have hgo : stripComments (textOf untidyPieces) = tidy untidyPieces := by
    refine only_comments_and_trailing_commas_go ?_ ?_ ?_
    · simp [untidyPieces, Piece.Valid, hbody, hblock]
    · simp [untidyPieces, LinesEnd]
    · simp [untidyPieces]
  exact hgo

end SourceAtlas.Json
