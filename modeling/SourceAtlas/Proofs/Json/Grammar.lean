/-
The grammar of what the reader accepts, over the pieces of a document without
comments. Both directions are here: what is read was written by the grammar
(`exists_isDocument_of_read`), and what the grammar writes is read
(`IsDocument.exists_read`). Neither keeps track of the value, only of what is
accepted.

The reader spends one unit of fuel on each bracket and each element. Every
value has at least one character of its own, so its text bounds the fuel it
needs. Arrays and objects differ in their elements only, and share the rest
(`Bracket`).

Consumed by the comparison of a document with what stripping leaves of it.
-/
import SourceAtlas.Proofs.Except
import SourceAtlas.Proofs.Json.Numeral
import SourceAtlas.Proofs.Json.Quoted

namespace SourceAtlas.Json

variable {t u rest body : Text} {v : Json} {fuel : Nat}

-- ================================================================ values

/-- Single characters as pieces. -/
def chars (t : Text) : List Piece := t.map Piece.char

@[simp] theorem textOf_nil : textOf [] = [] := rfl

/-- The text of pieces one after the other is that of the first, then that of
the second. -/
@[simp] theorem textOf_append (ps qs : List Piece) :
    textOf (ps ++ qs) = textOf ps ++ textOf qs :=
  List.flatMap_append

/-- A text cut into single characters is that text again. -/
@[simp] theorem textOf_chars (t : Text) : textOf (chars t) = t := by
  induction t with
  | nil => rfl
  | cons c t ih => exact congrArg (c :: ·) ih

/-- White space between tokens. -/
def Spaces (t : Text) : Prop := ∀ c ∈ t, isSpace c = true

/-- White space is dropped from the front of a text, and nothing else. -/
theorem exists_spaces (t : Text) :
    ∃ blanks, Spaces blanks ∧ t = blanks ++ skipSpace t :=
  ⟨t.takeWhile isSpace, fun c hc => List.all_eq_true.mp List.all_takeWhile c hc,
    (List.takeWhile_append_dropWhile).symm⟩

/-- White space in front is passed over. -/
theorem skipSpace_append {blanks : Text} (h : Spaces blanks) (u : Text) :
    skipSpace (blanks ++ u) = skipSpace u :=
  List.dropWhile_append_of_pos h

/-- The two kinds of brackets. -/
inductive Bracket where
  | array
  | object

namespace Bracket

/-- The bracket that opens. -/
def opening : Bracket → Char
  | array => '['
  | object => '\x7b'

/-- The bracket that closes. -/
def closing : Bracket → Char
  | array => ']'
  | object => '\x7d'

end Bracket

mutual

/-- The pieces of a value. -/
inductive IsValue : List Piece → Prop where
  | string {body : Text} (h : Readable body) : IsValue [.literal body]
  | word {word : String} {value : Json} (h : (word, value) ∈ wordLiterals) :
      IsValue (chars word.toList)
  | positive {u : Text} (h : Numeral u) : IsValue (chars u)
  | negative {u : Text} (h : Numeral u) : IsValue (chars ('-' :: u))
  | empty (b : Bracket) {blanks : Text} (hblanks : Spaces blanks) :
      IsValue (chars (b.opening :: blanks ++ [b.closing]))
  | full {b : Bracket} {blanks : Text} {elements : List Piece}
      (hblanks : Spaces blanks) (h : AreElements b elements) :
      IsValue (chars (b.opening :: blanks) ++ elements)

/-- The pieces of an item of an array, or of a member of an object. -/
inductive IsElement : Bracket → List Piece → Prop where
  | item {value : List Piece} (h : IsValue value) : IsElement .array value
  | member {key before after : Text} {value : List Piece} (hkey : Readable key)
      (hbefore : Spaces before) (hafter : Spaces after) (h : IsValue value) :
      IsElement .object (.literal key
        :: (chars (before ++ ':' :: after) ++ value))

/-- The pieces from an element on, with the bracket that closes the last. -/
inductive AreElements : Bracket → List Piece → Prop where
  | last {b : Bracket} {element : List Piece} {blanks : Text}
      (h : IsElement b element) (hblanks : Spaces blanks) :
      AreElements b (element ++ chars (blanks ++ [b.closing]))
  | more {b : Bracket} {element rest : List Piece} {before after : Text}
      (h : IsElement b element) (hbefore : Spaces before)
      (hafter : Spaces after) (hrest : AreElements b rest) :
      AreElements b (element ++ (chars (before ++ ',' :: after) ++ rest))

end

/-- The pieces of a document: a value with white space around it. -/
inductive IsDocument : List Piece → Prop where
  | mk {before after : Text} {value : List Piece} (hbefore : Spaces before)
      (h : IsValue value) (hafter : Spaces after) :
      IsDocument (chars before ++ (value ++ chars after))

-- ===================================================== what is accepted

/-- Where a word is read, the text starts with one of the table. -/
theorem wordLiteral?_eq_some (h : wordLiteral? t = some (v, rest)) :
    ∃ word, (word, v) ∈ wordLiterals ∧ t = word.toList ++ rest := by
  obtain ⟨⟨word, value⟩, hmem, h⟩ := List.exists_of_findSome?_eq_some h
  simp only at h
  split at h
  case isFalse => cases h
  case isTrue hpre =>
    injection h with h
    injection h with hv hr
    obtain ⟨more, rfl⟩ := List.isPrefixOf_iff_prefix.mp hpre
    rw [← String.length_toList, List.drop_left] at hr
    rw [← hv, ← hr]
    exact ⟨word, hmem, rfl⟩

/-- Behind the bracket that opens stands the one that closes, or elements. -/
theorem exists_isValue_of_bracket {b : Bracket} {after : Text}
    (h : skipSpace after = b.closing :: rest
      ∨ ∃ elements, AreElements b elements
        ∧ skipSpace after = textOf elements ++ rest) :
    ∃ pieces, IsValue pieces ∧ b.opening :: after = textOf pieces ++ rest := by
  obtain ⟨blanks, hblanks, hafter⟩ := exists_spaces after
  rcases h with hempty | ⟨elements, helements, hfull⟩
  · refine ⟨_, .empty b hblanks, ?_⟩
    rw [hafter, hempty, textOf_chars]
    simp
  · refine ⟨_, .full hblanks helements, ?_⟩
    rw [hafter, hfull]
    simp

mutual

/-- What is read as a value is spelled as one. The three readers call each
other, so these lemmas are one induction on the fuel. -/
theorem exists_isValue_of_value : ∀ {fuel : Nat} {t rest : Text} {v : Json},
    value fuel t = .ok (v, rest)
      → ∃ pieces, IsValue pieces ∧ t = textOf pieces ++ rest
  | 0, _, _, _, h => by cases h
  | fuel + 1, t, rest, v, h => by
      rw [value.eq_def] at h
      simp only at h
      split at h
      case h_1 after =>
        obtain ⟨⟨s, left⟩, hs, h⟩ := bind_eq_ok_iff.mp h
        injection h with h
        injection h with _ hr
        obtain ⟨body, hbody, rfl⟩ := exists_readable_of_stringBody hs
        rw [← hr]
        exact ⟨_, .string hbody, by simp [textOf, Piece.text]⟩
      case h_2 after =>
        apply exists_isValue_of_bracket (b := .object)
        split at h
        case h_1 left hskip =>
          injection h with h
          injection h with _ hr
          exact .inl (hr ▸ hskip)
        case h_2 => exact .inr (exists_areElements_of_members h)
      case h_3 after =>
        apply exists_isValue_of_bracket (b := .array)
        split at h
        case h_1 left hskip =>
          injection h with h
          injection h with _ hr
          exact .inl (hr ▸ hskip)
        case h_2 => exact .inr (exists_areElements_of_items h)
      case h_4 =>
        split at h
        case h_1 found hword =>
          injection h with h
          rw [h] at hword
          obtain ⟨word, hmem, rfl⟩ := wordLiteral?_eq_some hword
          exact ⟨_, .word hmem, by simp⟩
        case h_2 =>
          split at h
          case h_1 after =>
            obtain ⟨u, hu, rfl⟩ := exists_numeral_of_unsigned h
            exact ⟨_, .negative hu, by simp⟩
          case h_2 =>
            obtain ⟨u, hu, rfl⟩ := exists_numeral_of_unsigned h
            exact ⟨_, .positive hu, by simp⟩

/-- What is read as the items of an array is spelled as elements. -/
theorem exists_areElements_of_items :
    ∀ {fuel : Nat} {acc : List Json} {t rest : Text} {v : Json},
      items fuel acc t = .ok (v, rest)
        → ∃ pieces, AreElements .array pieces ∧ t = textOf pieces ++ rest
  | 0, _, _, _, _, h => by cases h
  | fuel + 1, acc, t, rest, v, h => by
      rw [items.eq_def] at h
      simp only at h
      obtain ⟨⟨item, left⟩, hitem, h⟩ := bind_eq_ok_iff.mp h
      obtain ⟨element, helement, ht⟩ := exists_isValue_of_value hitem
      obtain ⟨before, hbefore, hleft⟩ := exists_spaces left
      simp only at h
      split at h
      case h_1 more hskip =>
        obtain ⟨after, hafter, hmore⟩ := exists_spaces more
        obtain ⟨elements, helements, htail⟩ := exists_areElements_of_items h
        refine ⟨_, .more (.item helement) hbefore hafter helements, ?_⟩
        rw [ht, hleft, hskip, hmore, htail]
        simp
      case h_2 more hskip =>
        injection h with h
        injection h with _ hr
        refine ⟨_, .last (.item helement) hbefore, ?_⟩
        rw [ht, hleft, hskip, hr]
        simp [Bracket.closing]
      case h_3 => cases h

/-- What is read as the members of an object is spelled as elements. -/
theorem exists_areElements_of_members :
    ∀ {fuel : Nat} {acc : Table Json} {t rest : Text} {v : Json},
      members fuel acc t = .ok (v, rest)
        → ∃ pieces, AreElements .object pieces ∧ t = textOf pieces ++ rest
  | 0, _, _, _, _, h => by cases h
  | fuel + 1, acc, t, rest, v, h => by
      rw [members.eq_def] at h
      simp only at h
      split at h
      case h_2 => cases h
      case h_1 afterQuote =>
        obtain ⟨⟨key, afterKey⟩, hkey, h⟩ := bind_eq_ok_iff.mp h
        obtain ⟨body, hbody, hquote⟩ := exists_readable_of_stringBody hkey
        obtain ⟨before, hbefore, hafterKey⟩ := exists_spaces afterKey
        simp only at h
        split at h
        case h_2 => cases h
        case h_1 afterColon hcolon =>
          obtain ⟨after, hafter, hafterColon⟩ := exists_spaces afterColon
          obtain ⟨⟨item, left⟩, hitem, h⟩ := bind_eq_ok_iff.mp h
          obtain ⟨element, helement, hvalue⟩ := exists_isValue_of_value hitem
          obtain ⟨blanks, hblanks, hleft⟩ := exists_spaces left
          have hmember := IsElement.member hbody hbefore hafter helement
          simp only at h
          split at h
          case h_1 more hskip =>
            obtain ⟨blanks', hblanks', hmore⟩ := exists_spaces more
            obtain ⟨elements, helements, htail⟩ :=
              exists_areElements_of_members h
            refine ⟨_, .more hmember hblanks hblanks' helements, ?_⟩
            rw [hquote, hafterKey, hcolon, hafterColon, hvalue, hleft, hskip,
              hmore, htail]
            simp [textOf_cons, Piece.text]
          case h_2 more hskip =>
            injection h with h
            injection h with _ hr
            refine ⟨_, .last hmember hblanks, ?_⟩
            rw [hquote, hafterKey, hcolon, hafterColon, hvalue,
              hleft, hskip, hr]
            simp [textOf_cons, Piece.text, Bracket.closing]
          case h_3 => cases h

end

/-- What is read is a document. -/
theorem exists_isDocument_of_read (h : read t = .ok v) :
    ∃ pieces, IsDocument pieces ∧ t = textOf pieces := by
  unfold read at h
  obtain ⟨⟨document, left⟩, hvalue, h⟩ := bind_eq_ok_iff.mp h
  obtain ⟨before, hbefore, ht⟩ := exists_spaces t
  obtain ⟨value, hpieces, hskip⟩ := exists_isValue_of_value hvalue
  obtain ⟨after, hafter, hleft⟩ := exists_spaces left
  simp only at h
  split at h
  case isFalse => cases h
  case isTrue hend =>
    rw [List.isEmpty_iff] at hend
    refine ⟨_, .mk hbefore hpieces hafter, ?_⟩
    rw [ht, hskip, hleft, hend]
    simp

-- ======================================================= what comes next

/-- The four white-space characters of a document are blanks. -/
theorem isBlank_of_isSpace {c : Char} (h : isSpace c = true) :
    Text.isBlank c = true := by
  simp only [isSpace, Bool.or_eq_true, beq_iff_eq] at h
  rcases h with ((rfl | rfl) | rfl) | rfl
  all_goals decide

theorem isBlank_of_isDigit {c : Char} (h : isDigit c = true) :
    Text.isBlank c = false := by
  unfold isDigit Char.isDigit at h
  obtain ⟨hlow, hhigh⟩ := Bool.and_eq_true_iff.mp h
  have hlow : 48 ≤ c.toNat := UInt32.le_iff_toNat_le.mp (of_decide_eq_true hlow)
  have hhigh : c.toNat ≤ 57 :=
    UInt32.le_iff_toNat_le.mp (of_decide_eq_true hhigh)
  simp only [Text.isBlank, Text.blankRanges, List.any_cons, List.any_nil,
    Bool.or_false, Bool.or_eq_false_iff, Bool.and_eq_false_iff,
    decide_eq_false_iff_not]
  omega

/-- A text that starts with neither blank nor closing bracket. -/
def Begins (t : Text) : Prop :=
  ∃ c more, t = c :: more ∧ Text.isBlank c = false
    ∧ Pattern.among ['\x7d', ']'] c = false

/-- How a text begins does not depend on what follows it. -/
theorem Begins.append (h : Begins t) (rest : Text) : Begins (t ++ rest) := by
  obtain ⟨c, more, rfl, hc⟩ := h
  exact ⟨c, more ++ rest, rfl, hc⟩

/-- A text that begins a value has no white space in front. -/
theorem Begins.skipSpace (h : Begins t) : skipSpace t = t := by
  obtain ⟨c, more, rfl, hc, -⟩ := h
  refine List.dropWhile_cons_of_neg ?_
  intro hspace
  rw [isBlank_of_isSpace hspace] at hc
  cases hc

theorem begins_cons_of_isDigit {c : Char} (h : isDigit c = true) (more : Text) :
    Begins (c :: more) := by
  refine ⟨c, more, rfl, isBlank_of_isDigit h, ?_⟩
  have hne : c ≠ '\x7d' ∧ c ≠ ']' := by
    constructor
    all_goals
      rintro rfl
      exact absurd h (by decide)
  simp [Pattern.among, hne]

/-- Each word of the table begins a value. -/
theorem begins_of_mem_wordLiterals {word : String}
    (h : (word, v) ∈ wordLiterals) : Begins word.toList := by
  simp only [wordLiterals, List.mem_cons, Prod.mk.injEq, List.not_mem_nil,
    or_false] at h
  rcases h with ⟨rfl, -⟩ | ⟨rfl, -⟩ | ⟨rfl, -⟩ | ⟨rfl, -⟩ | ⟨rfl, -⟩ | ⟨rfl, -⟩
  all_goals exact ⟨_, _, rfl, by decide, by decide⟩

theorem Bracket.begins (b : Bracket) (more : Text) :
    Begins (b.opening :: more) := by
  cases b with
  | array => exact ⟨_, _, rfl, by decide, by decide⟩
  | object => exact ⟨_, _, rfl, by decide, by decide⟩

theorem begins_literal (body more : Text) :
    Begins ((Piece.literal body).text ++ more) :=
  ⟨_, _, rfl, by decide, by decide⟩

/-- Whatever is spelled as a value begins like one. -/
theorem IsValue.begins {pieces : List Piece} (h : IsValue pieces) :
    Begins (textOf pieces) := by
  cases h with
  | string => exact begins_literal _ _
  | word h =>
      rw [textOf_chars]
      exact begins_of_mem_wordLiterals h
  | positive h =>
      obtain ⟨c, more, rfl, hc⟩ := h.exists_cons
      rw [textOf_chars]
      exact begins_cons_of_isDigit hc more
  | negative h =>
      rw [textOf_chars]
      exact ⟨_, _, rfl, by decide, by decide⟩
  | empty b =>
      rw [textOf_chars]
      exact b.begins _
  | full =>
      rw [textOf_append, textOf_chars]
      exact (Bracket.begins _ _).append _

theorem IsElement.begins {b : Bracket} {pieces : List Piece}
    (h : IsElement b pieces) : Begins (textOf pieces) := by
  cases h with
  | item h => exact h.begins
  | member => exact begins_literal _ _

theorem AreElements.begins {b : Bracket} {pieces : List Piece}
    (h : AreElements b pieces) : Begins (textOf pieces) := by
  cases h with
  | last h =>
      rw [textOf_append]
      exact h.begins.append _
  | more h =>
      rw [textOf_append]
      exact h.begins.append _

/-- Nothing follows a number at the end of a text. -/
theorem delimited_nil : Delimited [] := fun _ hc => by cases hc

/-- A number ends before a character that none can go on with. -/
theorem delimited_cons {c : Char}
    (hc : isDigit c = false ∧ c ≠ '.' ∧ c ≠ 'e' ∧ c ≠ 'E') (rest : Text) :
    Delimited (c :: rest) := by
  intro d hd
  injection hd with hd
  rw [← hd]
  exact hc

/-- White space ends a number. -/
theorem Spaces.delimited_append {blanks : Text} (h : Spaces blanks)
    (hrest : Delimited rest) : Delimited (blanks ++ rest) := by
  cases blanks with
  | nil => exact hrest
  | cons c more =>
      have hspace := h c List.mem_cons_self
      simp only [isSpace, Bool.or_eq_true, beq_iff_eq] at hspace
      rcases hspace with ((rfl | rfl) | rfl) | rfl
      all_goals exact delimited_cons (by decide) _

/-- White space is passed over as far as it goes. -/
theorem skipSpace_append_cons {blanks : Text} (h : Spaces blanks) {c : Char}
    (hc : isSpace c = false) (rest : Text) :
    skipSpace (blanks ++ c :: rest) = c :: rest := by
  rw [skipSpace_append h]
  exact List.dropWhile_cons_of_neg (by simp [hc])

-- ==================================================== what is accepted

theorem ne_of_isDigit {c d : Char} (h : isDigit c = true)
    (hd : isDigit d = false) : c ≠ d := by
  rintro rfl
  rw [hd] at h
  cases h

/-- No word is read where none of the table stands. -/
theorem wordLiteral?_eq_none (h : ∀ p ∈ wordLiterals, ¬ p.1.toList <+: t) :
    wordLiteral? t = none := by
  refine List.findSome?_eq_none_iff.mpr fun p hp => if_neg ?_
  rw [List.isPrefixOf_iff_prefix]
  exact h p hp

/-- No word starts like a number. -/
theorem wordLiteral?_of_isDigit {c : Char} (h : isDigit c = true) (t : Text) :
    wordLiteral? (c :: t) = none ∧ wordLiteral? ('-' :: c :: t) = none := by
  constructor
  · refine wordLiteral?_eq_none fun p hp hpre => ?_
    simp only [wordLiterals, List.mem_cons, List.not_mem_nil, or_false] at hp
    rcases hp with rfl | rfl | rfl | rfl | rfl | rfl
    all_goals
      exact ne_of_isDigit h (by decide) (List.cons_prefix_cons.mp hpre).1.symm
  · refine wordLiteral?_eq_none fun p hp hpre => ?_
    simp only [wordLiterals, List.mem_cons, List.not_mem_nil, or_false] at hp
    rcases hp with rfl | rfl | rfl | rfl | rfl | rfl
    case inr.inr.inr.inr.inr =>
      -- the one word with a sign goes on with a letter
      have hsecond :=
        (List.cons_prefix_cons.mp (List.cons_prefix_cons.mp hpre).2).1
      exact ne_of_isDigit h (by decide) hsecond.symm
    all_goals exact absurd (List.cons_prefix_cons.mp hpre).1 (by decide)

theorem value_of_isDigit {c : Char} (h : isDigit c = true) (fuel : Nat)
    (t : Text) : value (fuel + 1) (c :: t) = unsigned false (c :: t) := by
  rw [value.eq_def]
  simp only
  split
  case h_1 heq =>
      exact absurd (List.cons.inj heq).1 (ne_of_isDigit h (by decide))
  case h_2 heq =>
      exact absurd (List.cons.inj heq).1 (ne_of_isDigit h (by decide))
  case h_3 heq =>
      exact absurd (List.cons.inj heq).1 (ne_of_isDigit h (by decide))
  case h_4 =>
    rw [(wordLiteral?_of_isDigit h t).1]
    simp only
    split
    case h_1 heq =>
        exact absurd (List.cons.inj heq).1 (ne_of_isDigit h (by decide))
    case h_2 => rfl

theorem value_minus {c : Char} (h : isDigit c = true) (fuel : Nat) (t : Text) :
    value (fuel + 1) ('-' :: c :: t) = unsigned true (c :: t) := by
  rw [value.eq_def]
  simp only
  rw [(wordLiteral?_of_isDigit h t).2]
  rfl

/-- A word of the table is read, and no character after it. -/
theorem exists_value_word {word : String} (h : (word, v) ∈ wordLiterals)
    (fuel : Nat) (rest : Text) :
    ∃ w, value (fuel + 1) (word.toList ++ rest) = .ok (w, rest) := by
  simp only [wordLiterals, List.mem_cons, Prod.mk.injEq, List.not_mem_nil,
    or_false] at h
  rcases h with ⟨rfl, -⟩ | ⟨rfl, -⟩ | ⟨rfl, -⟩ | ⟨rfl, -⟩ | ⟨rfl, -⟩ | ⟨rfl, -⟩
  all_goals exact ⟨_, rfl⟩

/-- Elements of a kind are read from a text on, whatever was read before. -/
def Bracket.Reads (fuel : Nat) (t rest : Text) : Bracket → Prop
  | .array => ∀ acc, ∃ v, items fuel acc t = .ok (v, rest)
  | .object => ∀ acc, ∃ v, members fuel acc t = .ok (v, rest)

/-- Brackets with nothing but white space between them are read. -/
theorem Bracket.exists_value_empty (b : Bracket) {blanks : Text}
    (h : Spaces blanks) (fuel : Nat) (rest : Text) :
    ∃ v, value (fuel + 1) (b.opening :: (blanks ++ b.closing :: rest))
      = .ok (v, rest) := by
  cases b with
  | array =>
      have hskip : skipSpace (blanks ++ ']' :: rest) = ']' :: rest :=
        skipSpace_append_cons h (by decide) rest
      simp only [Bracket.opening, Bracket.closing]
      rw [value, hskip]
      exact ⟨_, rfl⟩
  | object =>
      have hskip : skipSpace (blanks ++ '\x7d' :: rest) = '\x7d' :: rest :=
        skipSpace_append_cons h (by decide) rest
      simp only [Bracket.opening, Bracket.closing]
      rw [value, hskip]
      exact ⟨_, rfl⟩

/-- Brackets are read if the elements between them are. -/
theorem Bracket.exists_value_full {b : Bracket} {blanks : Text}
    (h : Spaces blanks) (hbegins : Begins t) (hreads : b.Reads fuel t rest) :
    ∃ v, value (fuel + 1) (b.opening :: (blanks ++ t)) = .ok (v, rest) := by
  have hskip : skipSpace (blanks ++ t) = t := by
    rw [skipSpace_append h, hbegins.skipSpace]
  obtain ⟨c, more, rfl, -, hclose⟩ := hbegins
  cases b with
  | array =>
      obtain ⟨v, hv⟩ := hreads []
      refine ⟨v, ?_⟩
      simp only [Bracket.opening]
      rw [value, hskip]
      split
      case h_1 heq =>
        rw [(List.cons.inj heq).1] at hclose
        exact absurd hclose (by decide)
      case h_2 => exact hv
  | object =>
      obtain ⟨v, hv⟩ := hreads .empty
      refine ⟨v, ?_⟩
      simp only [Bracket.opening]
      rw [value, hskip]
      split
      case h_1 heq =>
        rw [(List.cons.inj heq).1] at hclose
        exact absurd hclose (by decide)
      case h_2 => exact hv

/-- One element of a kind is read from a text on. -/
def Bracket.ReadsOne (fuel : Nat) (t rest : Text) : Bracket → Prop
  | .array => ∃ v, value fuel t = .ok (v, rest)
  | .object => ∃ quoted key left more v, t = '\x22' :: quoted
      ∧ stringAfterQuote quoted = .ok (key, left) ∧ skipSpace left = ':' :: more
      ∧ value fuel (skipSpace more) = .ok (v, rest)

/-- After the last element the closing bracket is read. -/
theorem Bracket.ReadsOne.last {b : Bracket} {blanks : Text}
    (h : b.ReadsOne fuel t (blanks ++ b.closing :: rest))
    (hblanks : Spaces blanks) : b.Reads (fuel + 1) t rest := by
  cases b with
  | array =>
      intro acc
      obtain ⟨v, hv⟩ := h
      have hskip : skipSpace (blanks ++ ']' :: rest) = ']' :: rest :=
        skipSpace_append_cons hblanks (by decide) rest
      rw [items, hv]
      simp only [bind, Except.bind, closing, hskip]
      exact ⟨_, rfl⟩
  | object =>
      intro acc
      obtain ⟨quoted, key, left, more, v, rfl, hkey, hcolon, hv⟩ := h
      have hskip : skipSpace (blanks ++ '\x7d' :: rest) = '\x7d' :: rest :=
        skipSpace_append_cons hblanks (by decide) rest
      rw [members, hkey]
      simp only [bind, Except.bind, hcolon, hv, closing, hskip]
      exact ⟨_, rfl⟩

/-- After an element and a comma the next elements are read. -/
theorem Bracket.ReadsOne.more {b : Bracket} {before after : Text}
    (h : b.ReadsOne fuel t (before ++ ',' :: (after ++ u)))
    (hbefore : Spaces before) (hafter : Spaces after) (hu : Begins u)
    (hreads : b.Reads fuel u rest) : b.Reads (fuel + 1) t rest := by
  have hcomma : skipSpace (before ++ ',' :: (after ++ u))
      = ',' :: (after ++ u) :=
    skipSpace_append_cons hbefore (by decide) _
  have hnext : skipSpace (after ++ u) = u := by
    rw [skipSpace_append hafter, hu.skipSpace]
  cases b with
  | array =>
      intro acc
      obtain ⟨v, hv⟩ := h
      rw [items, hv]
      simp only [bind, Except.bind, hcomma, hnext]
      exact hreads _
  | object =>
      intro acc
      obtain ⟨quoted, key, left, more, v, rfl, hkey, hcolon, hv⟩ := h
      rw [members, hkey]
      simp only [bind, Except.bind, hcolon, hv, hcomma, hnext]
      exact hreads _

/-- A literal is read up to its closing quote. -/
theorem exists_value_string (h : Readable body) (fuel : Nat) (rest : Text) :
    ∃ v, value (fuel + 1) ('\x22' :: (body ++ '\x22' :: rest))
      = .ok (v, rest) := by
  obtain ⟨s, hs⟩ := h.exists_stringAfterQuote rest
  rw [value, hs]
  exact ⟨_, rfl⟩

/-- A numeral is read as far as it goes, with or without a sign. -/
theorem Numeral.exists_value (h : Numeral u) (hrest : Delimited rest)
    (fuel : Nat) :
    (∃ v, value (fuel + 1) (u ++ rest) = .ok (v, rest))
      ∧ ∃ v, value (fuel + 1) ('-' :: (u ++ rest)) = .ok (v, rest) := by
  obtain ⟨n, hn⟩ := h.exists_unsigned hrest false
  obtain ⟨m, hm⟩ := h.exists_unsigned hrest true
  obtain ⟨c, more, rfl, hc⟩ := h.exists_cons
  rw [List.cons_append] at hn hm ⊢
  rw [value_of_isDigit hc, value_minus hc, hn, hm]
  exact ⟨⟨n, rfl⟩, m, rfl⟩

/-- Where something begins, its length leaves fuel for a step. -/
theorem Begins.exists_fuel (h : Begins t) (hfuel : t.length ≤ fuel) :
    ∃ spare, fuel = spare + 1 := by
  obtain ⟨c, more, rfl, -⟩ := h
  cases fuel with
  | zero => cases hfuel
  | succ spare => exact ⟨spare, rfl⟩

/-- A number ends before a closing bracket. -/
theorem Bracket.delimited_closing (b : Bracket) (rest : Text) :
    Delimited (b.closing :: rest) := by
  cases b with
  | array => exact delimited_cons (by decide) rest
  | object => exact delimited_cons (by decide) rest

mutual

/-- What is spelled as a value is read as one, if there is fuel for its
characters and no number goes on behind it. With the next two lemmas this is one
induction on the spelling. -/
theorem IsValue.exists_value : ∀ {pieces : List Piece}, IsValue pieces →
    ∀ (fuel : Nat) (rest : Text), (textOf pieces).length ≤ fuel →
    Delimited rest →
      ∃ v, value fuel (textOf pieces ++ rest) = .ok (v, rest)
  | pieces, hpieces, fuel, rest, hfuel, hrest => by
      obtain ⟨spare, rfl⟩ := hpieces.begins.exists_fuel hfuel
      cases hpieces with
      | string h =>
          simpa [textOf_cons, Piece.text] using exists_value_string h spare rest
      | word h =>
          rw [textOf_chars]
          exact exists_value_word h spare rest
      | positive h =>
          rw [textOf_chars]
          exact (h.exists_value hrest spare).1
      | negative h =>
          rw [textOf_chars]
          exact (h.exists_value hrest spare).2
      | empty b hblanks => simpa using b.exists_value_empty hblanks spare rest
      | @full b blanks elements hblanks h =>
          rw [textOf_append, textOf_chars] at hfuel ⊢
          simp only [List.length_append, List.length_cons] at hfuel
          rw [List.append_assoc]
          have hreads := h.reads spare rest (by omega)
          exact Bracket.exists_value_full hblanks (h.begins.append rest) hreads

/-- What is spelled as an element is read as one. -/
theorem IsElement.readsOne :
    ∀ {b : Bracket} {pieces : List Piece}, IsElement b pieces →
    ∀ (fuel : Nat) (rest : Text), (textOf pieces).length ≤ fuel →
    Delimited rest →
      b.ReadsOne fuel (textOf pieces ++ rest) rest
  | _, _, .item h, fuel, rest, hfuel, hrest =>
      h.exists_value fuel rest hfuel hrest
  | _, _, @IsElement.member _ before after item hkey hbefore hafter h,
      fuel, rest, hfuel, hrest => by
      simp only [textOf_cons, textOf_append, textOf_chars, List.length_append]
        at hfuel
      obtain ⟨v, hv⟩ := h.exists_value fuel rest (by omega) hrest
      obtain ⟨s, hs⟩ :=
        hkey.exists_stringAfterQuote
          (before ++ ':' :: (after ++ (textOf item ++ rest)))
      refine ⟨_, s, _, _, v, ?_, hs,
        skipSpace_append_cons hbefore (by decide) _, ?_⟩
      · simp [textOf_cons, Piece.text]
      · rw [skipSpace_append hafter, (h.begins.append rest).skipSpace]
        exact hv

/-- What is spelled as elements is read up to the closing bracket. -/
theorem AreElements.reads :
    ∀ {b : Bracket} {pieces : List Piece}, AreElements b pieces →
    ∀ (fuel : Nat) (rest : Text), (textOf pieces).length ≤ fuel →
      b.Reads fuel (textOf pieces ++ rest) rest
  | _, _, @AreElements.last b element blanks h hblanks, fuel, rest, hfuel => by
      obtain ⟨spare, rfl⟩ :=
        (AreElements.last h hblanks).begins.exists_fuel hfuel
      simp only [textOf_append, textOf_chars, List.length_append,
        List.length_singleton] at hfuel
      have hclose := hblanks.delimited_append (b.delimited_closing rest)
      have hone := h.readsOne spare _ (by omega) hclose
      simpa using hone.last hblanks
  | _, _, @AreElements.more b element elements before after h hbefore hafter
      hmore, fuel, rest, hfuel => by
      obtain ⟨spare, rfl⟩ :=
        (AreElements.more h hbefore hafter hmore).begins.exists_fuel hfuel
      simp only [textOf_append, textOf_chars, List.length_append,
        List.length_cons] at hfuel
      have hcomma :=
        hbefore.delimited_append
          (delimited_cons (c := ',') (by decide)
            (after ++ (textOf elements ++ rest)))
      have hone := h.readsOne spare _ (by omega) hcomma
      have helements := hmore.reads spare rest (by omega)
      simpa using hone.more hbefore hafter (hmore.begins.append rest) helements

end

/-- A document is read. -/
theorem IsDocument.exists_read {pieces : List Piece} (h : IsDocument pieces) :
    ∃ v, read (textOf pieces) = .ok v := by
  obtain @⟨before, after, value, hbefore, h, hafter⟩ := h
  have hend : Delimited after := by
    simpa using hafter.delimited_append delimited_nil
  have hskip : skipSpace (before ++ (textOf value ++ after))
      = textOf value ++ after := by
    rw [skipSpace_append hbefore, (h.begins.append after).skipSpace]
  have hall : skipSpace after = [] := by
    simpa [skipSpace] using skipSpace_append hafter []
  have hfuel : (textOf value).length
      ≤ (before ++ (textOf value ++ after)).length + 1 := by
    simp only [List.length_append]
    omega
  obtain ⟨v, hv⟩ := h.exists_value _ after hfuel hend
  refine ⟨v, ?_⟩
  simp only [textOf_append, textOf_chars, read, bind, Except.bind,
    hskip, hv, hall]
  rfl

end SourceAtlas.Json
