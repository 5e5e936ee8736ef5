/-
The text of a JSON document determines the document. The writer is a
self-delimiting code: what is written of a value can be told from whatever
follows it, as long as no digit follows a number. So two documents are
compared from left to right: the first character gives the kind of the value
(`Kind`), then the parts agree one after the other.

- A number ends where its digits end.
- A string is read back by the string reader, one escape a step
  (`stringBody_escapeChar`); hence its text is determined, with surrogate
  pairs and all.
- Between brackets every value is followed by a comma or a line break, and
  neither starts a value. Arrays and objects share this part (`enclosed`).

Real numbers are left out (`Plain`); no document of this library that is
compared by its text holds one. Consumed by the theory of the index document.
-/
import SourceAtlas.Json.Reader
import SourceAtlas.Json.Writer
import SourceAtlas.Proofs.Text.Decimal

namespace SourceAtlas.Json

-- =============================================================== code units

/-- The digits of a code unit. -/
def unitDigits (n : Nat) : Text :=
  [hexDigit (n / 4096 % 16), hexDigit (n / 256 % 16), hexDigit (n / 16 % 16),
    hexDigit (n % 16)]

theorem codeUnit_eq (n : Nat) : codeUnit n = '\x5c' :: 'u' :: unitDigits n :=
  rfl

theorem hexValue?_hexDigit :
    ∀ n < 16, hexValue? (hexDigit n) = some n := by decide

/-- The digits of a code unit are read back. -/
theorem codeUnit?_unitDigits {n : Nat} (h : n < 0x10000) (rest : Text) :
    codeUnit? (unitDigits n ++ rest) = some (n, rest) := by
  have hdigit : ∀ m, hexValue? (hexDigit (m % 16)) = some (m % 16) :=
    fun m => hexValue?_hexDigit _ (Nat.mod_lt m (by decide))
  have hsum :
      ((n / 4096 % 16 * 16 + n / 256 % 16) * 16 + n / 16 % 16) * 16 + n % 16
        = n := by
    omega
  simp only [unitDigits, List.cons_append, List.nil_append, codeUnit?, hdigit,
    Option.bind_eq_bind, Option.bind_some, Option.pure_def, hsum]

/-- A code unit that is no half of a pair stands for its own character. -/
theorem escapedChar?_unit {n : Nat} (hn : n < 0x10000)
    (hwhole : n < 0xd800 ∨ 0xdfff < n) (rest : Text) :
    escapedChar? (unitDigits n ++ rest) = some (Char.ofNat n, rest) := by
  unfold escapedChar?
  rw [codeUnit?_unitDigits hn]
  have hno : ¬ ((decide (0xd800 ≤ n) && decide (n ≤ 0xdfff)) = true) := by
    simp only [Bool.and_eq_true, decide_eq_true_eq]
    omega
  exact if_neg hno

/-- The second half of a pair is read back. -/
theorem lowHalf?_codeUnit {n : Nat} (hlow : 0xdc00 ≤ n) (hn : n ≤ 0xdfff)
    (rest : Text) : lowHalf? (codeUnit n ++ rest) = some (n, rest) := by
  have hunit := codeUnit?_unitDigits (n := n) (by omega) rest
  have hyes : (decide (0xdc00 ≤ n) && decide (n ≤ 0xdfff)) = true := by
    simp only [Bool.and_eq_true, decide_eq_true_eq]
    omega
  rw [codeUnit_eq]
  simp only [List.cons_append, lowHalf?, hunit, Option.bind_eq_bind,
    Option.bind_some]
  exact if_pos hyes

/-- Two halves of a pair stand for a character beyond the first plane. -/
theorem escapedChar?_pair {high low : Nat} (hhigh : 0xd800 ≤ high)
    (hhigh' : high ≤ 0xdbff) (hlow : 0xdc00 ≤ low) (hlow' : low ≤ 0xdfff)
    (rest : Text) :
    escapedChar? (unitDigits high ++ (codeUnit low ++ rest))
      = some (Char.ofNat (0x10000 + (high - 0xd800) * 0x400 + (low - 0xdc00)),
        rest) := by
  have hyes : (decide (0xd800 ≤ high) && decide (high ≤ 0xdfff)) = true := by
    simp only [Bool.and_eq_true, decide_eq_true_eq]
    omega
  unfold escapedChar?
  rw [codeUnit?_unitDigits (by omega)]
  simp only [Option.bind_eq_bind, Option.bind_some]
  rw [if_pos hyes, lowHalf?_codeUnit hlow hlow']
  exact if_pos hhigh'

-- ================================================================== strings

/-- No character is half of a pair. -/
theorem toNat_lt_or_lt (c : Char) :
    c.toNat < 0xd800 ∨ (0xdfff < c.toNat ∧ c.toNat < 0x110000) :=
  c.valid

/-- A character that stands for itself. -/
theorem stringBody_plain {c : Char} (hc : 0x20 ≤ c.toNat) (hquote : c ≠ '\x22')
    (hslash : c ≠ '\x5c') (fuel : Nat) (acc rest : Text) :
    stringBody (fuel + 1) acc (c :: rest)
      = stringBody fuel (c :: acc) rest := by
  rw [stringBody]
  · have hno : ¬ ((decide (c.toNat < 0x20) || c == '\x5c') = true) := by
      simp only [Bool.or_eq_true, decide_eq_true_eq, beq_iff_eq, not_or]
      exact ⟨Nat.not_lt.mpr hc, hslash⟩
    exact if_neg hno
  · exact hquote
  · intro after h
    exact absurd h hslash
  · intro e after h
    exact absurd h hslash

/-- A code unit in a string is read as its character. -/
theorem stringBody_unit {t rest : Text} {c : Char}
    (h : escapedChar? t = some (c, rest)) (fuel : Nat) (acc : Text) :
    stringBody (fuel + 1) acc ('\x5c' :: 'u' :: t)
      = stringBody fuel (c :: acc) rest := by
  rw [stringBody, h]

/-- One step of the reader takes in what is written of one character. -/
theorem stringBody_escapeChar (fuel : Nat) (acc : Text) (c : Char)
    (rest : Text) :
    stringBody (fuel + 1) acc (escapeChar c ++ rest)
      = stringBody fuel (c :: acc) rest := by
  unfold escapeChar
  split
  -- the seven characters with an escape of one letter
  · rfl
  · rfl
  · rfl
  · rfl
  · rfl
  · rfl
  · rfl
  · next hquote hslash _ _ _ _ _ =>
    have hvalid := toNat_lt_or_lt c
    simp only
    split
    · next h =>
      obtain ⟨hlow, -⟩ := Bool.and_eq_true_iff.mp h
      exact stringBody_plain (of_decide_eq_true hlow) hquote hslash
        fuel acc rest
    · split
      · next h =>
        rw [codeUnit_eq, List.cons_append, List.cons_append]
        refine stringBody_unit ?_ fuel acc
        rw [escapedChar?_unit h (by omega), Char.ofNat_toNat]
      · next h =>
        rw [codeUnit_eq, List.append_assoc, List.cons_append, List.cons_append]
        refine stringBody_unit ?_ fuel acc
        rw [escapedChar?_pair (by omega) (by omega) (by omega) (by omega)]
        have hsum :
            0x10000 + (0xd800 + (c.toNat - 0x10000) / 0x400 - 0xd800) * 0x400
              + (0xdc00 + (c.toNat - 0x10000) % 0x400 - 0xdc00) = c.toNat := by
          omega
        rw [hsum, Char.ofNat_toNat]

/-- What is written of a string is read back. -/
theorem stringBody_flatMap_escapeChar (t : Text) (fuel : Nat)
    (hfuel : t.length < fuel) (acc rest : Text) :
    stringBody fuel acc (t.flatMap escapeChar ++ '\x22' :: rest)
      = .ok (acc.reverse ++ t, rest) := by
  induction t generalizing fuel acc with
  | nil =>
      cases fuel with
      | zero => cases hfuel
      | succ fuel =>
          show Except.ok (acc.reverse, rest) = _
          rw [List.append_nil]
  | cons c more ih =>
      cases fuel with
      | zero => cases hfuel
      | succ fuel =>
          rw [List.flatMap_cons, List.append_assoc, stringBody_escapeChar,
            ih fuel (Nat.lt_of_succ_lt_succ hfuel), List.reverse_cons,
            List.append_assoc]
          rfl

/-- A quoted text ends where it is closed, so it can be told from what
follows. -/
theorem quote_append_inj {t u rest more : Text}
    (h : quote t ++ rest = quote u ++ more) : t = u ∧ rest = more := by
  simp only [quote, List.cons_append, List.append_assoc, List.nil_append,
    List.cons.injEq, true_and] at h
  -- one reader with fuel for both gives both texts
  have ht :=
    stringBody_flatMap_escapeChar t (t.length + u.length + 1) (by omega) [] rest
  have hu :=
    stringBody_flatMap_escapeChar u (t.length + u.length + 1) (by omega) [] more
  rw [h, hu, Except.ok.injEq, Prod.mk.injEq] at ht
  exact ⟨ht.1.symm, ht.2.symm⟩

-- ==================================================================== kinds

/-- A document without real numbers. -/
inductive Plain : Json → Prop where
  | null : Plain null
  | bool (b : Bool) : Plain (bool b)
  | integer (n : Int) : Plain (integer n)
  | string (t : Text) : Plain (string t)
  | array {items : List Json} (h : ∀ item ∈ items, Plain item) :
      Plain (array items)
  | object {members : List (Text × Json)}
      (h : ∀ member ∈ members, Plain member.2) : Plain (object members)

/-- The kinds of documents, by the first character of what is written. -/
inductive Kind where
  | null
  | bool
  | number
  | string
  | array
  | object

/-- The kind that a first character announces. -/
def Kind.ofChar : Char → Kind
  | 'n' => null
  | 't' => bool
  | 'f' => bool
  | '\x22' => string
  | '[' => array
  | '\x7b' => object
  | _ => number

/-- A sign or a digit announces a number. -/
theorem Kind.ofChar_eq_number {c : Char} (h : c = '-' ∨ c.isDigit = true) :
    ofChar c = number := by
  unfold ofChar
  split
  · exact absurd h (by decide)
  · exact absurd h (by decide)
  · exact absurd h (by decide)
  · exact absurd h (by decide)
  · exact absurd h (by decide)
  · exact absurd h (by decide)
  · rfl

/-- The kind of a document. -/
def kind : Json → Kind
  | .null => .null
  | .bool _ => .bool
  | .integer _ => .number
  | .real _ => .number
  | .string _ => .string
  | .array _ => .array
  | .object _ => .object

/-- A document starts with a character of its kind. -/
theorem exists_writeAt_eq_cons {x : Json} (hx : Plain x) (level : Nat) :
    ∃ c after, writeAt level x = c :: after ∧ Kind.ofChar c = x.kind := by
  cases hx with
  | null => exact ⟨_, _, rfl, rfl⟩
  | bool b => cases b <;> exact ⟨_, _, rfl, rfl⟩
  | integer n =>
      obtain ⟨c, after, hn, hc⟩ := Text.exists_ofInt_eq_cons n
      exact ⟨c, after, hn, Kind.ofChar_eq_number hc⟩
  | string t => exact ⟨_, _, rfl, rfl⟩
  | @array items h =>
      cases items with
      | nil => exact ⟨_, _, rfl, rfl⟩
      | cons item rest => exact ⟨_, _, rfl, rfl⟩
  | @object members h =>
      cases members with
      | nil => exact ⟨_, _, rfl, rfl⟩
      | cons member rest => exact ⟨_, _, rfl, rfl⟩

/-- The first character of a document shows its kind. -/
theorem kind_eq_of_append_eq {x y : Json} (hx : Plain x) (hy : Plain y)
    {level : Nat} {rest more : Text}
    (h : writeAt level x ++ rest = writeAt level y ++ more) :
    x.kind = y.kind := by
  obtain ⟨c, after, hc, hkind⟩ := exists_writeAt_eq_cons hx level
  obtain ⟨d, before, hd, hkind'⟩ := exists_writeAt_eq_cons hy level
  rw [hc, hd] at h
  rw [← hkind, ← hkind', (List.cons.inj h).1]

-- =============================================================== containers

section Containers

variable {α : Type} {level : Nat} {write : α → Text} {xs ys : List α}
  {rest more : Text}

/-- What is written of a value on the left and of one on the right differs
before anything that follows can make it the same, unless they are equal. -/
def SelfDelimiting (write : α → Text) (xs ys : List α) : Prop :=
  ∀ x ∈ xs, ∀ y ∈ ys, ∀ r s, Text.EndsNumeral r → Text.EndsNumeral s →
    write x ++ r = write y ++ s → x = y ∧ r = s

/-- Values after one another at a level, a comma before each. -/
def separated (level : Nat) (write : α → Text) (values : List α) : Text :=
  values.flatMap fun value => ',' :: newline level ++ write value

/-- Items after the first have a comma and a line end in front. -/
theorem separated_cons_append {x : α} :
    separated level write (x :: xs) ++ rest
      = ',' :: (newline level
        ++ (write x ++ (separated level write xs ++ rest))) := by
  simp [separated]

theorem endsNumeral_separated {outer : Nat} :
    Text.EndsNumeral (separated level write xs ++ (newline outer ++ rest)) := by
  cases xs with
  | nil => exact Text.endsNumeral_cons rfl
  | cons x xs => exact Text.endsNumeral_cons rfl

/-- Items can be told from each other and from the closing bracket. -/
theorem separated_append_inj {outer : Nat} (hwrite : SelfDelimiting write xs ys)
    (h : separated level write xs ++ (newline outer ++ rest)
      = separated level write ys ++ (newline outer ++ more)) :
    xs = ys ∧ rest = more := by
  -- a comma goes on with the list, the line break of the outer level ends it
  induction xs generalizing ys with
  | nil =>
      cases ys with
      | nil => exact ⟨rfl, List.append_cancel_left h⟩
      | cons y ys => cases (List.cons.inj h).1
  | cons x xs ih =>
      cases ys with
      | nil => cases (List.cons.inj h).1
      | cons y ys =>
          rw [separated_cons_append, separated_cons_append] at h
          have hhere := List.append_cancel_left (List.cons.inj h).2
          have hothers : SelfDelimiting write xs ys := by
            intro a ha b hb
            exact hwrite a (List.mem_cons_of_mem _ ha) b
              (List.mem_cons_of_mem _ hb)
          obtain ⟨hxy, htail⟩ :=
            hwrite x List.mem_cons_self y List.mem_cons_self _ _
              endsNumeral_separated endsNumeral_separated hhere
          obtain ⟨hxs, hrest⟩ := ih hothers htail
          rw [hxy, hxs]
          exact ⟨rfl, hrest⟩

/-- Values between brackets: on lines of their own, if there are any. -/
def enclosed (level : Nat) (first last : Char) (write : α → Text) :
    List α → Text
  | [] => [first, last]
  | value :: values =>
    first :: newline (level + 1) ++ write value
      ++ separated (level + 1) write values ++ newline level ++ [last]

theorem enclosed_append_inj {first last : Char} (hlast : last ≠ '\n')
    (hwrite : SelfDelimiting write xs ys)
    (h : enclosed level first last write xs ++ rest
      = enclosed level first last write ys ++ more) :
    xs = ys ∧ rest = more := by
  cases xs with
  | nil =>
      cases ys with
      | nil => exact ⟨rfl, List.append_cancel_left h⟩
      | cons y ys =>
          -- one side closes where the other one breaks the line
          obtain ⟨-, h⟩ := List.cons.inj h
          exact absurd (List.cons.inj h).1 hlast
  | cons x xs =>
      cases ys with
      | nil =>
          obtain ⟨-, h⟩ := List.cons.inj h
          exact absurd (List.cons.inj h).1.symm hlast
      | cons y ys =>
          have hlist :
              separated (level + 1) write (x :: xs)
                ++ (newline level ++ last :: rest)
                = separated (level + 1) write (y :: ys)
                  ++ (newline level ++ last :: more) := by
            rw [separated_cons_append, separated_cons_append]
            simpa [enclosed] using h
          obtain ⟨hxs, htail⟩ := separated_append_inj hwrite hlist
          exact ⟨hxs, (List.cons.inj htail).2⟩

end Containers

-- ================================================================ documents

/-- A member of an object. -/
def writeMember (level : Nat) (member : Text × Json) : Text :=
  quote member.1 ++ [':', ' '] ++ writeAt level member.2

/-- Items of an array are written with separators between them. -/
theorem writeItems_eq (level : Nat) (items : List Json) :
    writeItems level items = separated level (writeAt level) items := by
  induction items with
  | nil => rfl
  | cons item rest ih =>
      rw [writeItems, ih]
      rfl

theorem writeMembers_eq (level : Nat) (members : List (Text × Json)) :
    writeMembers level members
      = separated level (writeMember level) members := by
  induction members with
  | nil => rfl
  | cons member rest ih =>
      rw [writeMembers, ih]
      simp [separated, writeMember]

/-- An array is written in square brackets. -/
theorem writeAt_array (level : Nat) (items : List Json) :
    writeAt level (array items)
      = enclosed level '[' ']' (writeAt (level + 1)) items := by
  cases items with
  | nil => rfl
  | cons item rest =>
      rw [writeAt, writeItems_eq]
      rfl

theorem writeAt_object (level : Nat) (members : List (Text × Json)) :
    writeAt level (object members)
      = enclosed level '\x7b' '\x7d' (writeMember (level + 1)) members := by
  cases members with
  | nil => rfl
  | cons member rest =>
      rw [writeAt, writeMembers_eq]
      simp [enclosed, writeMember]

/-- What is written of a document can be told from what follows. -/
theorem writeAt_append_inj {x y : Json} (hx : Plain x) (hy : Plain y)
    {level : Nat} {rest more : Text} (hrest : Text.EndsNumeral rest)
    (hmore : Text.EndsNumeral more)
    (h : writeAt level x ++ rest = writeAt level y ++ more) :
    x = y ∧ rest = more := by
  -- along the left document; the right one is of the same kind
  induction hx generalizing y level rest more with
  | null =>
      have hkind := kind_eq_of_append_eq .null hy h
      cases hy with
      | null => exact ⟨rfl, List.append_cancel_left h⟩
      | _ => cases hkind
  | bool b =>
      have hkind := kind_eq_of_append_eq (.bool b) hy h
      cases hy with
      | bool d =>
          cases b <;> cases d
          · exact ⟨rfl, List.append_cancel_left h⟩
          · cases (List.cons.inj h).1
          · cases (List.cons.inj h).1
          · exact ⟨rfl, List.append_cancel_left h⟩
      | _ => cases hkind
  | integer n =>
      have hkind := kind_eq_of_append_eq (.integer n) hy h
      cases hy with
      | integer m =>
          obtain ⟨hn, htail⟩ := Text.ofInt_append_inj hrest hmore h
          exact ⟨congrArg integer hn, htail⟩
      | _ => cases hkind
  | string t =>
      have hkind := kind_eq_of_append_eq (.string t) hy h
      cases hy with
      | string u =>
          obtain ⟨ht, htail⟩ := quote_append_inj h
          exact ⟨congrArg string ht, htail⟩
      | _ => cases hkind
  | @array items hitems ih =>
      have hkind := kind_eq_of_append_eq (.array hitems) hy h
      cases hy with
      | @array others hothers =>
          have hwrite : SelfDelimiting (writeAt (level + 1)) items others := by
            intro a ha b hb r s hr hs hab
            exact ih a ha (hothers b hb) hr hs hab
          rw [writeAt_array, writeAt_array] at h
          obtain ⟨hsame, htail⟩ := enclosed_append_inj (by decide) hwrite h
          exact ⟨congrArg array hsame, htail⟩
      | _ => cases hkind
  | @object members hmembers ih =>
      have hkind := kind_eq_of_append_eq (.object hmembers) hy h
      cases hy with
      | @object others hothers =>
          have hwrite :
              SelfDelimiting (writeMember (level + 1)) members others := by
            intro a ha b hb r s hr hs hab
            simp only [writeMember, List.append_assoc] at hab
            obtain ⟨hkey, hvalues⟩ := quote_append_inj hab
            obtain ⟨hvalue, htail⟩ := ih a ha (hothers b hb) hr hs
              (List.append_cancel_left hvalues)
            exact ⟨Prod.ext hkey hvalue, htail⟩
          rw [writeAt_object, writeAt_object] at h
          obtain ⟨hsame, htail⟩ := enclosed_append_inj (by decide) hwrite h
          exact ⟨congrArg object hsame, htail⟩
      | _ => cases hkind

/-- The text of a document determines it. -/
theorem write_inj {x y : Json} (hx : Plain x) (hy : Plain y)
    (h : x.write = y.write) : x = y :=
  (writeAt_append_inj hx hy (Text.endsNumeral_cons rfl)
    (Text.endsNumeral_cons rfl) h).1

end SourceAtlas.Json
