/-
Decimal numerals: digits, behind a sign if the number is negative. A numeral
goes on as long as digits follow, so it can be told from any text behind it
that starts with no digit, and then the numeral determines the number.

Consumed by the theory of the JSON writer, where a comma or a line break
ends a number, and by that of locations, which end with one.
-/
import SourceAtlas.Text.Basic

namespace SourceAtlas.Text

variable {rest more : Text}

-- ============================================================ where one ends

/-- A numeral before this text ends where the text starts. -/
def EndsNumeral (rest : Text) : Prop :=
  ∀ c, rest.head? = some c → c.isDigit = false

theorem endsNumeral_nil : EndsNumeral [] := by
  intro c h
  cases h

theorem endsNumeral_cons {c : Char} (h : c.isDigit = false) :
    EndsNumeral (c :: rest) := by
  intro first hfirst
  rw [List.head?_cons, Option.some.injEq] at hfirst
  rw [← hfirst]
  exact h

/-- The digits before such a text are all that it starts with. -/
theorem takeWhile_isDigit_append {digits : Text}
    (hdigits : ∀ c ∈ digits, c.isDigit = true) (hrest : EndsNumeral rest) :
    (digits ++ rest).takeWhile Char.isDigit = digits := by
  rw [List.takeWhile_append_of_pos hdigits]
  cases rest with
  | nil => exact List.append_nil digits
  | cons c after =>
      have hc : ¬ c.isDigit = true := by
        rw [hrest c rfl]
        exact Bool.false_ne_true
      rw [List.takeWhile_cons, if_neg hc, List.append_nil]

-- ========================================================== natural numbers

theorem isDigit_of_mem_ofNat {n : Nat} {c : Char} (h : c ∈ ofNat n) :
    c.isDigit = true :=
  Nat.isDigit_of_mem_toDigits (by decide) (by decide) h

/-- A numeral starts with a digit. -/
theorem exists_ofNat_eq_cons (n : Nat) :
    ∃ c digits, ofNat n = c :: digits ∧ c.isDigit = true := by
  cases h : ofNat n with
  | nil => exact absurd h Nat.toDigits_ne_nil
  | cons c digits =>
      exact ⟨c, digits, rfl, isDigit_of_mem_ofNat (h ▸ List.mem_cons_self)⟩

theorem ofNat_append_inj {n m : Nat} (hrest : EndsNumeral rest)
    (hmore : EndsNumeral more) (h : ofNat n ++ rest = ofNat m ++ more) :
    n = m ∧ rest = more := by
  have hdigits : ofNat n = ofNat m := by
    rw [← takeWhile_isDigit_append (fun _ => isDigit_of_mem_ofNat) hrest, h,
      takeWhile_isDigit_append (fun _ => isDigit_of_mem_ofNat) hmore]
  have hn : n = m := by
    calc n = Nat.ofDigitChars 10 (ofNat n) 0 :=
      Nat.ofDigitChars_ten_toDigits.symm
      _ = Nat.ofDigitChars 10 (ofNat m) 0 := by rw [hdigits]
      _ = m := Nat.ofDigitChars_ten_toDigits
  rw [hdigits] at h
  exact ⟨hn, List.append_cancel_left h⟩

-- ================================================================= integers

/-- A numeral starts with a digit or with a sign. -/
theorem exists_ofInt_eq_cons (n : Int) :
    ∃ c after, ofInt n = c :: after ∧ (c = '-' ∨ c.isDigit = true) := by
  cases n with
  | ofNat n =>
      obtain ⟨c, digits, hn, hc⟩ := exists_ofNat_eq_cons n
      exact ⟨c, digits, hn, Or.inr hc⟩
  | negSucc n => exact ⟨'-', ofNat (n + 1), rfl, Or.inl rfl⟩

/-- All characters of a numeral are digits, but for a sign. -/
theorem eq_minus_or_isDigit_of_mem_ofInt {n : Int} {c : Char}
    (h : c ∈ ofInt n) : c = '-' ∨ c.isDigit = true := by
  cases n with
  | ofNat n => exact Or.inr (isDigit_of_mem_ofNat h)
  | negSucc n =>
      rcases List.mem_cons.mp h with hc | hc
      · exact Or.inl hc
      · exact Or.inr (isDigit_of_mem_ofNat hc)

/-- The numeral of a natural number has no sign. -/
theorem ofNat_append_ne_minus {n : Nat} : ofNat n ++ rest ≠ '-' :: more := by
  obtain ⟨c, digits, hn, hc⟩ := exists_ofNat_eq_cons n
  rw [hn]
  intro h
  obtain ⟨hminus, -⟩ := List.cons.inj h
  rw [hminus] at hc
  cases hc

theorem ofInt_append_inj {n m : Int} (hrest : EndsNumeral rest)
    (hmore : EndsNumeral more) (h : ofInt n ++ rest = ofInt m ++ more) :
    n = m ∧ rest = more := by
  cases n with
  | ofNat n =>
      cases m with
      | ofNat m =>
          obtain ⟨hn, htail⟩ := ofNat_append_inj hrest hmore h
          exact ⟨congrArg Int.ofNat hn, htail⟩
      | negSucc m => exact absurd h ofNat_append_ne_minus
  | negSucc n =>
      cases m with
      | ofNat m => exact absurd h.symm ofNat_append_ne_minus
      | negSucc m =>
          obtain ⟨hn, htail⟩ := ofNat_append_inj hrest hmore (List.cons.inj h).2
          exact ⟨congrArg Int.negSucc (Nat.succ.inj hn), htail⟩

theorem ofInt_injective {n m : Int} (h : ofInt n = ofInt m) : n = m := by
  have happend : ofInt n ++ [] = ofInt m ++ [] := by rw [h]
  exact (ofInt_append_inj endsNumeral_nil endsNumeral_nil happend).1

end SourceAtlas.Text
