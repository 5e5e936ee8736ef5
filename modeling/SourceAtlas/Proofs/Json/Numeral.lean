/-
The numbers that the reader accepts. It takes digits as long as there are any,
so whether a number is read as a whole hangs on what follows it (`Delimited`);
in a document a space, a comma or a bracket does. Given that, a number is read
exactly if it is a `Numeral`: what is read was one
(`exists_numeral_of_unsigned`), and every one is read
(`Numeral.exists_unsigned`). What a number is worth plays no part here.

Consumed by the grammar of documents.
-/
import SourceAtlas.Json.Reader
import SourceAtlas.Proofs.Text.Decimal

namespace SourceAtlas.Json

open Text (EndsNumeral)

variable {t u w r rest : Text} {v : Json}

-- ============================================================ the grammar

/-- Nothing comes next that would go on with a number. -/
def Delimited (rest : Text) : Prop :=
  ∀ c ∈ rest.head?, isDigit c = false ∧ c ≠ '.' ∧ c ≠ 'e' ∧ c ≠ 'E'

/-- No digit goes on where a number ends. -/
theorem Delimited.endsNumeral (h : Delimited rest) : EndsNumeral rest :=
  fun c hc => (h c hc).1

/-- Digits, at least one. -/
structure IsDigits (u : Text) : Prop where
  nonempty : u ≠ []
  digits : ∀ c ∈ u, isDigit c = true

/-- The digits before the point. -/
def IsWhole (u : Text) : Prop := u = ['0'] ∨ (IsDigits u ∧ u.head? ≠ some '0')

/-- A power of ten. -/
inductive IsExponent : Text → Prop where
  | mk {e : Char} {sign d : Text} (he : e = 'e' ∨ e = 'E')
      (hsign : sign = [] ∨ sign = ['+'] ∨ sign = ['-']) (hd : IsDigits d) :
      IsExponent (e :: (sign ++ d))

/-- A number without its sign. Only a whole number can have too many
digits. -/
inductive Numeral : Text → Prop where
  | whole {w : Text} (hw : IsWhole w) (hlength : w.length ≤ Text.maxDigits) :
      Numeral w
  | power {w x : Text} (hw : IsWhole w) (hx : IsExponent x) : Numeral (w ++ x)
  | fraction {w f : Text} (hw : IsWhole w) (hf : IsDigits f) :
      Numeral (w ++ '.' :: f)
  | fractionPower {w f x : Text} (hw : IsWhole w) (hf : IsDigits f)
      (hx : IsExponent x) : Numeral (w ++ '.' :: (f ++ x))

/-- A whole part starts with a digit. -/
theorem IsWhole.exists_cons (h : IsWhole w) :
    ∃ c more, w = c :: more ∧ isDigit c = true := by
  rcases h with rfl | ⟨hdigits, -⟩
  · exact ⟨'0', [], rfl, by decide⟩
  · obtain ⟨c, more, rfl⟩ := List.exists_cons_of_ne_nil hdigits.nonempty
    exact ⟨c, more, rfl, hdigits.digits c List.mem_cons_self⟩

/-- A number starts with a digit. -/
theorem Numeral.exists_cons (h : Numeral u) :
    ∃ c more, u = c :: more ∧ isDigit c = true := by
  cases h with
  | whole hw => exact hw.exists_cons
  | power hw =>
      obtain ⟨c, more, rfl, hc⟩ := hw.exists_cons
      exact ⟨c, _, rfl, hc⟩
  | fraction hw =>
      obtain ⟨c, more, rfl, hc⟩ := hw.exists_cons
      exact ⟨c, _, rfl, hc⟩
  | fractionPower hw =>
      obtain ⟨c, more, rfl, hc⟩ := hw.exists_cons
      exact ⟨c, _, rfl, hc⟩

/-- Digits are taken off what does not go on with them. -/
theorem span_isDigit (h : ∀ c ∈ u, isDigit c = true)
    (hrest : EndsNumeral rest) :
    (u ++ rest).takeWhile isDigit = u
      ∧ (u ++ rest).dropWhile isDigit = rest := by
  have htake : (u ++ rest).takeWhile isDigit = u :=
    Text.takeWhile_isDigit_append h hrest
  have hsplit := List.takeWhile_append_dropWhile (p := isDigit) (l := u ++ rest)
  rw [htake] at hsplit
  exact ⟨htake, List.append_cancel_left hsplit⟩

/-- The digits up to the next other character are digits. -/
theorem isDigits_takeWhile {c : Char} (h : isDigit c = true) (rest : Text) :
    IsDigits ((c :: rest).takeWhile isDigit) := by
  refine ⟨?_, fun d hd => List.all_eq_true.mp List.all_takeWhile d hd⟩
  rw [List.takeWhile_cons_of_pos h]
  exact List.cons_ne_nil _ _

/-- What is read as a whole part is one. -/
theorem whole?_eq_some (h : whole? t = some (w, r)) :
    IsWhole w ∧ t = w ++ r := by
  unfold whole? at h
  split at h
  case h_1 rest =>
    injection h with h
    injection h with hw hr
    rw [← hw, ← hr]
    exact ⟨.inl rfl, rfl⟩
  case h_2 c rest hzero =>
    split at h
    case isTrue hc =>
      injection h with h
      injection h with hw hr
      rw [← hw, ← hr]
      refine ⟨.inr ⟨isDigits_takeWhile hc rest, ?_⟩,
        (List.takeWhile_append_dropWhile).symm⟩
      rw [List.takeWhile_cons_of_pos hc, List.head?_cons]
      intro h0
      injection h0 with h0
      exact hzero h0
    case isFalse => cases h
  case h_3 => cases h

/-- A whole part is read as far as it goes. -/
theorem IsWhole.whole?_append (h : IsWhole w) (hrest : EndsNumeral rest) :
    whole? (w ++ rest) = some (w, rest) := by
  rcases h with rfl | ⟨hdigits, hzero⟩
  · rfl
  · obtain ⟨c, more, rfl⟩ := List.exists_cons_of_ne_nil hdigits.nonempty
    have hc : isDigit c = true := hdigits.digits c List.mem_cons_self
    obtain ⟨htake, hdrop⟩ := span_isDigit hdigits.digits hrest
    rw [List.cons_append] at htake hdrop ⊢
    rw [whole?, if_pos hc, htake, hdrop]
    rintro rfl
    exact hzero rfl

/-- What is read as a fraction is a point and digits. -/
theorem fraction?_eq_some (h : fraction? t = some (w, r)) :
    IsDigits w ∧ t = '.' :: (w ++ r) := by
  unfold fraction? at h
  split at h
  case h_1 c rest =>
    split at h
    case isTrue hc =>
      injection h with h
      injection h with hw hr
      rw [← hw, ← hr, List.takeWhile_append_dropWhile]
      exact ⟨isDigits_takeWhile hc rest, rfl⟩
    case isFalse => cases h
  case h_2 => cases h

/-- A fraction is read as far as it goes. -/
theorem IsDigits.fraction?_append (h : IsDigits w) (hrest : EndsNumeral rest) :
    fraction? ('.' :: (w ++ rest)) = some (w, rest) := by
  obtain ⟨c, more, rfl⟩ := List.exists_cons_of_ne_nil h.nonempty
  obtain ⟨htake, hdrop⟩ := span_isDigit h.digits hrest
  rw [List.cons_append] at htake hdrop ⊢
  rw [fraction?, if_pos (h.digits c List.mem_cons_self), htake, hdrop]

/-- Without a point there is no fraction. -/
theorem fraction?_eq_none (h : t.head? ≠ some '.') : fraction? t = none := by
  unfold fraction?
  split
  case h_1 => exact absurd rfl h
  case h_2 => rfl

/-- The digits of an exponent are digits. -/
theorem isDigits_of_eq_some {n power : Int}
    (h :
      (if (t.takeWhile isDigit).isEmpty = true then none
        else some (n, t.dropWhile isDigit)) = some (power, r)) :
    ∃ d, IsDigits d ∧ t = d ++ r := by
  split at h
  case isTrue => cases h
  case isFalse hne =>
    injection h with h
    injection h with _ hr
    rw [← hr]
    refine ⟨t.takeWhile isDigit, ⟨?_, ?_⟩,
      (List.takeWhile_append_dropWhile).symm⟩
    · simpa using hne
    · exact fun d hd => List.all_eq_true.mp List.all_takeWhile d hd

/-- What is read as an exponent is one. -/
theorem exponent?_eq_some {power : Int} (h : exponent? t = some (power, r)) :
    ∃ x, IsExponent x ∧ t = x ++ r := by
  cases t with
  | nil => cases h
  | cons e rest =>
      unfold exponent? at h
      simp only at h
      split at h
      case isFalse => cases h
      case isTrue he =>
        have he : e = 'e' ∨ e = 'E' := by simpa using he
        split at h
        case h_1 =>
          obtain ⟨d, hd, rfl⟩ := isDigits_of_eq_some h
          exact ⟨_, .mk he (.inr (.inl rfl)) hd, by simp⟩
        case h_2 =>
          obtain ⟨d, hd, rfl⟩ := isDigits_of_eq_some h
          exact ⟨_, .mk he (.inr (.inr rfl)) hd, by simp⟩
        case h_3 =>
          obtain ⟨d, hd, rfl⟩ := isDigits_of_eq_some h
          exact ⟨_, .mk he (.inl rfl) hd, by simp⟩

/-- An exponent is read as far as it goes. -/
theorem IsExponent.exists_exponent?_append (h : IsExponent u)
    (hrest : EndsNumeral rest) :
    ∃ power, exponent? (u ++ rest) = some (power, rest) := by
  obtain @⟨e, sign, d, he, hsign, hd⟩ := h
  have he : (e == 'e' || e == 'E') = true := by simpa using he
  obtain ⟨htake, hdrop⟩ := span_isDigit hd.digits hrest
  have hempty : ((d ++ rest).takeWhile isDigit).isEmpty = false := by
    rw [htake]
    simpa using hd.nonempty
  rcases hsign with rfl | rfl | rfl
  · -- without a sign the digits come next, and no digit is a sign
    obtain ⟨c, more, rfl⟩ := List.exists_cons_of_ne_nil hd.nonempty
    have hc : isDigit c = true := hd.digits c List.mem_cons_self
    have hplus : c ≠ '+' := by
      rintro rfl
      exact absurd hc (by decide)
    have hminus : c ≠ '-' := by
      rintro rfl
      exact absurd hc (by decide)
    rw [List.cons_append] at hempty hdrop
    show ∃ power, exponent? (e :: c :: (more ++ rest)) = some (power, rest)
    unfold exponent?
    simp only [he, if_true]
    split
    case h_1 heq => exact absurd (List.cons.inj heq).1 hplus
    case h_2 heq => exact absurd (List.cons.inj heq).1 hminus
    case h_3 =>
      simp only [hempty, Bool.false_eq_true, if_false, hdrop]
      exact ⟨_, rfl⟩
  · show ∃ power, exponent? (e :: '+' :: (d ++ rest)) = some (power, rest)
    unfold exponent?
    simp only [he, if_true, hempty, Bool.false_eq_true, if_false, hdrop]
    exact ⟨_, rfl⟩
  · show ∃ power, exponent? (e :: '-' :: (d ++ rest)) = some (power, rest)
    unfold exponent?
    simp only [he, if_true, hempty, Bool.false_eq_true, if_false, hdrop]
    exact ⟨_, rfl⟩

/-- An exponent starts neither like a digit nor like a fraction. -/
theorem IsExponent.append_cases (h : IsExponent u) (rest : Text) :
    EndsNumeral (u ++ rest) ∧ fraction? (u ++ rest) = none := by
  obtain @⟨e, sign, d, he, -, -⟩ := h
  rcases he with rfl | rfl
  · exact ⟨Text.endsNumeral_cons (by decide), fraction?_eq_none (by simp)⟩
  · exact ⟨Text.endsNumeral_cons (by decide), fraction?_eq_none (by simp)⟩

/-- Without its letter there is no exponent. -/
theorem exponent?_eq_none (h : ∀ c ∈ t.head?, c ≠ 'e' ∧ c ≠ 'E') :
    exponent? t = none := by
  cases t with
  | nil => rfl
  | cons c rest =>
      obtain ⟨hsmall, hcapital⟩ := h c rfl
      simp [exponent?, hsmall, hcapital]

/-- What is read as a number is a numeral. -/
theorem exists_numeral_of_unsigned {negative : Bool}
    (h : unsigned negative t = .ok (v, rest)) :
    ∃ u, Numeral u ∧ t = u ++ rest := by
  unfold unsigned at h
  split at h
  case h_1 => cases h
  case h_2 w r hwhole =>
    obtain ⟨hw, rfl⟩ := whole?_eq_some hwhole
    -- Behind the digits the reader tells four forms apart, by whether there is
    -- a fraction and whether there is an exponent.
    split at h
    case h_1 hfraction hexponent =>
      split at h
      case isTrue => cases h
      case isFalse hlength =>
        injection h with h
        injection h with _ hr
        rw [← hr]
        exact ⟨w, .whole hw (Nat.le_of_not_lt hlength), rfl⟩
    case h_2 power r' hfraction hexponent =>
      obtain ⟨x, hx, rfl⟩ := exponent?_eq_some hexponent
      injection h with h
      injection h with _ hr
      rw [← hr]
      exact ⟨w ++ x, .power hw hx, (List.append_assoc _ _ _).symm⟩
    case h_3 f r' hfraction =>
      obtain ⟨hf, rfl⟩ := fraction?_eq_some hfraction
      cases hexponent : exponent? r' with
      | none =>
          rw [hexponent] at h
          injection h with h
          injection h with _ hr
          rw [← show r' = rest from hr]
          exact ⟨w ++ '.' :: f, .fraction hw hf, by simp⟩
      | some found =>
          obtain ⟨power, last⟩ := found
          obtain ⟨x, hx, rfl⟩ := exponent?_eq_some hexponent
          rw [hexponent] at h
          injection h with h
          injection h with _ hr
          rw [← show last = rest from hr]
          exact ⟨w ++ '.' :: (f ++ x), .fractionPower hw hf hx, by simp⟩

/-- A numeral is read as far as it goes. -/
theorem Numeral.exists_unsigned (h : Numeral u) (hrest : Delimited rest)
    (negative : Bool) : ∃ n, unsigned negative (u ++ rest) = .ok (n, rest) := by
  have hpoint : fraction? rest = none :=
    fraction?_eq_none fun hc => (hrest _ hc).2.1 rfl
  have hnoPower : exponent? rest = none :=
    exponent?_eq_none fun c hc => (hrest c hc).2.2
  cases h with
  | whole hw hlength =>
      unfold unsigned
      rw [hw.whole?_append hrest.endsNumeral]
      simp only
      rw [hpoint, hnoPower]
      exact ⟨_, if_neg (Nat.not_lt.mpr hlength)⟩
  | @power w x hw hx =>
      obtain ⟨power, hpower⟩ := hx.exists_exponent?_append hrest.endsNumeral
      obtain ⟨hdigit, hfraction⟩ := hx.append_cases rest
      unfold unsigned
      rw [List.append_assoc, hw.whole?_append hdigit]
      simp only
      rw [hfraction, hpower]
      exact ⟨_, rfl⟩
  | @fraction w f hw hf =>
      unfold unsigned
      rw [List.append_assoc, List.cons_append,
        hw.whole?_append (Text.endsNumeral_cons (by decide))]
      simp only
      rw [hf.fraction?_append hrest.endsNumeral]
      simp only
      rw [hnoPower]
      exact ⟨_, rfl⟩
  | @fractionPower w f x hw hf hx =>
      obtain ⟨power, hpower⟩ := hx.exists_exponent?_append hrest.endsNumeral
      obtain ⟨hdigit, -⟩ := hx.append_cases rest
      unfold unsigned
      rw [List.append_assoc, List.cons_append, List.append_assoc,
        hw.whole?_append (Text.endsNumeral_cons (by decide))]
      simp only
      rw [hf.fraction?_append hdigit]
      simp only
      rw [hpower]
      exact ⟨_, rfl⟩

end SourceAtlas.Json
