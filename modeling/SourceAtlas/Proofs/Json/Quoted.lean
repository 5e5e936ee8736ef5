/-
The string literals that the reader accepts, by what stands between their
quotes (`Readable`). The reader takes one escape a step, but two escapes that
stand for one character beyond the first plane at once, so reading a literal is
by induction on its length (`Readable.exists_stringBody`). Every literal that is
read is also one that the search for comments keeps together
(`Readable.quotable`).

Consumed by the grammar of documents.
-/
import SourceAtlas.Json.Reader
import SourceAtlas.Proofs.Json.Comments
import SourceAtlas.Proofs.Json.Writer

namespace SourceAtlas.Json

variable {t r rest body : Text} {fuel : Nat}

/-- The four digits of a code unit. -/
structure IsUnit (digits : Text) : Prop where
  four : digits.length = 4
  digits : ∀ c ∈ digits, (hexValue? c).isSome = true

/-- What the reader accepts between quotes: characters that are no controls,
letters behind a backslash, and code units. -/
inductive Readable : Text → Prop where
  | nil : Readable []
  | plain {c : Char} {body : Text} (hquote : c ≠ '\x22') (hslash : c ≠ '\x5c')
      (hcontrol : 0x20 ≤ c.toNat) (h : Readable body) : Readable (c :: body)
  | letter {e c : Char} {body : Text} (he : escape? e = some c)
      (h : Readable body) : Readable ('\x5c' :: e :: body)
  | unit {digits body : Text} (hdigits : IsUnit digits) (h : Readable body) :
      Readable ('\x5c' :: 'u' :: (digits ++ body))

/-- The digits of a code unit are no quotes, backslashes or commas. -/
theorem IsUnit.ne {digits : Text} (h : IsUnit digits) {c : Char}
    (hc : c ∈ digits) : c ≠ '\x22' ∧ c ≠ '\x5c' ∧ c ≠ ',' := by
  have hvalue := h.digits c hc
  refine ⟨?_, ?_, ?_⟩
  all_goals
    rintro rfl
    exact absurd hvalue (by decide)

/-- A readable literal has its quote at the end only. -/
theorem Readable.quotable (h : Readable body) : Quotable body := by
  induction h with
  | nil => exact .nil
  | plain hquote hslash _ _ ih => exact .plain hquote hslash ih
  | letter _ _ ih => exact .escaped _ ih
  | @unit digits body hdigits _ ih =>
      refine .escaped 'u' ?_
      have hplain : ∀ c ∈ digits, c ≠ '\x22' ∧ c ≠ '\x5c' :=
        fun c hc => ⟨(hdigits.ne hc).1, (hdigits.ne hc).2.1⟩
      clear hdigits
      induction digits with
      | nil => exact ih
      | cons c digits ihdigits =>
          obtain ⟨hc, hdigits⟩ := List.forall_mem_cons.mp hplain
          exact .plain hc.1 hc.2 (ihdigits hdigits)

/-- What is read as a code unit is one. -/
theorem codeUnit?_eq_some {n : Nat} (h : codeUnit? t = some (n, r)) :
    ∃ digits, IsUnit digits ∧ t = digits ++ r := by
  unfold codeUnit? at h
  split at h
  case h_2 => cases h
  case h_1 a b c d rest =>
    simp only [Option.bind_eq_bind, Option.bind_eq_some_iff] at h
    obtain ⟨va, ha, vb, hb, vc, hc, vd, hd, hr⟩ := h
    injection hr with hr
    injection hr with _ hr
    rw [← hr]
    refine ⟨[a, b, c, d], ⟨rfl, ?_⟩, rfl⟩
    simp [ha, hb, hc, hd]

/-- A code unit is read, whatever follows. -/
theorem IsUnit.exists_codeUnit?_append {digits : Text} (h : IsUnit digits)
    (rest : Text) : ∃ n, codeUnit? (digits ++ rest) = some (n, rest) := by
  obtain ⟨hfour, hdigits⟩ := h
  match digits, hfour with
  | [a, b, c, d], _ =>
    simp only [List.forall_mem_cons, Option.isSome_iff_exists] at hdigits
    obtain ⟨⟨va, ha⟩, ⟨vb, hb⟩, ⟨vc, hc⟩, ⟨vd, hd⟩, -⟩ := hdigits
    simp [codeUnit?, ha, hb, hc, hd]

/-- The second half of a pair is an escaped code unit. -/
theorem lowHalf?_eq_some {n : Nat} (h : lowHalf? t = some (n, r)) :
    ∃ digits, IsUnit digits ∧ t = '\x5c' :: 'u' :: (digits ++ r) := by
  unfold lowHalf? at h
  split at h
  case h_2 => cases h
  case h_1 rest =>
    simp only [Option.bind_eq_bind, Option.bind_eq_some_iff] at h
    obtain ⟨⟨unit, after⟩, hunit, h⟩ := h
    obtain ⟨digits, hdigits, rfl⟩ := codeUnit?_eq_some hunit
    simp only at h
    split at h
    case isFalse => cases h
    case isTrue =>
      injection h with h
      injection h with _ hr
      rw [← hr]
      exact ⟨digits, hdigits, rfl⟩

/-- An escaped character is one code unit or two. -/
theorem escapedChar?_eq_some {c : Char} (h : escapedChar? t = some (c, r)) :
    ∃ digits, IsUnit digits ∧ (t = digits ++ r
      ∨ ∃ low, IsUnit low ∧ t = digits ++ ('\x5c' :: 'u' :: (low ++ r))) := by
  unfold escapedChar? at h
  simp only [Option.bind_eq_bind, Option.bind_eq_some_iff] at h
  obtain ⟨⟨unit, rest⟩, hunit, h⟩ := h
  obtain ⟨digits, hdigits, rfl⟩ := codeUnit?_eq_some hunit
  refine ⟨digits, hdigits, ?_⟩
  simp only at h
  -- A second unit is taken only where the first is a high half and a low one
  -- follows.
  split at h
  case isFalse =>
    injection h with h
    injection h with _ hr
    exact .inl (by rw [hr])
  case isTrue =>
    split at h
    case h_1 low after hlow =>
      split at h
      case isTrue =>
        obtain ⟨lowDigits, hlowDigits, rfl⟩ := lowHalf?_eq_some hlow
        injection h with h
        injection h with _ hr
        exact .inr ⟨lowDigits, hlowDigits, by rw [hr]⟩
      case isFalse =>
        injection h with h
        injection h with _ hr
        exact .inl (by rw [hr])
    case h_2 =>
      injection h with h
      injection h with _ hr
      exact .inl (by rw [hr])

/-- Behind a code unit the reader goes on with the rest of the body, or with
what is left of it behind a second one. -/
theorem Readable.exists_escapedChar? {digits : Text} (h : Readable body)
    (hdigits : IsUnit digits) (rest : Text) :
    ∃ c left, escapedChar? (digits ++ (body ++ '\x22' :: rest))
      = some (c, left ++ '\x22' :: rest)
      ∧ Readable left ∧ left.length ≤ body.length := by
  obtain ⟨n, hn⟩ := hdigits.exists_codeUnit?_append (body ++ '\x22' :: rest)
  unfold escapedChar?
  rw [hn]
  simp only [Option.bind_eq_bind, Option.bind_some]
  split
  case isFalse => exact ⟨_, body, rfl, h, Nat.le_refl _⟩
  case isTrue =>
    split
    case h_2 => exact ⟨_, body, rfl, h, Nat.le_refl _⟩
    case h_1 low after hlow =>
      split
      case isFalse => exact ⟨_, body, rfl, h, Nat.le_refl _⟩
      case isTrue =>
        obtain ⟨lowDigits, hlowDigits, hbody⟩ := lowHalf?_eq_some hlow
        -- The low half that follows is itself escaped, so the body goes on with
        -- a unit.
        cases h with
        | nil => simp at hbody
        | plain hquote hslash => exact absurd (List.cons.inj hbody).1 hslash
        | letter he =>
            injection hbody with _ hbody
            injection hbody with hu _
            rw [hu] at he
            cases he
        | @unit next left hnext hleft =>
            simp only [List.cons_append, List.append_assoc, List.cons.injEq,
              true_and] at hbody
            obtain ⟨-, rfl⟩ := List.append_inj hbody
              (hnext.four.trans hlowDigits.four.symm)
            refine ⟨_, left, rfl, hleft, ?_⟩
            simp only [List.length_cons, List.length_append]
            omega

/-- An escaped letter is read as its character. -/
theorem stringBody_letter {e c : Char} (he : escape? e = some c) (fuel : Nat)
    (acc rest : Text) :
    stringBody (fuel + 1) acc ('\x5c' :: e :: rest)
      = stringBody fuel (c :: acc) rest := by
  rw [stringBody]
  · rw [he]
  · rintro rfl
    cases he

/-- What is readable is read. Two code units can be taken in one step, so the
induction is on the length. -/
theorem Readable.exists_stringBody (h : Readable body)
    (hfuel : body.length < fuel) (acc rest : Text) :
    ∃ s, stringBody fuel acc (body ++ '\x22' :: rest) = .ok (s, rest) := by
  induction fuel generalizing body acc with
  | zero => cases hfuel
  | succ fuel ih =>
      cases h with
      | nil => exact ⟨acc.reverse, rfl⟩
      | plain hquote hslash hcontrol h =>
          rw [List.cons_append, stringBody_plain hcontrol hquote hslash]
          exact ih h (Nat.lt_of_succ_lt_succ hfuel) _
      | @letter e c body he h =>
          rw [List.cons_append, List.cons_append, stringBody_letter he]
          simp only [List.length_cons] at hfuel
          exact ih h (by omega) _
      | @unit digits body hdigits h =>
          obtain ⟨c, left, hescaped, hleft, hlength⟩ :=
            h.exists_escapedChar? hdigits rest
          rw [List.cons_append, List.cons_append, List.append_assoc,
            stringBody_unit hescaped]
          simp only [List.length_cons, List.length_append] at hfuel
          exact ih hleft (by omega) _

/-- A readable literal is read up to its closing quote. -/
theorem Readable.exists_stringAfterQuote (h : Readable body) (rest : Text) :
    ∃ s, stringAfterQuote (body ++ '\x22' :: rest) = .ok (s, rest) := by
  refine h.exists_stringBody ?_ [] rest
  simp only [List.length_append, List.length_cons]
  omega

/-- What is read as a literal is a readable one. -/
theorem exists_readable_of_stringBody {acc s : Text}
    (h : stringBody fuel acc t = .ok (s, rest)) :
    ∃ body, Readable body ∧ t = body ++ '\x22' :: rest := by
  induction fuel generalizing t acc with
  | zero => cases h
  | succ fuel ih =>
      rw [stringBody.eq_def] at h
      simp only at h
      split at h
      case h_1 => cases h
      case h_2 after =>
        injection h with h
        injection h with _ hr
        exact ⟨[], .nil, by rw [hr]; rfl⟩
      case h_3 after =>
        split at h
        case h_2 => cases h
        case h_1 c left hescaped =>
          obtain ⟨body, hbody, rfl⟩ := ih h
          obtain ⟨digits, hdigits, rfl | ⟨low, hlow, rfl⟩⟩ :=
            escapedChar?_eq_some hescaped
          · exact ⟨_, .unit hdigits hbody, by simp⟩
          · exact ⟨_, .unit hdigits (.unit hlow hbody), by simp⟩
      case h_4 e after hu =>
        split at h
        case h_2 => cases h
        case h_1 c he =>
          obtain ⟨body, hbody, rfl⟩ := ih h
          exact ⟨_, .letter he hbody, rfl⟩
      case h_5 c after hquote _ _ =>
        split at h
        case isTrue => cases h
        case isFalse hplain =>
          obtain ⟨body, hbody, rfl⟩ := ih h
          simp only [Bool.or_eq_true, decide_eq_true_eq, beq_iff_eq, not_or]
            at hplain
          exact ⟨_, .plain hquote hplain.2 (Nat.le_of_not_lt hplain.1) hbody,
            rfl⟩

end SourceAtlas.Json
