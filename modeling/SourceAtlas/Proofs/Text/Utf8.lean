/-
Decoding undoes encoding. The first byte of a character says how many bytes it
has, and each byte holds a part of the code point: six bits, or in the first
byte what is above them. So the code point is put together again from its
quotients and remainders by `0x40`. A text is then read back character by
character, and different texts have different bytes.

Consumed by the theory of the listing at the project root.
-/
import SourceAtlas.Text.Utf8

namespace SourceAtlas.Utf8

variable {n x y z : Nat}

-- ================================================================= bytes

/-- A number that fits into a byte is the number of that byte. -/
theorem toNat_toUInt8 (h : n < 0x100) : n.toUInt8.toNat = n := by
  rw [Nat.toUInt8_eq, UInt8.toNat_ofNat', Nat.mod_eq_of_lt h]

theorem toUInt8_lt_iff (h : n < 0x100) (bound : UInt8) :
    n.toUInt8 < bound ↔ n < bound.toNat := by
  rw [UInt8.lt_iff_toNat_lt, toNat_toUInt8 h]

/-- A byte is compared with two bounds as its number is. -/
theorem within_iff (h : n < 0x100) (low high : UInt8) :
    (decide (low ≤ n.toUInt8) && decide (n.toUInt8 < high)) = true
      ↔ low.toNat ≤ n ∧ n < high.toNat := by
  rw [Bool.and_eq_true, decide_eq_true_iff, decide_eq_true_iff,
    UInt8.le_iff_toNat_le, toNat_toUInt8 h, toUInt8_lt_iff h]

/-- A continuation byte gives its six bits. -/
theorem continuation?_eq_some (h : x < 0x40) :
    continuation? (0x80 + x).toUInt8 = some x := by
  have hbyte : 0x80 + x < 0x100 := by omega
  have hrange : (0x80 : UInt8).toNat ≤ 0x80 + x
      ∧ 0x80 + x < (0xc0 : UInt8).toNat :=
    ⟨Nat.le_add_right 0x80 x, Nat.add_lt_add_left h 0x80⟩
  unfold continuation?
  rw [if_pos ((within_iff hbyte _ _).mpr hrange), toNat_toUInt8 hbyte,
    Nat.add_sub_cancel_left]

/-- A code point is that of its character, unless fewer bytes would do. -/
theorem checked?_toNat {least : Nat} {c : Char} (h : least ≤ c.toNat) :
    checked? least c.toNat = some c := by
  have hvalid : c.toNat < 0xd800 ∨ (0xdfff < c.toNat ∧ c.toNat < 0x110000) :=
    c.valid
  have hno : ¬ ((decide (c.toNat < least) || decide (0x10ffff < c.toNat)
      || decide (0xd800 ≤ c.toNat) && decide (c.toNat ≤ 0xdfff)) = true) := by
    simp only [Bool.or_eq_true, Bool.and_eq_true, decide_eq_true_eq]
    omega
  unfold checked?
  rw [if_neg hno, Char.ofNat_toNat]

-- ============================================================ first bytes

/-- One byte. -/
theorem first?_one (h : n < 0x80) (rest : Bytes) :
    first? (n.toUInt8 :: rest) = some (Char.ofNat n, 1) := by
  have hbyte : n < 0x100 := by omega
  unfold first?
  simp only
  rw [if_pos ((toUInt8_lt_iff hbyte 0x80).mpr h), toNat_toUInt8 hbyte]

/-- Two bytes, of five and six bits. -/
theorem first?_two (hn : n < 0x20) (hx : x < 0x40) (rest : Bytes) :
    first? ((0xc0 + n).toUInt8 :: (0x80 + x).toUInt8 :: rest)
      = (checked? 0x80 (n * 0x40 + x)).map fun c => (c, 2) := by
  have hbyte : 0xc0 + n < 0x100 := by omega
  have hlong : ¬ 0xc0 + n < (0x80 : UInt8).toNat := by
    show ¬ _ < 0x80
    omega
  have htwo : (0xc0 : UInt8).toNat ≤ 0xc0 + n
      ∧ 0xc0 + n < (0xe0 : UInt8).toNat := by
    show 0xc0 ≤ _ ∧ _ < 0xe0
    omega
  rw [first?, if_neg (mt (toUInt8_lt_iff hbyte _).mp hlong),
    if_pos ((within_iff hbyte _ _).mpr htwo), toNat_toUInt8 hbyte,
    Nat.add_sub_cancel_left, continuation?_eq_some hx]
  exact Option.map_eq_bind.symm

/-- Three bytes, of four and twice six bits. -/
theorem first?_three (hn : n < 0x10) (hx : x < 0x40) (hy : y < 0x40)
    (rest : Bytes) :
    first? ((0xe0 + n).toUInt8 :: (0x80 + x).toUInt8 :: (0x80 + y).toUInt8
      :: rest)
      = (checked? 0x800 ((n * 0x40 + x) * 0x40 + y)).map fun c => (c, 3) := by
  have hbyte : 0xe0 + n < 0x100 := by omega
  have hlong : ¬ 0xe0 + n < (0x80 : UInt8).toNat := by
    show ¬ _ < 0x80
    omega
  have htwo :
      ¬ ((0xc0 : UInt8).toNat ≤ 0xe0 + n
        ∧ 0xe0 + n < (0xe0 : UInt8).toNat) := by
    show ¬ (0xc0 ≤ _ ∧ _ < 0xe0)
    omega
  have hthree : (0xe0 : UInt8).toNat ≤ 0xe0 + n
      ∧ 0xe0 + n < (0xf0 : UInt8).toNat := by
    show 0xe0 ≤ _ ∧ _ < 0xf0
    omega
  rw [first?, if_neg (mt (toUInt8_lt_iff hbyte _).mp hlong),
    if_neg (mt (within_iff hbyte _ _).mp htwo),
    if_pos ((within_iff hbyte _ _).mpr hthree), toNat_toUInt8 hbyte,
    Nat.add_sub_cancel_left]
  simp only [continuation?_eq_some hx, continuation?_eq_some hy]
  exact Option.map_eq_bind.symm

/-- Four bytes, of three and three times six bits. -/
theorem first?_four (hn : n < 0x8) (hx : x < 0x40) (hy : y < 0x40)
    (hz : z < 0x40) (rest : Bytes) :
    first? ((0xf0 + n).toUInt8 :: (0x80 + x).toUInt8 :: (0x80 + y).toUInt8
        :: (0x80 + z).toUInt8 :: rest)
      = (checked? 0x10000 (((n * 0x40 + x) * 0x40 + y) * 0x40 + z)).map
        fun c => (c, 4) := by
  have hbyte : 0xf0 + n < 0x100 := by omega
  have hlong : ¬ 0xf0 + n < (0x80 : UInt8).toNat := by
    show ¬ _ < 0x80
    omega
  have htwo :
      ¬ ((0xc0 : UInt8).toNat ≤ 0xf0 + n
        ∧ 0xf0 + n < (0xe0 : UInt8).toNat) := by
    show ¬ (0xc0 ≤ _ ∧ _ < 0xe0)
    omega
  have hthree :
      ¬ ((0xe0 : UInt8).toNat ≤ 0xf0 + n
        ∧ 0xf0 + n < (0xf0 : UInt8).toNat) := by
    show ¬ (0xe0 ≤ _ ∧ _ < 0xf0)
    omega
  have hfour : (0xf0 : UInt8).toNat ≤ 0xf0 + n
      ∧ 0xf0 + n < (0xf8 : UInt8).toNat := by
    show 0xf0 ≤ _ ∧ _ < 0xf8
    omega
  rw [first?, if_neg (mt (toUInt8_lt_iff hbyte _).mp hlong),
    if_neg (mt (within_iff hbyte _ _).mp htwo),
    if_neg (mt (within_iff hbyte _ _).mp hthree),
    if_pos ((within_iff hbyte _ _).mpr hfour), toNat_toUInt8 hbyte,
    Nat.add_sub_cancel_left]
  simp only [continuation?_eq_some hx, continuation?_eq_some hy,
    continuation?_eq_some hz]
  exact Option.map_eq_bind.symm

-- ================================================================= texts

/-- The bytes of a character are read as that character, whatever follows. -/
theorem first?_encodeChar_append (c : Char) (rest : Bytes) :
    first? (encodeChar c ++ rest) = some (c, (encodeChar c).length) := by
  have hvalid : c.toNat < 0xd800 ∨ (0xdfff < c.toNat ∧ c.toNat < 0x110000) :=
    c.valid
  have hsix (m : Nat) : m % 0x40 < 0x40 := Nat.mod_lt m (by decide)
  unfold encodeChar
  simp only
  -- In each range the bits cut apart make up the code point again, which no
  -- shorter form could have taken.
  split
  · next hone =>
      exact (first?_one hone rest).trans (by rw [Char.ofNat_toNat]; rfl)
  split
  · next hone htwo =>
    have hpoint : c.toNat / 0x40 * 0x40 + c.toNat % 0x40 = c.toNat := by omega
    refine (first?_two (by omega) (hsix _) rest).trans ?_
    rw [hpoint, checked?_toNat (by omega)]
    rfl
  split
  · next hone htwo hthree =>
    have hpoint :
        (c.toNat / 0x1000 * 0x40 + c.toNat / 0x40 % 0x40) * 0x40
          + c.toNat % 0x40 = c.toNat := by omega
    refine (first?_three (by omega) (hsix _) (hsix _) rest).trans ?_
    rw [hpoint, checked?_toNat (by omega)]
    rfl
  · next hone htwo hthree =>
    have hpoint : ((c.toNat / 0x40000 * 0x40 + c.toNat / 0x1000 % 0x40) * 0x40
        + c.toNat / 0x40 % 0x40) * 0x40 + c.toNat % 0x40 = c.toNat := by omega
    refine (first?_four (by omega) (hsix _) (hsix _) (hsix _) rest).trans ?_
    rw [hpoint, checked?_toNat (by omega)]
    rfl

/-- A character takes at least one byte. -/
theorem length_encodeChar_pos (c : Char) : 0 < (encodeChar c).length := by
  unfold encodeChar
  simp only
  split
  · exact Nat.zero_lt_one
  split
  · exact Nat.zero_lt_two
  split
  · exact Nat.zero_lt_succ 2
  · exact Nat.zero_lt_succ 3

/-- Bytes that were read with a character are passed over. -/
theorem decodeFrom?_append (skipped rest : Bytes) :
    decodeFrom? skipped.length (skipped ++ rest) = decodeFrom? 0 rest := by
  induction skipped with
  | nil => rfl
  | cons b skipped ih => exact ih

/-- The bytes of a text are read as that text. -/
theorem decode?_encode (t : Text) : decode? (encode t) = some t := by
  unfold decode?
  induction t with
  | nil => rfl
  | cons c rest ih =>
      obtain ⟨b, bytes, hbytes⟩ :=
        List.exists_cons_of_length_pos (length_encodeChar_pos c)
      have hfirst := first?_encodeChar_append c (encode rest)
      have hencode : encode (c :: rest) = b :: (bytes ++ encode rest) := by
        rw [encode, List.flatMap_cons, hbytes]
        rfl
      rw [hbytes, List.cons_append] at hfirst
      rw [hencode, decodeFrom?, hfirst]
      show (decodeFrom? bytes.length (bytes ++ encode rest)).map (c :: ·) = _
      rw [decodeFrom?_append, ih]
      rfl

/-- Different texts have different bytes. -/
theorem encode_injective : Function.Injective encode := by
  intro s t h
  have hread := congrArg decode? h
  rwa [decode?_encode, decode?_encode, Option.some.injEq] at hread

end SourceAtlas.Utf8
