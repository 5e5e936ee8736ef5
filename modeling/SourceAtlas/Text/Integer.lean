/-
Reading an integer from free text: blanks around it, an optional sign, and
decimal digits of any script with single underscores between them. Texts of
more than `maxDigits` digits are refused.

Consumed by the settings, the numeric options of the command line, the readers
of documents, and the colors of the console.
-/
import SourceAtlas.Text.Basic
import SourceAtlas.Text.Blank

namespace SourceAtlas.Text

-- ============================================================== digits

-- Every script that has digits lists its ten in a row, so a table of the zeros
-- is enough.

/-- The digit zero of each script, in increasing order. -/
def zeros : List Nat :=
  [
    0x30, 0x660, 0x6f0, 0x7c0, 0x966, 0x9e6, 0xa66, 0xae6, 0xb66, 0xbe6,
    0xc66, 0xce6,
    0xd66, 0xde6, 0xe50, 0xed0, 0xf20, 0x1040, 0x1090, 0x17e0, 0x1810,
    0x1946, 0x19d0,
    0x1a80, 0x1a90, 0x1b50, 0x1bb0, 0x1c40, 0x1c50, 0xa620, 0xa8d0, 0xa900,
    0xa9d0, 0xa9f0,
    0xaa50, 0xabf0, 0xff10, 0x104a0, 0x10d30, 0x11066, 0x110f0, 0x11136,
    0x111d0, 0x112f0,
    0x11450, 0x114d0, 0x11650, 0x116c0, 0x11730, 0x118e0, 0x11950,
    0x11c50, 0x11d50,
    0x11da0, 0x16a60, 0x16ac0, 0x16b50, 0x1d7ce, 0x1d7d8, 0x1d7e2,
    0x1d7ec, 0x1d7f6,
    0x1e140, 0x1e2f0, 0x1e950, 0x1fbf0
  ]

/-- The value of a decimal digit of any script. -/
def digitValue? (c : Char) : Option Nat :=
  (zeros.find? fun nought => nought ≤ c.toNat && c.toNat < nought + 10).map
    (c.toNat - ·)

-- ============================================================ numerals

/-- Numerals longer than this are refused, here and in JSON documents. -/
def maxDigits : Nat := 4300

/-- Blanks that may stand around a numeral; the four ASCII information
separators may not. -/
def isNumeralBlank (c : Char) : Bool :=
  isBlank c && !(0x1c ≤ c.toNat && c.toNat ≤ 0x1f)

/-- The digits of a numeral in which every underscore stands between two
digits. -/
def numeralDigits? : Text → Option (List Nat)
  | [] => none
  | [c] => (digitValue? c).map ([·])
  | c :: '_' :: rest => do
    let digit ← digitValue? c
    let digits ← numeralDigits? rest
    return digit :: digits
  | c :: rest => do
    let digit ← digitValue? c
    let digits ← numeralDigits? rest
    return digit :: digits

/-- The number that a list of decimal digits spells. -/
def valueOfDigits (digits : List Nat) : Nat :=
  digits.foldl (fun value digit => value * 10 + digit) 0

/-- The natural number that an unsigned numeral denotes. -/
def natural? (t : Text) : Option Nat := do
  let digits ← numeralDigits? t
  if digits.length ≤ maxDigits then return valueOfDigits digits else none

/-- The integer that a text denotes. -/
def integer? (t : Text) : Option Int :=
  match trimBoth isNumeralBlank t with
  | '+' :: rest => (natural? rest).map Int.ofNat
  | '-' :: rest => (natural? rest).map fun n => -Int.ofNat n
  | rest => (natural? rest).map Int.ofNat

end SourceAtlas.Text
