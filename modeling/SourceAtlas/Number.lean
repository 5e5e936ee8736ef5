/-
Numbers of documents. A number is read as a decimal: a sign, a whole number of
digits and a power of ten. It means the nearest binary floating point number of
53 significant bits, and it is written as the shortest decimal that reads back
as that one. All of it is exact integer arithmetic.

Consumed by the readers of JSON and of settings, the JSON writer and the texts
of settings.
-/
import SourceAtlas.Text.Basic

namespace SourceAtlas

-- ============================================================ decimals

/-- The number `± digits · 10 ^ exponent`. -/
structure Decimal where
  negative : Bool
  digits : Nat
  exponent : Int
  deriving DecidableEq, Repr

/-- A number that is no integer literal. -/
inductive RealNumber where
  | finite (d : Decimal)
  | infinite (negative : Bool)
  | nan
  deriving DecidableEq, Repr

/-- Reads decimal digits onto a number. -/
def Decimal.appendDigits (start : Nat) (t : Text) : Nat :=
  t.foldl (fun n c => n * 10 + (c.toNat - '0'.toNat)) start

/-- The number with the given digits before and after the point and the
given power of ten. -/
def Decimal.ofParts (negative : Bool) (whole fraction : Text) (power : Int) :
    Decimal :=
  ⟨negative, appendDigits (appendDigits 0 whole) fraction,
    power - fraction.length⟩

-- =============================================== binary floating point

-- The nearest binary number to a decimal, ties to even.

/-- The number `mantissa · 2 ^ exponent`, with at most 53 bits in the
mantissa. -/
structure Binary where
  mantissa : Nat
  exponent : Int
  deriving DecidableEq, Repr

namespace Binary

/-- The quotient rounded to the nearest whole number, ties to even. -/
def roundDiv (num den : Nat) : Nat :=
  let q := num / den
  let r := num % den
  if 2 * r < den then q
  else if den < 2 * r then q + 1
  else if q % 2 = 0 then q
  else q + 1

/-- Numerator and denominator of `n · b ^ e`. -/
def scaled (n b : Nat) (e : Int) : Nat × Nat :=
  if 0 ≤ e then (n * Nat.pow b e.toNat, 1) else (n, Nat.pow b (-e).toNat)

/-- One more than the largest mantissa. -/
def fullMantissa : Nat := Nat.pow 2 53

/-- The least mantissa of 53 bits. -/
def halfMantissa : Nat := Nat.pow 2 52

/-- The least exponent, that of the smallest positive number. -/
def minExponent : Int := -1074

/-- The greatest exponent of a 53-bit mantissa. -/
def maxExponent : Int := 971

/-- The exponent at which `num / den` has a mantissa of 53 bits, but no less
than the least. -/
def exponentFor (num den : Nat) : Int :=
  let guess : Int := (Nat.log2 num : Int) - Nat.log2 den - 52
  let (n, d) := scaled den 2 guess
  let fits := decide (num * d < n * halfMantissa)
  let found := if fits then guess - 1 else guess
  if found < minExponent then minExponent else found

/-- `num / den` rounded at a given exponent. -/
def roundAt (num den : Nat) (e : Int) : Nat :=
  let (n, d) := scaled den 2 e
  roundDiv (num * d) n

/-- The nearest number to `digits · 10 ^ exponent`, or none if it is too
large. Exponents far out of range are settled before any power is formed. -/
def nearest? (digits : Nat) (exponent : Int) : Option Binary :=
  let size : Int := (Text.ofNat digits).length + exponent
  if digits = 0 || size < -400 then some ⟨0, minExponent⟩
  else if 400 < size then none
  else
    let (num, den) := scaled digits 10 exponent
    let e := exponentFor num den
    let m := roundAt num den e
    let b : Binary := if m = fullMantissa then ⟨halfMantissa, e + 1⟩ else ⟨m, e⟩
    if maxExponent < b.exponent then none else some b

end Binary

-- =================================================== shortest decimals

-- Documents lay a decimal out by position while its exponent is moderate, and
-- in scientific form with at least two exponent digits otherwise, always marked
-- as no integer.

namespace Binary

/-- The interval of reals that round to the number, as twice the scaled
ends: lower and upper end times four, over a common power of two. -/
def ends (b : Binary) : Nat × Nat :=
  let low :=
    if b.mantissa = halfMantissa && minExponent < b.exponent
      then 4 * b.mantissa - 1
    else 4 * b.mantissa - 2
  (low, 4 * b.mantissa + 2)

/-- Whether `n · 10 ^ k` rounds to the number. -/
def readsBack (b : Binary) (n : Nat) (k : Int) : Bool :=
  let (low, high) := b.ends
  let (num, den) := scaled n 10 k
  let (up, down) := scaled 1 2 (b.exponent - 2)
  let x := num * down
  let l := low * up * den
  let h := high * up * den
  if b.mantissa % 2 = 0 then l ≤ x && x ≤ h else l < x && x < h

/-- The decimal point position: the number lies below `10 ^ place` and not
below `10 ^ (place - 1)`. The first argument bounds the search. -/
def placeFrom (num den : Nat) : Nat → Int → Int
  | 0, place => place
  | fuel + 1, place =>
    let (n, d) := scaled 1 10 place
    if num * d < n * den then place else placeFrom num den fuel (place + 1)

/-- Distance of `n · 10 ^ k` from `num / den`, over a fixed denominator. -/
def distance (num den n : Nat) (k : Int) : Int :=
  let (a, b) := scaled n 10 k
  (Int.ofNat (a * den) - Int.ofNat (num * b)).natAbs

/-- The best decimal on the grid of `count` digits, if one reads back. -/
def onGrid? (b : Binary) (num den : Nat) (place : Int) (count : Nat) :
    Option (Nat × Int) :=
  let k := place - count
  let (up, down) := scaled 1 10 k
  let floor := (num * down) / (den * up)
  let below := b.readsBack floor k
  let above := b.readsBack (floor + 1) k
  if below && above then
    let low := distance num den floor k
    let high := distance num den (floor + 1) k
    some (if low < high then floor else if high < low then floor + 1
      else if floor % 2 = 0 then floor else floor + 1, k)
  else if below then some (floor, k)
  else if above then some (floor + 1, k)
  else none

/-- The shortest decimal `n · 10 ^ k` that reads back, nearest first. -/
def shortest (b : Binary) : Nat × Int :=
  if b.mantissa = 0 then (0, 0)
  else
    let (num, den) := scaled b.mantissa 2 b.exponent
    let guess : Int := ((Nat.log2 b.mantissa : Int) + b.exponent) * 3 / 10 - 2
    let place := placeFrom num den 40 guess
    match ((List.range 17).map (· + 1)).findSome? (b.onGrid? num den place) with
    | some found => found
    | none => (b.mantissa, b.exponent)

end Binary

namespace RealNumber

/-- Digits and decimal point position as text: positional while the point
stands at most three zeros before the digits and at most 16 places after
their start. -/
def layout (digits : Text) (point : Int) : Text :=
  let count : Int := digits.length
  if -4 < point && point ≤ 16 then
    if point ≤ 0 then
      ['0', '.'] ++ List.replicate (-point).toNat '0' ++ digits
    else if count ≤ point then
      digits ++ List.replicate (point - count).toNat '0' ++ ['.', '0']
    else digits.take point.toNat ++ '.' :: digits.drop point.toNat
  else
    let e := point - 1
    let size := Text.ofNat e.natAbs
    let padded := if size.length < 2 then '0' :: size else size
    let tail := 'e' :: (if e < 0 then '-' else '+') :: padded
    match digits with
    | [] => tail
    | [d] => d :: tail
    | d :: rest => d :: '.' :: rest ++ tail

/-- The decimal that the reader's precision keeps of a number, in its
shortest form; `infinity` and `nan` are how the format spells those. -/
def text (infinity nan : Text) : RealNumber → Text
  | .nan => nan
  | .infinite negative => if negative then '-' :: infinity else infinity
  | .finite d =>
    let body := match Binary.nearest? d.digits d.exponent with
      | none => infinity
      | some b =>
        if b.mantissa = 0 then "0.0"
        else
          let (n, k) := b.shortest
          let digits := Text.trimEnd (· == '0') (Text.ofNat n)
          layout digits ((Text.ofNat n).length + k)
    if d.negative then '-' :: body else body

/-- Whether the number is zero after rounding. -/
def isZero : RealNumber → Bool
  | .finite d => (Binary.nearest? d.digits d.exponent).any (·.mantissa == 0)
  | _ => false

end RealNumber

end SourceAtlas
