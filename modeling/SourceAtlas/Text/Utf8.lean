/-
Texts as bytes: UTF-8 encoding, and two ways of decoding. The strict one
refuses invalid bytes; the lenient one drops them.

Consumed by the file tree, the settings and the digests.
-/
import SourceAtlas.Text.Blank

namespace SourceAtlas.Utf8

/-- A sequence of bytes. -/
abbrev Bytes := List UInt8

/-- The bytes of one character. -/
def encodeChar (c : Char) : Bytes :=
  let n := c.toNat
  if n < 0x80 then [n.toUInt8]
  else if n < 0x800 then [(0xc0 + n / 0x40).toUInt8, (0x80 + n % 0x40).toUInt8]
  else if n < 0x10000 then
    [(0xe0 + n / 0x1000).toUInt8, (0x80 + n / 0x40 % 0x40).toUInt8,
      (0x80 + n % 0x40).toUInt8]
  else
    [(0xf0 + n / 0x40000).toUInt8, (0x80 + n / 0x1000 % 0x40).toUInt8,
     (0x80 + n / 0x40 % 0x40).toUInt8, (0x80 + n % 0x40).toUInt8]

/-- The bytes of a text. -/
def encode (t : Text) : Bytes := t.flatMap encodeChar

/-- The low six bits of a continuation byte. -/
def continuation? (b : UInt8) : Option Nat :=
  if 0x80 ≤ b && b < 0xc0 then some (b.toNat - 0x80) else none

/-- The character with a code point, unless a shorter sequence of bytes would
do or the code point is none of a character. -/
def checked? (least n : Nat) : Option Char :=
  if n < least || 0x10ffff < n || (0xd800 ≤ n && n ≤ 0xdfff) then none
  else some (Char.ofNat n)

/-- The character that the first bytes encode, and how many they are. -/
def first? : Bytes → Option (Char × Nat)
  | [] => none
  | a :: rest =>
    if a < 0x80 then some (Char.ofNat a.toNat, 1)
    else if 0xc0 ≤ a && a < 0xe0 then
      match rest with
      | b :: _ => do
        let x ← continuation? b
        let c ← checked? 0x80 ((a.toNat - 0xc0) * 0x40 + x)
        return (c, 2)
      | _ => none
    else if 0xe0 ≤ a && a < 0xf0 then
      match rest with
      | b :: c :: _ => do
        let x ← continuation? b
        let y ← continuation? c
        let z ← checked? 0x800 (((a.toNat - 0xe0) * 0x40 + x) * 0x40 + y)
        return (z, 3)
      | _ => none
    else if 0xf0 ≤ a && a < 0xf8 then
      match rest with
      | b :: c :: d :: _ => do
        let x ← continuation? b
        let y ← continuation? c
        let z ← continuation? d
        let w ← checked? 0x10000
          ((((a.toNat - 0xf0) * 0x40 + x) * 0x40 + y) * 0x40 + z)
        return (w, 4)
      | _ => none
    else none

/-- `decodeLenient` after `skip` more bytes. -/
def decodeLenientFrom : Nat → Bytes → Text
  | _, [] => []
  | skip + 1, _ :: rest => decodeLenientFrom skip rest
  | 0, b :: rest =>
    match first? (b :: rest) with
    | some (c, size) => c :: decodeLenientFrom (size - 1) rest
    | none => decodeLenientFrom 0 rest

/-- The text of some bytes, without those that encode nothing. -/
def decodeLenient (bytes : Bytes) : Text := decodeLenientFrom 0 bytes

/-- `decode?` after `skip` more bytes. -/
def decodeFrom? : Nat → Bytes → Option Text
  | _, [] => some []
  | skip + 1, _ :: rest => decodeFrom? skip rest
  | 0, b :: rest =>
    match first? (b :: rest) with
    | some (c, size) => (decodeFrom? (size - 1) rest).map (c :: ·)
    | none => none

/-- The text of some bytes, all of which must encode something. -/
def decode? (bytes : Bytes) : Option Text := decodeFrom? 0 bytes

end SourceAtlas.Utf8
