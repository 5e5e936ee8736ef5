/-
Documents of the settings format: nested tables of booleans, numbers, texts,
points in time and arrays, and how such a value is written where a setting
wants a text. The values are those that the `toml` package hands over.

Not every value can be written: an integer may have no more than
`Text.maxDigits` digits, and values may be nested only so deep.

Consumed by the reader and the settings.
-/
import SourceAtlas.Number
import SourceAtlas.Table
import SourceAtlas.Text.Integer
import SourceAtlas.Text.Printable
import SourceAtlas.Toml.Moment

namespace SourceAtlas

/-- A value of a settings document. -/
inductive Toml where
  | boolean (b : Bool)
  | integer (n : Int)
  | real (r : RealNumber)
  | string (t : Text)
  | moment (m : Moment)
  | array (items : List Toml)
  | table (entries : List (Text × Toml))

namespace Toml

instance : Inhabited Toml := ⟨.table []⟩

/-- Whether the value counts as given: not false, zero or empty. -/
def isGiven : Toml → Bool
  | boolean b => b
  | integer n => n != 0
  | real r => !r.isZero
  | string t => !t.isEmpty
  | moment _ => true
  | array items => !items.isEmpty
  | table entries => !entries.isEmpty

/-- The integer that a value stands for; true stands for one, false for
zero. -/
def limit? : Toml → Option Int
  | integer n => some n
  | boolean b => some (if b then 1 else 0)
  | _ => none

/-- The text of a string. -/
def text? : Toml → Option Text
  | string t => some t
  | _ => none

/-- The entry of a table at a key. -/
def get? (key : Text) : Toml → Option Toml
  | table entries => entries.lookup key
  | _ => none

-- ============================================================ spelling

/-- The hexadecimal digits of a number, with zeros before them up to a
length. -/
def hexDigits (length n : Nat) : Text :=
  let digits := Nat.toDigits 16 n
  List.replicate (length - digits.length) '0' ++ digits

/-- A character by its code point, in the shortest of three forms. -/
def numbered (c : Char) : Text :=
  if c.toNat < 0x100 then '\x5c' :: 'x' :: hexDigits 2 c.toNat
  else if c.toNat < 0x10000 then '\x5c' :: 'u' :: hexDigits 4 c.toNat
  else '\x5c' :: 'U' :: hexDigits 8 c.toNat

/-- A character of a quoted text. -/
def quotedChar (quote c : Char) : Text :=
  if c = quote || c = '\x5c' then ['\x5c', c]
  else if c = '\n' then ['\x5c', 'n']
  else if c = '\r' then ['\x5c', 'r']
  else if c = '\t' then ['\x5c', 't']
  else if Text.isPrintable c then [c]
  else numbered c

/-- A text in single quotes, or in double quotes if it holds single ones
only. -/
def quoted (t : Text) : Text :=
  let quote :=
    if t.contains '\x27' && !t.contains '\x22' then '\x22' else '\x27'
  quote :: t.flatMap (quotedChar quote) ++ [quote]

mutual

/-- A value inside another one. -/
def spellInner : Toml → Text
  | boolean true => "True"
  | boolean false => "False"
  | integer n => Text.ofInt n
  | real r => r.text "inf" "nan"
  | string t => quoted t
  | moment m => m.inner
  | array items => '[' :: spellItems items ++ [']']
  | table entries => '\x7b' :: spellEntries entries ++ ['\x7d']

/-- Items with commas between them. -/
def spellItems : List Toml → Text
  | [] => []
  | [item] => spellInner item
  | item :: rest => spellInner item ++ [',', ' '] ++ spellItems rest

/-- Entries with commas between them. -/
def spellEntries : List (Text × Toml) → Text
  | [] => []
  | [(key, value)] => quoted key ++ [':', ' '] ++ spellInner value
  | (key, value) :: rest =>
    quoted key ++ [':', ' '] ++ spellInner value ++ [',', ' ']
      ++ spellEntries rest

end

/-- Why a value cannot be written as a text. -/
inductive SpellError where
  /-- An integer has too many digits. -/
  | tooManyDigits
  /-- The value is nested too deep. -/
  | tooDeep
  deriving DecidableEq, Repr

mutual

/-- What keeps a value inside another one from being written, if anything
does. The first argument bounds the nesting, the value itself included. -/
def refusal? : Nat → Toml → Option SpellError
  | 0, _ => some .tooDeep
  | _ + 1, integer n =>
    if Text.maxDigits < (Text.ofNat n.natAbs).length then some .tooManyDigits
    else none
  | depth + 1, array items => itemsRefusal? depth items
  | depth + 1, table entries => entriesRefusal? depth entries
  | _ + 1, _ => none

/-- What keeps the first of some items from being written that cannot be. -/
def itemsRefusal? : Nat → List Toml → Option SpellError
  | _, [] => none
  | depth, item :: rest => (refusal? depth item).or (itemsRefusal? depth rest)

/-- The same for entries, whose keys are texts. -/
def entriesRefusal? : Nat → List (Text × Toml) → Option SpellError
  | _, [] => none
  | depth, (_, value) :: rest =>
    (refusal? depth value).or (entriesRefusal? depth rest)

end

/-- A value written as it stands inside another one, if nothing keeps it from
being written. -/
def spellWhole (depth : Nat) (v : Toml) : Except SpellError Text :=
  match refusal? depth v with
  | some e => .error e
  | none => .ok (spellInner v)

/-- A value as a text of its own. -/
def spell (depth : Nat) : Toml → Except SpellError Text
  | string t => .ok t
  | moment m => .ok m.text
  | other => spellWhole depth other

end Toml

end SourceAtlas
