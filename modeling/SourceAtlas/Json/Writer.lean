/-
Writing JSON: two spaces of indentation a level, members in their order,
everything beyond printable ASCII escaped by code units. `compact` writes
the same document on one line.

Consumed by the index document, the graph document and the snapshot.
-/
import SourceAtlas.Json.Basic
import SourceAtlas.Number

namespace SourceAtlas.Json

-- ============================================================= strings

/-- A hexadecimal digit. -/
def hexDigit (n : Nat) : Char := Nat.digitChar n

/-- A code unit of four hexadecimal digits. -/
def codeUnit (n : Nat) : Text :=
  ['\x5c', 'u', hexDigit (n / 4096 % 16), hexDigit (n / 256 % 16),
    hexDigit (n / 16 % 16), hexDigit (n % 16)]

/-- A character inside a string. Characters beyond the first plane are
written as a surrogate pair. -/
def escapeChar (c : Char) : Text :=
  match c with
  | '\x22' => ['\x5c', '\x22']
  | '\x5c' => ['\x5c', '\x5c']
  | '\n' => ['\x5c', 'n']
  | '\r' => ['\x5c', 'r']
  | '\t' => ['\x5c', 't']
  | '\x08' => ['\x5c', 'b']
  | '\x0c' => ['\x5c', 'f']
  | _ =>
    let n := c.toNat
    if 0x20 ≤ n && n ≤ 0x7e then [c]
    else if n < 0x10000 then codeUnit n
    else codeUnit (0xd800 + (n - 0x10000) / 0x400)
      ++ codeUnit (0xdc00 + (n - 0x10000) % 0x400)

/-- A text as a string. -/
def quote (t : Text) : Text := '\x22' :: t.flatMap escapeChar ++ ['\x22']

/-- How the format spells numbers that are no integers. -/
def realText (r : RealNumber) : Text := r.text "Infinity" "NaN"

-- =========================================================== documents

/-- A line break and the indentation of a level. -/
def newline (level : Nat) : Text := '\n' :: List.replicate (2 * level) ' '

mutual

/-- A value that stands at a level of indentation. -/
def writeAt (level : Nat) : Json → Text
  | null => "null"
  | bool true => "true"
  | bool false => "false"
  | integer n => Text.ofInt n
  | real r => realText r
  | string t => quote t
  | array [] => "[]"
  | array (item :: rest) =>
    '[' :: newline (level + 1) ++ writeAt (level + 1) item
      ++ writeItems (level + 1) rest ++ newline level ++ [']']
  | object [] => ['\x7b', '\x7d']
  | object ((key, value) :: rest) =>
    '\x7b' :: newline (level + 1) ++ quote key ++ [':', ' ']
      ++ writeAt (level + 1) value ++ writeMembers (level + 1) rest
      ++ newline level ++ ['\x7d']

/-- The items after the first. -/
def writeItems (level : Nat) : List Json → Text
  | [] => []
  | item :: rest =>
      ',' :: newline level ++ writeAt level item ++ writeItems level rest

/-- The members after the first. -/
def writeMembers (level : Nat) : List (Text × Json) → Text
  | [] => []
  | (key, value) :: rest =>
    ',' :: newline level ++ quote key ++ [':', ' '] ++ writeAt level value
      ++ writeMembers level rest

end

/-- The document as text, ended by a line feed. -/
def write (document : Json) : Text := writeAt 0 document ++ ['\n']

mutual

/-- A value on one line. -/
def compact : Json → Text
  | null => "null"
  | bool true => "true"
  | bool false => "false"
  | integer n => Text.ofInt n
  | real r => realText r
  | string t => quote t
  | array [] => "[]"
  | array (item :: rest) => '[' :: compact item ++ compactItems rest ++ [']']
  | object [] => ['\x7b', '\x7d']
  | object ((key, value) :: rest) =>
    '\x7b' :: quote key ++ ':' :: compact value ++ compactMembers rest
      ++ ['\x7d']

/-- The items after the first, on one line. -/
def compactItems : List Json → Text
  | [] => []
  | item :: rest => ',' :: compact item ++ compactItems rest

/-- The members after the first, on one line. -/
def compactMembers : List (Text × Json) → Text
  | [] => []
  | (key, value) :: rest =>
      ',' :: quote key ++ ':' :: compact value ++ compactMembers rest

end

end SourceAtlas.Json
