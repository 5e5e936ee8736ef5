/-
Reading JSON. The grammar is the standard one with the extra literals `NaN`,
`Infinity` and `-Infinity`; control characters in strings are refused, a key
that occurs twice keeps its first place and its last value, and integers of
more than `Text.maxDigits` digits are refused with an error of their own.

The reader recurses on fuel, which the length of the text bounds: every step
consumes at least one character. It bears any nesting of brackets itself; how
deep those are nested that it opens is a count of its own (`nesting`), for a
program that bears only so much. Line and block comments outside strings, and
then the commas that stand before a closing bracket, can be dropped from a text
first.

Consumed by detection and path aliases.
-/
import SourceAtlas.Json.Basic
import SourceAtlas.Pattern.Search
import SourceAtlas.Text.Integer

namespace SourceAtlas.Json

/-- Why a text is no JSON document. -/
inductive ReadError where
  /-- The text does not follow the grammar. -/
  | malformed
  /-- An integer has too many digits. -/
  | tooManyDigits
  deriving DecidableEq, Repr

/-- White space between tokens. -/
def isSpace (c : Char) : Bool := c == ' ' || c == '\t' || c == '\n' || c == '\r'

/-- Drops white space. -/
def skipSpace (t : Text) : Text := t.dropWhile isSpace

-- ============================================================= numbers

/-- An ASCII digit. -/
def isDigit (c : Char) : Bool := c.isDigit

/-- The fraction digits after a point, if the text starts with them. -/
def fraction? : Text → Option (Text × Text)
  | '.' :: c :: rest =>
    if isDigit c then some
      ((c :: rest).takeWhile isDigit, (c :: rest).dropWhile isDigit)
    else none
  | _ => none

/-- The power of ten, if the text starts with an exponent. -/
def exponent? : Text → Option (Int × Text)
  | e :: rest =>
    if e == 'e' || e == 'E' then
      let (negative, rest) := match rest with
        | '+' :: r => (false, r)
        | '-' :: r => (true, r)
        | r => (false, r)
      let digits := rest.takeWhile isDigit
      if digits.isEmpty then none
      else
        let n : Int := Decimal.appendDigits 0 digits
        some (if negative then -n else n, rest.dropWhile isDigit)
    else none
  | [] => none

/-- The digits before the point: a zero alone, or digits that start with no
zero. -/
def whole? : Text → Option (Text × Text)
  | '0' :: rest => some (['0'], rest)
  | c :: rest =>
    if isDigit c then some
      ((c :: rest).takeWhile isDigit, (c :: rest).dropWhile isDigit)
    else none
  | [] => none

/-- A number without its sign. -/
def unsigned (negative : Bool) (t : Text) : Except ReadError (Json × Text) :=
  match whole? t with
  | none => .error .malformed
  | some (whole, rest) =>
    match fraction? rest, exponent? rest with
    | none, none =>
      if Text.maxDigits < whole.length then .error .tooManyDigits
      else
        let n : Int := Decimal.appendDigits 0 whole
        .ok (.integer (if negative then -n else n), rest)
    | none, some (power, rest) =>
      .ok (.real (.finite (.ofParts negative whole [] power)), rest)
    | some (fraction, rest), _ =>
      let (power, rest) := (exponent? rest).getD (0, rest)
      .ok (.real (.finite (.ofParts negative whole fraction power)), rest)

-- ============================================================= strings

/-- The value of a hexadecimal digit. -/
def hexValue? (c : Char) : Option Nat :=
  if c.isDigit then some (c.toNat - '0'.toNat)
  else if 'a' ≤ c && c ≤ 'f' then some (c.toNat - 'a'.toNat + 10)
  else if 'A' ≤ c && c ≤ 'F' then some (c.toNat - 'A'.toNat + 10)
  else none

/-- A code unit of four hexadecimal digits. -/
def codeUnit? : Text → Option (Nat × Text)
  | a :: b :: c :: d :: rest => do
    let a ← hexValue? a
    let b ← hexValue? b
    let c ← hexValue? c
    let d ← hexValue? d
    return (((a * 16 + b) * 16 + c) * 16 + d, rest)
  | _ => none

/-- The low half of a surrogate pair, if the text starts with its escape. -/
def lowHalf? : Text → Option (Nat × Text)
  | '\x5c' :: 'u' :: rest => do
    let (unit, rest) ← codeUnit? rest
    if 0xdc00 ≤ unit && unit ≤ 0xdfff then return (unit, rest) else none
  | _ => none

/-- A character written by its code units; half a surrogate pair stands for
the replacement character. -/
def escapedChar? (t : Text) : Option (Char × Text) := do
  let (unit, rest) ← codeUnit? t
  if 0xd800 ≤ unit && unit ≤ 0xdfff then
    match lowHalf? rest with
    | some (low, after) =>
      if unit ≤ 0xdbff then
        return (Char.ofNat (0x10000 + (unit - 0xd800) * 0x400 + (low - 0xdc00)),
          after)
      else return (Char.ofNat 0xfffd, rest)
    | none => return (Char.ofNat 0xfffd, rest)
  else return (Char.ofNat unit, rest)

/-- The character that a one-letter escape stands for. -/
def escape? : Char → Option Char
  | '\x22' => some '\x22'
  | '\x5c' => some '\x5c'
  | '/' => some '/'
  | 'b' => some '\x08'
  | 'f' => some '\x0c'
  | 'n' => some '\n'
  | 'r' => some '\r'
  | 't' => some '\t'
  | _ => none

/-- The rest of a string after its opening quote. -/
def stringBody : Nat → Text → Text → Except ReadError (Text × Text)
  | 0, _, _ => .error .malformed
  | fuel + 1, acc, t =>
    match t with
    | [] => .error .malformed
    | '\x22' :: rest => .ok (acc.reverse, rest)
    | '\x5c' :: 'u' :: rest =>
      match escapedChar? rest with
      | some (c, rest) => stringBody fuel (c :: acc) rest
      | none => .error .malformed
    | '\x5c' :: e :: rest =>
      match escape? e with
      | some c => stringBody fuel (c :: acc) rest
      | none => .error .malformed
    | c :: rest =>
      if c.toNat < 0x20 || c == '\x5c' then .error .malformed
      else stringBody fuel (c :: acc) rest

/-- A string after its opening quote. -/
def stringAfterQuote (t : Text) : Except ReadError (Text × Text) :=
  stringBody (t.length + 1) [] t

-- ============================================================== values

/-- The literals that are words. -/
def wordLiterals : List (String × Json) :=
  [("null", .null), ("true", .bool true), ("false", .bool false),
    ("NaN", .real .nan), ("Infinity", .real (.infinite false)),
    ("-Infinity", .real (.infinite true))]

/-- A word literal, if the text starts with one. -/
def wordLiteral? (t : Text) : Option (Json × Text) :=
  wordLiterals.findSome? fun (word, value) =>
    if word.toList.isPrefixOf t then some (value, t.drop word.length) else none

mutual

/-- A value at the start of a text. -/
def value : Nat → Text → Except ReadError (Json × Text)
  | 0, _ => .error .malformed
  | fuel + 1, t =>
    match t with
    | '\x22' :: rest => do
      let (s, rest) ← stringAfterQuote rest
      return (.string s, rest)
    | '\x7b' :: rest =>
      match skipSpace rest with
      | '\x7d' :: rest => .ok (.object [], rest)
      | rest => members fuel .empty rest
    | '[' :: rest =>
      match skipSpace rest with
      | ']' :: rest => .ok (.array [], rest)
      | rest => items fuel [] rest
    | _ =>
      match wordLiteral? t with
      | some found => .ok found
      | none =>
        match t with
        | '-' :: rest => unsigned true rest
        | _ => unsigned false t

/-- The items of an array from one of them on, with those before it, last
first. -/
def items : Nat → List Json → Text → Except ReadError (Json × Text)
  | 0, _, _ => .error .malformed
  | fuel + 1, acc, t => do
    let (item, rest) ← value fuel t
    match skipSpace rest with
    | ',' :: rest => items fuel (item :: acc) (skipSpace rest)
    | ']' :: rest => return (.array (item :: acc).reverse, rest)
    | _ => .error .malformed

/-- The members of an object from one of them on, with those before it. -/
def members : Nat → Table Json → Text → Except ReadError (Json × Text)
  | 0, _, _ => .error .malformed
  | fuel + 1, acc, t => do
    match t with
    | '\x22' :: rest =>
      let (key, rest) ← stringAfterQuote rest
      match skipSpace rest with
      | ':' :: rest =>
        let (item, rest) ← value fuel (skipSpace rest)
        match skipSpace rest with
        | ',' :: rest => members fuel (acc.put key item) (skipSpace rest)
        | '\x7d' :: rest => return (.object (acc.put key item).entries, rest)
        | _ => .error .malformed
      | _ => .error .malformed
    | _ => .error .malformed

end

/-- The document that a whole text denotes. -/
def read (t : Text) : Except ReadError Json := do
  let (document, rest) ← value (t.length + 1) (skipSpace t)
  if (skipSpace rest).isEmpty then return document else .error .malformed

-- ============================================================= nesting

/-- What follows an element and the comma after it, if both can be read. -/
def afterComma? (element : Except ReadError (Json × Text)) : Option Text :=
  match element with
  | .ok (_, rest) =>
    match skipSpace rest with
    | ',' :: more => some (skipSpace more)
    | _ => none
  | .error _ => none

mutual

/-- How deep the brackets are nested that reading a value opens, up to where
it ends or breaks off. -/
def valueNesting : Nat → Text → Nat
  | 0, _ => 0
  | fuel + 1, t =>
    match t with
    | '\x7b' :: rest =>
      match skipSpace rest with
      | '\x7d' :: _ => 1
      | rest => membersNesting fuel rest + 1
    | '[' :: rest =>
      match skipSpace rest with
      | ']' :: _ => 1
      | rest => itemsNesting fuel rest + 1
    | _ => 0

/-- The same for the items of an array from one of them on. -/
def itemsNesting : Nat → Text → Nat
  | 0, _ => 0
  | fuel + 1, t =>
    max (valueNesting fuel t) (match afterComma? (value fuel t) with
      | some more => itemsNesting fuel more
      | none => 0)

/-- The same for the members of an object from one of them on. -/
def membersNesting : Nat → Text → Nat
  | 0, _ => 0
  | fuel + 1, t =>
    match t with
    | '\x22' :: rest =>
      match stringAfterQuote rest with
      | .ok (_, rest) =>
        match skipSpace rest with
        | ':' :: rest =>
          max (valueNesting fuel (skipSpace rest))
            (match afterComma? (value fuel (skipSpace rest)) with
              | some more => membersNesting fuel more
              | none => 0)
        | _ => 0
      | .error _ => 0
    | _ => 0

end

/-- How deep the brackets of a text are nested, as far as it is read. A
bracket that is never closed takes twice the fuel of one that is. -/
def nesting (t : Text) : Nat := valueNesting (2 * t.length + 1) (skipSpace t)

-- ============================================================ comments

open Pattern

/-- A string literal, kept, or a comment, dropped. -/
def stringOrComment : Pattern :=
  oneOf [group .body (only '\x22'
      ++ star (alt (only '\x5c' ++ char fun _ => true)
        (char (except ['\x22', '\x5c'])))
      ++ only '\x22'),
    lit "//" ++ many inLine,
    lit "/*" ++ run (fun _ => true) .least ++ lit "*/"]

/-- A comma with nothing but blanks before a closing bracket. -/
def trailingComma : Pattern :=
  lit "," ++ group .body (blanks ++ char (among ['\x7d', ']']))

/-- The text without comments and without trailing commas. -/
def stripComments (text : Text) : Text :=
  trailingComma.replaceAll (·.get .body)
    (stringOrComment.replaceAll (·.get .body) text)

end SourceAtlas.Json
