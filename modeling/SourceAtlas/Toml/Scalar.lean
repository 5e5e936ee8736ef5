/-
Reading the scalars of the settings format: numbers in four bases with
underscores between digits, special reals, points in time, and the four
kinds of strings.

This stands for the scalars of the `toml` package, which is no part of the
program. It is one reader that a host may bring; nothing that is proved of
runs depends on it.

Consumed by `Toml.Reader`.
-/
import SourceAtlas.Json.Reader
import SourceAtlas.Toml.Basic

namespace SourceAtlas.Toml

-- ============================================================= numbers

/-- Digits of a class with single underscores between them, without the
underscores. -/
def plainDigits? (isDigit : Char → Bool) : Text → Option Text
  | [] => none
  | [c] => if isDigit c then some [c] else none
  | c :: '_' :: rest =>
      if isDigit c then (plainDigits? isDigit rest).map (c :: ·) else none
  | c :: rest =>
      if isDigit c then (plainDigits? isDigit rest).map (c :: ·) else none

/-- The value of digits in a base. -/
def valueIn (base : Nat) (digits : Text) : Nat :=
  digits.foldl (fun n c => n * base + (Json.hexValue? c).getD 0) 0

/-- A digit of base eight. -/
def isOctal (c : Char) : Bool := '0' ≤ c && c ≤ '7'

/-- A digit of base two. -/
def isBinary (c : Char) : Bool := c == '0' || c == '1'

/-- A digit of base sixteen. -/
def isHex (c : Char) : Bool := (Json.hexValue? c).isSome

/-- Sign and magnitude of a token. -/
def signed : Text → Bool × Text
  | '+' :: rest => (false, rest)
  | '-' :: rest => (true, rest)
  | rest => (false, rest)

/-- Whole digits: no zero before other digits. -/
def wholeDigits? (t : Text) : Option Text :=
  (plainDigits? Char.isDigit t).filter fun digits =>
    !(digits.length > 1 && ['0'].isPrefixOf digits)

/-- An integer. One in base ten may have no more than `Text.maxDigits`
digits. -/
def integer? (token : Text) : Option Int :=
  match token with
  | '0' :: 'x' :: rest => (plainDigits? isHex rest).map fun d => valueIn 16 d
  | '0' :: 'o' :: rest => (plainDigits? isOctal rest).map fun d => valueIn 8 d
  | '0' :: 'b' :: rest => (plainDigits? isBinary rest).map fun d => valueIn 2 d
  | _ =>
    let (negative, digits) := signed token
    ((wholeDigits? digits).filter (·.length ≤ Text.maxDigits)).map fun d =>
      let n : Int := valueIn 10 d
      if negative then -n else n

/-- The power of ten after an exponent mark. -/
def power? (t : Text) : Option Int :=
  let (negative, digits) := signed t
  (plainDigits? Char.isDigit digits).map fun d =>
    let n : Int := valueIn 10 d
    if negative then -n else n

/-- A number that is no integer. -/
def real? (token : Text) : Option RealNumber :=
  let (negative, body) := signed token
  if body = "inf".toList then some (.infinite negative)
  else if body = "nan".toList then some .nan
  else
    let isMark := fun c : Char => c == 'e' || c == 'E'
    let mantissa := body.takeWhile fun c => !isMark c
    let tail := body.dropWhile fun c => !isMark c
    let power : Option Int := match tail with
      | [] => some 0
      | _ :: digits => power? digits
    match power, Text.cut? ['.'] mantissa with
    | some p, some (whole, fraction) => do
      let w ← wholeDigits? whole
      let f ← plainDigits? Char.isDigit fraction
      return .finite (.ofParts negative w f p)
    | some p, none =>
      if tail.isEmpty then none
      else (wholeDigits? mantissa).map fun w =>
        .finite (.ofParts negative w [] p)
    | none, _ => none

-- ====================================================== points in time

/-- Whether a text has digits where the form has `0` and the same characters
elsewhere. -/
def hasForm : Text → Text → Bool
  | [], [] => true
  | '0' :: form, c :: t => c.isDigit && hasForm form t
  | f :: form, c :: t => f == c && hasForm form t
  | _, _ => false

/-- Whether a text has the form of a date. -/
def isDate (t : Text) : Bool := hasForm "0000-00-00" t

/-- The number written in the digits from an offset on. -/
def numberAt (offset length : Nat) (t : Text) : Nat :=
  valueIn 10 ((t.drop offset).take length)

/-- A date. -/
def date? (t : Text) : Option CalendarDate :=
  if isDate t then CalendarDate.make? (numberAt 0 4 t) (numberAt 5 2 t)
    (numberAt 8 2 t) else none

/-- The millionths of a second after the point; further digits do not
count. -/
def micros? : Text → Option Nat
  | [] => some 0
  | '.' :: digits =>
    if !digits.isEmpty && digits.all Char.isDigit then
      some (valueIn 10 ((digits ++ "00000".toList).take 6))
    else none
  | _ => none

/-- A time of day with an optional fraction of a second. -/
def time? (t : Text) : Option TimeOfDay := do
  let micros ← micros? (t.drop 8)
  if hasForm "00:00:00" (t.take 8) then
    TimeOfDay.make? (numberAt 0 2 t) (numberAt 3 2 t) (numberAt 6 2 t) micros
  else none

/-- The offset from universal time that some characters at the end of a text
denote, in minutes, if it is less than a day. -/
def offset? (t : Text) : Option Int :=
  let minutes : Int := numberAt 1 2 t * 60 + numberAt 4 2 t
  if numberAt 1 2 t < 24 && numberAt 4 2 t < 60 then
    if hasForm "+00:00" t then some minutes
    else if hasForm "-00:00" t then some (-minutes)
    else none
  else none

/-- A time of day with an optional offset. -/
def zonedTime? (t : Text) : Option (TimeOfDay × Option Int) :=
  let tail := t.drop (t.length - 6)
  if ['Z'].isSuffixOf t || ['z'].isSuffixOf t then
    (time? t.dropLast).map fun time => (time, some 0)
  else match offset? tail with
    | some minutes =>
        (time? (t.take (t.length - 6))).map fun time => (time, some minutes)
    | none => (time? t).map fun time => (time, none)

/-- A point in time. -/
def moment? (token : Text) : Option Moment :=
  match token.drop 10 with
  | mark :: rest =>
    if mark == 'T' || mark == 't' || mark == ' ' then do
      let date ← date? (token.take 10)
      let (time, offset) ← zonedTime? rest
      return .both date time offset
    else (time? token).map .time
  | [] =>
    match date? token with
    | some date => some (.date date)
    | none => (time? token).map .time

/-- Characters of a number or a point in time. -/
def isTokenChar (c : Char) : Bool :=
  c.isAlphanum || c == '+' || c == '-' || c == '_' || c == '.' || c == ':'

/-- The token at the start of a text; a date may be followed by a space and a
time. -/
def token (t : Text) : Text × Text :=
  let first := t.takeWhile isTokenChar
  let rest := t.dropWhile isTokenChar
  match rest with
  | ' ' :: c :: more =>
    if isDate first && c.isDigit then
      (first ++ ' ' :: (c :: more).takeWhile isTokenChar,
        (c :: more).dropWhile isTokenChar)
    else (first, rest)
  | _ => (first, rest)

/-- A boolean, a number or a point in time. -/
def scalar? (t : Text) : Option (Toml × Text) :=
  let (word, rest) := token t
  let value : Option Toml :=
    if word = "true".toList then some (.boolean true)
    else if word = "false".toList then some (.boolean false)
    else match integer? word with
      | some n => some (.integer n)
      | none => match real? word with
        | some r => some (.real r)
        | none => (moment? word).map .moment
  value.map fun v => (v, rest)

-- ============================================================= strings

/-- A code point of `n` hexadecimal digits. -/
def codePoint? (n : Nat) (t : Text) : Option (Char × Text) :=
  let digits := t.take n
  if digits.length = n && digits.all isHex
      && (valueIn 16 digits).isValidChar then
    some (Char.ofNat (valueIn 16 digits), t.drop n)
  else none

/-- The character that an escape stands for, after its backslash. -/
def escape? : Text → Option (Char × Text)
  | 'u' :: rest => codePoint? 4 rest
  | 'U' :: rest => codePoint? 8 rest
  | '/' :: _ => none
  | c :: rest => (Json.escape? c).map fun x => (x, rest)
  | [] => none

/-- A string on one line after its opening quote. -/
def lineString? : Nat → Text → Text → Option (Text × Text)
  | 0, _, _ => none
  | fuel + 1, acc, t =>
    match t with
    | '\x22' :: rest => some (acc.reverse, rest)
    | '\x5c' :: rest =>
        (escape? rest).bind fun (c, rest) => lineString? fuel (c :: acc) rest
    | '\n' :: _ => none
    | c :: rest => lineString? fuel (c :: acc) rest
    | [] => none

/-- A string over several lines after its opening quotes. A backslash at the
end of a line drops the white space after it. -/
def blockString? : Nat → Text → Text → Option (Text × Text)
  | 0, _, _ => none
  | fuel + 1, acc, t =>
    match t with
    | '\x22' :: '\x22' :: '\x22' :: '\x22' :: '\x22' :: rest =>
      some (('\x22' :: '\x22' :: acc).reverse, rest)
    | '\x22' :: '\x22' :: '\x22' :: '\x22' :: rest =>
        some (('\x22' :: acc).reverse, rest)
    | '\x22' :: '\x22' :: '\x22' :: rest => some (acc.reverse, rest)
    | '\x5c' :: rest =>
      match rest.dropWhile fun c => c == ' ' || c == '\t' with
      | '\n' :: more =>
        blockString? fuel acc
          (more.dropWhile fun c => c == ' ' || c == '\t' || c == '\n')
      | _ =>
          (escape? rest).bind fun (c, rest) => blockString? fuel (c :: acc) rest
    | c :: rest => blockString? fuel (c :: acc) rest
    | [] => none

/-- A literal string on one line after its opening quote. -/
def literalString? (t : Text) : Option (Text × Text) :=
  (Text.cut? ['\x27'] t).filter fun (body, _) => !body.contains '\n'

/-- A literal string over several lines after its opening quotes. -/
def literalBlock? (t : Text) : Option (Text × Text) :=
  (Text.cut? ['\x27', '\x27', '\x27'] t).map fun (body, rest) =>
    match rest with
    | '\x27' :: '\x27' :: more => (body ++ ['\x27', '\x27'], more)
    | '\x27' :: more => (body ++ ['\x27'], more)
    | more => (body, more)

/-- Drops one line feed right after the opening quotes. -/
def dropNewline : Text → Text
  | '\n' :: rest => rest
  | rest => rest

/-- A string of any kind. -/
def string? (t : Text) : Option (Text × Text) :=
  match t with
  | '\x22' :: '\x22' :: '\x22' :: rest =>
      blockString? (rest.length + 1) [] (dropNewline rest)
  | '\x22' :: rest => lineString? (rest.length + 1) [] rest
  | '\x27' :: '\x27' :: '\x27' :: rest => literalBlock? (dropNewline rest)
  | '\x27' :: rest => literalString? rest
  | _ => none

end SourceAtlas.Toml
