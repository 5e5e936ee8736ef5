/-
Which texts are constants. A tag that names an action may carry parameters,
and these have to be built from numbers, quoted texts, tuples, sets and
dictionaries alone: nothing in them is a name to be looked up or a call to
be made. Only the answer matters, so the reader keeps of a value no more
than its kind. That only constants may be parameters is a rule of the `rich`
package (see `Console.Markup`).

Consumed by `Console.Markup`.
-/
import SourceAtlas.Json.Reader
import SourceAtlas.Text.Integer
import SourceAtlas.Text.Word

namespace SourceAtlas.Console.Constant

/-- What is known of a value that has been read. -/
inductive Kind where
  /-- A number, and whether it is imaginary and has a sign. -/
  | number (imaginary signed : Bool)
  /-- Any other value that never changes, so that a set may hold it. -/
  | fixed
  /-- A set, a dictionary, or a tuple that holds one. -/
  | changing
  /-- The word that makes an empty set once parentheses follow. -/
  | setWord
  deriving DecidableEq, Repr

/-- Whether a set may hold the value, or a dictionary use it as a key. -/
def Kind.isKey : Kind → Bool
  | number _ _ => true
  | fixed => true
  | _ => false

/-- Whether this is a value at all. -/
def Kind.isValue (k : Kind) : Bool := k != setWord

/-- The kind of a tuple of values. -/
def Kind.ofTuple (kinds : List Kind) : Kind :=
  if kinds.all isKey then fixed else changing

/-- How deep brackets may stand in each other. -/
def maxDepth : Nat := 200

-- ============================================================== blanks

/-- Blanks on one line. -/
def isSpace (c : Char) : Bool := c == ' ' || c == '\t' || c == '\x0c'

/-- Drops blanks, and inside brackets also line feeds and comments. A
backslash joins a line with the next one. -/
def skip (inside : Bool) : Text → Text
  | [] => []
  | '\x5c' :: '\n' :: rest => skip inside rest
  | c :: rest =>
    if isSpace c || (inside && c == '\n') then skip inside rest
    else if inside && c == '#' then skipComment rest
    else c :: rest
where
  /-- Drops the rest of a comment and the blanks after it. -/
  skipComment : Text → Text
  | [] => []
  | '\n' :: rest => skip inside rest
  | _ :: rest => skipComment rest

/-- Whether a line holds at most a comment. -/
def isIdle (line : Text) : Bool := (line.dropWhile isSpace).head?.all (· == '#')

-- ============================================================= numbers

/-- Digits with single underscores between them, and the rest. -/
def digits (isDigit : Char → Bool) : Text → Text × Text
  | [] => ([], [])
  | c :: '_' :: next :: rest =>
    if isDigit c && isDigit next then
      let (found, left) := digits isDigit (next :: rest)
      (c :: found, left)
    else if isDigit c then ([c], '_' :: next :: rest)
    else ([], c :: '_' :: next :: rest)
  | c :: rest =>
    if isDigit c then
      let (found, left) := digits isDigit rest
      (c :: found, left)
    else ([], c :: rest)

/-- Drops one underscore. -/
def skipUnderscore : Text → Text
  | '_' :: rest => rest
  | rest => rest

/-- The digits of a base after the mark of the base. -/
def basedNumber? (isDigit : Char → Bool) (t : Text) : Option (Kind × Text) :=
  let (found, rest) := digits isDigit (skipUnderscore t)
  if found.isEmpty then none else some (.number false false, rest)

/-- The text after an exponent, if there is one; a mark without digits is
refused. -/
def exponent? : Text → Option (Bool × Text)
  | c :: rest =>
    if c == 'e' || c == 'E' then
      let unsigned := match rest with
        | '+' :: more => more
        | '-' :: more => more
        | more => more
      let (found, left) := digits Char.isDigit unsigned
      if found.isEmpty then none else some (true, left)
    else some (false, c :: rest)
  | [] => some (false, [])

/-- Whether whole digits are those of an integer: no zero before another
digit, and not too many. -/
def isInteger (whole : Text) : Bool :=
  (whole.head? != some '0' || whole.all (· == '0'))
    && whole.length ≤ Text.maxDigits

/-- A decimal number: whole digits, a fraction, an exponent and the mark of an
imaginary number, each of them optional. -/
def decimal? (t : Text) : Option (Kind × Text) := do
  let (whole, afterWhole) := digits Char.isDigit t
  let (point, fraction, afterFraction) : Bool × Text × Text :=
    match afterWhole with
    | '.' :: more =>
      let (found, left) := digits Char.isDigit more
      (true, found, left)
    | more => (false, [], more)
  if whole.isEmpty && fraction.isEmpty then none
  let (powered, afterPower) ← exponent? afterFraction
  match afterPower with
  | 'j' :: rest => return (.number true false, rest)
  | 'J' :: rest => return (.number true false, rest)
  | rest =>
    if point || powered || isInteger whole
      then return (.number false false, rest) else none

/-- A number, with no word character right after it. -/
def number? (t : Text) : Option (Kind × Text) :=
  let isHex := fun c => (Json.hexValue? c).isSome
  let isOctal := fun c : Char => '0' ≤ c && c ≤ '7'
  let isBinary := fun c : Char => c == '0' || c == '1'
  let found := match t with
    | '0' :: mark :: rest =>
      if mark == 'x' || mark == 'X' then basedNumber? isHex rest
      else if mark == 'o' || mark == 'O' then basedNumber? isOctal rest
      else if mark == 'b' || mark == 'B' then basedNumber? isBinary rest
      else decimal? t
    | _ => decimal? t
  found.filter fun (_, rest) => !rest.head?.any Text.isWord

-- ======================================================== quoted texts

/-- How a quoted text is written. -/
structure Quoting where
  /-- The quote character. -/
  quote : Char
  /-- Whether it stands three times at both ends. -/
  triple : Bool
  /-- Whether backslashes stand for themselves. -/
  raw : Bool
  /-- Whether the text is one of bytes. -/
  bytes : Bool
  deriving DecidableEq, Repr

/-- Drops `n` hexadecimal digits that denote a code point. -/
def codePoint? (n : Nat) (t : Text) : Option Text :=
  let found := t.take n
  let value := found.foldl (fun v c => v * 16 + (Json.hexValue? c).getD 0) 0
  if found.length = n && found.all (fun c => (Json.hexValue? c).isSome)
    && value ≤ 0x10ffff then
    some (t.drop n)
  else none

/-- Drops the name of a character between braces. -/
def characterName? : Text → Option Text
  | '\x7b' :: rest =>
    let isNameChar := fun c : Char => c.isAlphanum || c == ' ' || c == '-'
    match rest.takeWhile isNameChar, rest.dropWhile isNameChar with
    | _ :: _, '\x7d' :: left => some left
    | _, _ => none
  | _ => none

/-- The text after an escape that starts with the character `c`. -/
def escape? (q : Quoting) (c : Char) (rest : Text) : Option Text :=
  if q.raw then some rest
  else if c = 'x' then codePoint? 2 rest
  else if q.bytes then some rest
  else if c = 'u' then codePoint? 4 rest
  else if c = 'U' then codePoint? 8 rest
  else if c = 'N' then characterName? rest
  else some rest

/-- The text after the quotes that close a text, if they are there. -/
def closed? (q : Quoting) (t : Text) : Option Text :=
  let marks := if q.triple then [q.quote, q.quote, q.quote] else [q.quote]
  if marks.isPrefixOf t then some (t.drop marks.length) else none

/-- The text after a quoted text whose opening quotes have been read. -/
def quoted? (q : Quoting) : Nat → Text → Option Text
  | 0, _ => none
  | fuel + 1, t =>
    match closed? q t with
    | some rest => some rest
    | none =>
      match t with
      | [] => none
      | '\x5c' :: c :: rest =>
        if q.bytes && 0x80 ≤ c.toNat then none
        else (escape? q c rest).bind (quoted? q fuel)
      | c :: rest =>
        if (c = '\n' && !q.triple) || (q.bytes && 0x80 ≤ c.toNat) then none
        else quoted? q fuel rest

/-- Letters before the opening quote: whether backslashes stand for
themselves, and whether the text is one of bytes. -/
def marks? (letters : Text) : Option (Bool × Bool) :=
  let small := String.ofList (letters.map Char.toLower)
  if small = "" || small = "u" then some (false, false)
  else if small = "r" then some (true, false)
  else if small = "b" then some (false, true)
  else if small = "br" || small = "rb" then some (true, true)
  else none

/-- A quoted text with the letters before it: whether it is one of bytes, and
what follows. -/
def string? (t : Text) : Option (Bool × Text) := do
  let (raw, bytes) ← marks? (t.takeWhile Char.isAlpha)
  match t.dropWhile Char.isAlpha with
  | quote :: rest =>
    if quote = '\x27' || quote = '\x22' then
      let triple := [quote, quote].isPrefixOf rest
      let left ← quoted? ⟨quote, triple, raw, bytes⟩ (t.length + 1)
        (if triple then rest.drop 2 else rest)
      return (bytes, left)
    else none
  | [] => none

/-- Whether a quoted text starts here. -/
def startsString (t : Text) : Bool :=
  (t.dropWhile Char.isAlpha).head?.any fun c => c == '\x27' || c == '\x22'

/-- Quoted texts one after the other make one text; texts of bytes and others
do not mix. -/
def strings? (inside : Bool) : Nat → Text → Option (Kind × Text)
  | 0, _ => none
  | fuel + 1, t => do
    let (bytes, rest) ← string? t
    let ahead := skip inside rest
    if startsString ahead then
      let (more, _) ← string? ahead
      if more = bytes then strings? inside fuel ahead else none
    else return (.fixed, rest)

-- ============================================================== values

/-- A value that is one word. -/
def word? (t : Text) : Option (Kind × Text) :=
  let word := String.ofList (t.takeWhile Text.isWord)
  let rest := t.dropWhile Text.isWord
  if word = "True" || word = "False" || word = "None" then some (.fixed, rest)
  else if word = "set" then some (.setWord, rest)
  else none

/-- A value without brackets. -/
def simple? (inside : Bool) (t : Text) : Option (Kind × Text) :=
  if ['.', '.', '.'].isPrefixOf t then some (.fixed, t.drop 3)
  else if startsString t then strings? inside (t.length + 1) t
  else match t with
    | c :: _ => if c.isDigit || c == '.' then number? t else word? t
    | [] => none

/-- The text after the end of a list of values: a closing bracket or, outside
of all brackets, lines that hold no more than comments. -/
def ended? (close : Option Char) (t : Text) : Option Text :=
  match close, t with
  | some bracket, c :: rest => if c = bracket then some rest else none
  | some _, [] => none
  | none, t => if (Text.split '\n' t).all isIdle then some [] else none

mutual

/-- A value without sign or sum. `depth` is how many more brackets may be
opened. -/
def atom? (fuel depth : Nat) (inside : Bool) (t : Text) :
    Option (Kind × Text) :=
  match fuel with
  | 0 => none
  | fuel + 1 => do
    let (kind, rest) ← match t, depth with
      | '(' :: more, depth + 1 => tuple? fuel depth (some ')') more
      | '\x7b' :: more, depth + 1 => braces? fuel depth (skip true more)
      | '(' :: _, 0 => none
      | '\x7b' :: _, 0 => none
      | t, _ => simple? inside t
    if kind = .setWord then
      match skip inside rest with
      | '(' :: more =>
        match skip true more with
        | ')' :: left => return (.changing, left)
        | _ => none
      | _ => return (kind, rest)
    else return (kind, rest)

/-- A value: a number may have a sign, and a real number may be followed by
an imaginary one that is added or taken away. -/
def value? (fuel depth : Nat) (inside : Bool) (t : Text) :
    Option (Kind × Text) :=
  match fuel with
  | 0 => none
  | fuel + 1 => do
    let isSign := fun c : Char => c == '+' || c == '-'
    let (kind, rest) ← match t with
      | c :: more =>
        if isSign c then
          match atom? fuel depth inside (skip inside more) with
          | some (.number imaginary false, rest) =>
              some (.number imaginary true, rest)
          | _ => none
        else atom? fuel depth inside t
      | [] => none
    match kind, skip inside rest with
    | .number false _, c :: more =>
      if isSign c then
        match atom? fuel depth inside (skip inside more) with
        | some (.number true false, rest) => return (.fixed, skip inside rest)
        | _ => none
      else return (kind, c :: more)
    | _, ahead => return (kind, ahead)

/-- The values of a list up to its end, with commas between them and perhaps
one after the last. -/
def values? (fuel depth : Nat) (close : Option Char) (t : Text) :
    Option (List Kind × Text) :=
  match fuel with
  | 0 => none
  | fuel + 1 =>
    match ended? close t with
    | some rest => some ([], rest)
    | none => do
      let (kind, rest) ← value? fuel depth close.isSome t
      if !kind.isValue then none
      match rest with
      | ',' :: more =>
        let (kinds, left) ← values? fuel depth close (skip close.isSome more)
        return (kind :: kinds, left)
      | _ =>
        let left ← ended? close rest
        return ([kind], left)

/-- What stands in parentheses, or outside of all brackets: one value, or a
tuple if there is a comma or nothing at all. -/
def tuple? (fuel depth : Nat) (close : Option Char) (t : Text) :
    Option (Kind × Text) :=
  match fuel with
  | 0 => none
  | fuel + 1 =>
    let start := skip close.isSome t
    match ended? close start with
    | some rest => if close.isSome then some (.fixed, rest) else none
    | none => do
      let (kind, rest) ← value? fuel depth close.isSome start
      match rest with
      | ',' :: more =>
        let (kinds, left) ← values? fuel depth close (skip close.isSome more)
        if kind.isValue then return (.ofTuple (kind :: kinds), left) else none
      | _ =>
        let left ← ended? close rest
        return (kind, left)

/-- What stands in braces: a dictionary if there is nothing or a colon after
the first value, and otherwise a set. -/
def braces? (fuel depth : Nat) (t : Text) : Option (Kind × Text) :=
  match fuel with
  | 0 => none
  | fuel + 1 =>
    match ended? (some '\x7d') t with
    | some rest => some (.changing, rest)
    | none => do
      let (kind, afterFirst) ← value? fuel depth true t
      if !kind.isKey then none
      match afterFirst with
      | ':' :: more =>
        let rest ← entries? fuel depth (skip true more)
        return (.changing, rest)
      | ',' :: more =>
        let (kinds, rest) ← values? fuel depth (some '\x7d') (skip true more)
        if kinds.all Kind.isKey then return (.changing, rest) else none
      | more =>
        let rest ← ended? (some '\x7d') more
        return (.changing, rest)

/-- The text after the entries of a dictionary from the value of the first one
on, with commas between them and perhaps one after the last. -/
def entries? (fuel depth : Nat) (t : Text) : Option Text :=
  match fuel with
  | 0 => none
  | fuel + 1 => do
    let (value, afterValue) ← value? fuel depth true t
    if !value.isValue then none
    match afterValue with
    | ',' :: rest =>
      let next := skip true rest
      match ended? (some '\x7d') next with
      | some left => return left
      | none =>
        let (key, afterKey) ← value? fuel depth true next
        match key.isKey, afterKey with
        | true, ':' :: more => entries? fuel depth (skip true more)
        | _, _ => none
    | rest => ended? (some '\x7d') rest

end

/-- Whether a text is a constant. -/
def isConstant (t : Text) : Bool :=
  let lines := (Text.split '\n' (Text.normalizeNewlines t)).dropWhile isIdle
  let body := Text.join ['\n'] lines
  !t.contains '\x00' && !body.head?.any isSpace
    && match tuple? (8 * body.length + 8) maxDepth none body with
      | some (kind, _) => kind.isValue
      | none => false

end SourceAtlas.Console.Constant
