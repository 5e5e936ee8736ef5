/-
Looking for a pattern in a whole text: at its start, over all of it, at
every place from the left without overlap, and replacement of every match.
The scans recurse on the text; the characters that the last match used up
are skipped by a counter.

What the scanned languages have in common stands here too: quoted text and
identifiers. A literal closes with the quote that opened it, so its pattern is
one alternative per quote character.

Consumed by every scanner of source text.
-/
import SourceAtlas.Pattern.Basic

namespace SourceAtlas

/-- A match: where it starts, what it matched, what follows it, and what it
captured, latest first. -/
structure Match where
  start : Nat
  text : Text
  rest : Text
  captures : List Capture
  deriving DecidableEq, Repr

/-- The latest capture for a slot. -/
def Match.capture? (m : Match) (slot : Slot) : Option Capture :=
  m.captures.find? (·.slot == slot)

/-- The text captured for a slot, if the slot took part in the match. -/
def Match.get? (m : Match) (slot : Slot) : Option Text :=
  (m.capture? slot).map (·.text)

/-- The text captured for a slot, or the empty text. -/
def Match.get (m : Match) (slot : Slot) : Text := (m.get? slot).getD []

/-- The match between two places. -/
def Match.between (c e : Cursor) : Match :=
  ⟨c.offset, c.textTo e, e.ahead, e.captures⟩

namespace Pattern

/-- The preferred match at a place. -/
def matchAt (p : Pattern) (c : Cursor) : Option Match :=
  p.exec c fun e => some (.between c e)

/-- The preferred match at the start of a text. -/
def matchStart (p : Pattern) (t : Text) : Option Match := p.matchAt (.ofText t)

/-- The preferred match of a whole text. -/
def matchWhole (p : Pattern) (t : Text) : Option Match :=
  p.exec (.ofText t) fun e =>
    if e.ahead = [] then some (.between (.ofText t) e) else none

/-- `findAll` from a place on, after `skip` more characters. -/
def findAllFrom (p : Pattern) : Nat → Option Char → Nat → Text → List Match
  | _, _, _, [] => []
  | skip + 1, _, offset, x :: rest =>
      findAllFrom p skip (some x) (offset + 1) rest
  | 0, behind, offset, x :: rest =>
    match p.matchAt ⟨behind, offset, x :: rest, []⟩ with
    | some m =>
        m :: findAllFrom p (m.text.length - 1) (some x) (offset + 1) rest
    | none => findAllFrom p 0 (some x) (offset + 1) rest

/-- The matches found from the left, none overlapping the one before it. -/
def findAll (p : Pattern) (t : Text) : List Match := findAllFrom p 0 none 0 t

/-- The leftmost match. -/
def find? (p : Pattern) (t : Text) : Option Match := (p.findAll t).head?

/-- `replaceAll` from a place on, after `skip` more characters. -/
def replaceAllFrom (p : Pattern) (f : Match → Text) :
    Nat → Option Char → Nat → Text → Text
  | _, _, _, [] => []
  | skip + 1, _, offset, x :: rest =>
      replaceAllFrom p f skip (some x) (offset + 1) rest
  | 0, behind, offset, x :: rest =>
    match p.matchAt ⟨behind, offset, x :: rest, []⟩ with
    | some m =>
        f m ++ replaceAllFrom p f (m.text.length - 1) (some x) (offset + 1) rest
    | none => x :: replaceAllFrom p f 0 (some x) (offset + 1) rest

/-- The text with each match that `findAll` finds replaced by `f` of it. -/
def replaceAll (p : Pattern) (f : Match → Text) (t : Text) : Text :=
  replaceAllFrom p f 0 none 0 t

end Pattern

-- ========================================================= quoted text

namespace Pattern

/-- The two quote characters. -/
def quotes : List Char := ['\x27', '\x22']

/-- One alternative per quote character. -/
def eachQuote (p : Char → Pattern) : Pattern := oneOf (quotes.map p)

/-- One character. -/
def only (c : Char) : Pattern := char (· == c)

/-- The literal between two quotes `q`, in which a backslash goes with the
character after it. -/
def escapedLiteral (slot : Slot) : Pattern :=
  eachQuote fun q =>
    only q ++ group slot
      (star (alt (only '\x5c' ++ char inLine) (char (except [q, '\n']))))
      ++ only q

/-- A literal with an optional letter before it that marks its kind. -/
def markedLiteral (slot : Slot) : Pattern :=
  opt (char (among ['r', 'b', 'u', 'f'])) ++ escapedLiteral slot

/-- A non-empty literal on one line that holds no quote of either kind. -/
def plainLiteral (slot : Slot) : Pattern :=
  eachQuote fun q => only q
    ++ group slot (many1 (except ['\x27', '\x22', '\n'])) ++ only q

/-- Letters and the underscore of ASCII. -/
def isNameStart (c : Char) : Bool := c.isAlpha || c == '_'

/-- An identifier: an ASCII letter or underscore, then word characters. -/
def identifier (slot : Slot) : Pattern :=
  group slot (char isNameStart ++ many Text.isWord)

/-- An identifier that starts with a capital ASCII letter. -/
def capitalized (slot : Slot) : Pattern :=
  group slot (char Char.isUpper ++ many Text.isWord)

/-- A name of ASCII letters, digits and underscores that starts with a
capital. -/
def asciiCapitalized (slot : Slot) : Pattern :=
  group slot (char Char.isUpper ++ many fun c => c.isAlphanum || c == '_')

end Pattern

end SourceAtlas
