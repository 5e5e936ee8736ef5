/-
Text patterns and how they match. A pattern is tried at a cursor and hands
every way of matching, most preferred first, to a continuation; the first
continuation that succeeds decides. That is backtracking search, total by
recursion on the pattern: a run of one class recurses on the text ahead, and
a repeated pattern gives up an iteration that consumes nothing.

Consumed by `Pattern.Search`, which looks for matches in a whole text.
-/
import SourceAtlas.Text.Blank
import SourceAtlas.Text.Word

namespace SourceAtlas

/-- What a captured part of a match is for. -/
inductive Slot where
  | name
  | synonym
  | moduleName
  | dots
  | path
  | method
  | clause
  | body
  deriving DecidableEq, Repr

/-- A captured part of a match: its role, its offset and its text. -/
structure Capture where
  slot : Slot
  start : Nat
  text : Text
  deriving DecidableEq, Repr

/-- A place in a text: the character just before it, its offset, what lies
ahead, and the captures made so far, latest first. -/
structure Cursor where
  behind : Option Char
  offset : Nat
  ahead : Text
  captures : List Capture
  deriving DecidableEq, Repr

/-- The place before the first character. -/
def Cursor.ofText (t : Text) : Cursor := ⟨none, 0, t, []⟩

/-- The place one character further on. -/
def Cursor.advance (c : Cursor) (x : Char) (rest : Text) : Cursor :=
  { c with behind := some x, offset := c.offset + 1, ahead := rest }

/-- The text between two places. -/
def Cursor.textTo (c e : Cursor) : Text := c.ahead.take (e.offset - c.offset)

/-- Conditions on a place that consume nothing. -/
inductive Anchor where
  /-- At the start of the text or right after a line feed. -/
  | lineStart
  /-- Between a word character and something that is none. -/
  | wordEdge
  /-- At the end of the text or before one final line feed. -/
  | textEnd
  deriving DecidableEq, Repr

/-- Whether an anchor holds at a place. -/
def Anchor.holds (c : Cursor) : Anchor → Bool
  | .lineStart => c.behind.all (· == '\n')
  | .wordEdge => c.behind.any Text.isWord != c.ahead.head?.any Text.isWord
  | .textEnd => c.ahead == [] || c.ahead == ['\n']

/-- How far a run of one class goes first: as far as it can, or as little. -/
inductive Greed where
  | most
  | least
  deriving DecidableEq, Repr

/-- Text patterns. -/
inductive Pattern where
  /-- Matches the empty text. -/
  | empty
  /-- Matches one character of a class. -/
  | char (cls : Char → Bool)
  /-- Matches the empty text where the anchor holds. -/
  | anchor (a : Anchor)
  /-- Matches `p`, then `q`. -/
  | seq (p q : Pattern)
  /-- Matches `p`, or else `q`. -/
  | alt (p q : Pattern)
  /-- Matches any number of characters of a class. -/
  | run (cls : Char → Bool) (greed : Greed)
  /-- Matches `p` any number of times, as often as it can. -/
  | star (p : Pattern)
  /-- Matches `p` and captures what it matched. -/
  | group (slot : Slot) (p : Pattern)
  /-- Matches the empty text where `p` matches. -/
  | look (p : Pattern)

namespace Pattern

-- ============================================================ matching

/-- Runs over the characters of a class, the longest run first. -/
def runMost {β : Type} (cls : Char → Bool) (k : Cursor → Option β) :
    Text → Cursor → Option β
  | [], c => k c
  | x :: rest, c =>
    if cls x then runMost cls k rest (c.advance x rest) <|> k c else k c

/-- Runs over the characters of a class, the shortest run first. -/
def runLeast {β : Type} (cls : Char → Bool) (k : Cursor → Option β) :
    Text → Cursor → Option β
  | [], c => k c
  | x :: rest, c =>
    k c <|> if cls x then runLeast cls k rest (c.advance x rest) else none

/-- Iterates `body` at most `fuel` times, as often as it can; an iteration
that consumes nothing is given up. -/
def iterate {β : Type} (body : Cursor → (Cursor → Option β) → Option β)
    (k : Cursor → Option β) : Nat → Cursor → Option β
  | 0, c => k c
  | fuel + 1, c =>
    body c (fun e => if c.offset < e.offset then iterate body k fuel e
      else none) <|> k c

/-- Tries the pattern at a place and hands each place where a match ends,
most preferred first, to `k` until it succeeds. An iteration of `star`
consumes at least one character, so the length of the text ahead bounds
their number. -/
def exec {β : Type} : Pattern → Cursor → (Cursor → Option β) → Option β
  | empty, c, k => k c
  | char cls, c, k =>
    match c.ahead with
    | x :: rest => if cls x then k (c.advance x rest) else none
    | [] => none
  | anchor a, c, k => if a.holds c then k c else none
  | seq p q, c, k => p.exec c fun e => q.exec e k
  | alt p q, c, k => p.exec c k <|> q.exec c k
  | run cls .most, c, k => runMost cls k c.ahead c
  | run cls .least, c, k => runLeast cls k c.ahead c
  | star p, c, k => iterate (fun d k' => p.exec d k') k c.ahead.length c
  | group slot p, c, k => p.exec c fun e =>
      k { e with captures := ⟨slot, c.offset, c.textTo e⟩ :: e.captures }
  | look p, c, k => p.exec c fun e => k { c with captures := e.captures }

-- ============================================================ building

instance : Append Pattern := ⟨seq⟩

/-- Exactly the given text. -/
def lit : Text → Pattern
  | [] => empty
  | [c] => char (· == c)
  | c :: rest => seq (char (· == c)) (lit rest)

/-- The first of the patterns that leads to a match. -/
def oneOf : List Pattern → Pattern
  | [] => char fun _ => false
  | [p] => p
  | p :: ps => alt p (oneOf ps)

/-- One of the given texts, earlier ones first. -/
def anyOf (texts : List String) : Pattern :=
  oneOf (texts.map fun t => lit t.toList)

/-- The pattern, or else nothing. -/
def opt (p : Pattern) : Pattern := alt p empty

/-- As many characters of the class as there are, possibly none. -/
def many (cls : Char → Bool) : Pattern := run cls .most

/-- As many characters of the class as there are, at least one. -/
def many1 (cls : Char → Bool) : Pattern := seq (char cls) (run cls .most)

/-- Blanks, possibly none. -/
def blanks : Pattern := many Text.isBlank

/-- At least one blank. -/
def blanks1 : Pattern := many1 Text.isBlank

/-- The indentation at the start of a line. -/
def indent : Pattern := anchor .lineStart ++ many Text.isInline

/-- Any character but those listed. -/
def except (chars : List Char) (c : Char) : Bool := !chars.contains c

/-- Any of the characters listed. -/
def among (chars : List Char) (c : Char) : Bool := chars.contains c

/-- Any character but a line feed. -/
def inLine (c : Char) : Bool := c != '\n'

/-- A place between a word character and something that is none. -/
def wordEdge : Pattern := anchor .wordEdge

end Pattern

end SourceAtlas
