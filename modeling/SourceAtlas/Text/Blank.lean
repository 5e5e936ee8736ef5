/-
White space over all of Unicode, the trimming and word splitting built on
it, and the characters that end a line.

Consumed by the pattern classes and by every scanner that reads lines or
words.
-/
import SourceAtlas.Text.Basic

namespace SourceAtlas.Text

-- ============================================================== blanks

/-- Closed ranges of the white-space characters, in increasing order. -/
def blankRanges : List (Nat × Nat) :=
  [(0x9, 0xd), (0x1c, 0x20), (0x85, 0x85), (0xa0, 0xa0), (0x1680, 0x1680),
   (0x2000, 0x200a), (0x2028, 0x2029), (0x202f, 0x202f), (0x205f, 0x205f),
   (0x3000, 0x3000)]

/-- White space: spaces, tabs, line ends and separators of every script. -/
def isBlank (c : Char) : Bool :=
  blankRanges.any fun (low, high) => low ≤ c.toNat && c.toNat ≤ high

/-- A space or a tab. -/
def isInline (c : Char) : Bool := c == ' ' || c == '\t'

/-- Drops leading blanks. -/
def trimLeft (t : Text) : Text := t.dropWhile isBlank

/-- Drops leading and trailing blanks. -/
def trim (t : Text) : Text := trimBoth isBlank t

/-- `words` with the characters of the word being read, last first. -/
def wordsFrom : Text → Text → List Text
  | current, [] => if current.isEmpty then [] else [current.reverse]
  | current, c :: rest =>
    if isBlank c then
      if current.isEmpty then wordsFrom [] rest
      else current.reverse :: wordsFrom [] rest
    else wordsFrom (c :: current) rest

/-- The maximal runs of characters that are not blank. -/
def words (t : Text) : List Text := wordsFrom [] t

/-- The text with every run of blanks made one space and none at the ends. -/
def squeeze (t : Text) : Text := join [' '] (words t)

-- =============================================================== lines

/-- The characters that end a line: line feed, vertical tab, form feed,
carriage return, the file, group and record separators, next line, and the
line and paragraph separators. -/
def isLineEnd (c : Char) : Bool :=
  (0xa ≤ c.toNat && c.toNat ≤ 0xd) || (0x1c ≤ c.toNat && c.toNat ≤ 0x1e)
    || c.toNat == 0x85 || c.toNat == 0x2028 || c.toNat == 0x2029

/-- `lines` with the characters of the line being read, last first. A
carriage return and the line feed after it end one line together. -/
def linesFrom : Text → Text → List Text
  | [], [] => []
  | current, [] => [current.reverse]
  | current, '\r' :: '\n' :: rest => current.reverse :: linesFrom [] rest
  | current, c :: rest =>
    if isLineEnd c then current.reverse :: linesFrom [] rest
    else linesFrom (c :: current) rest

/-- The lines of a text without their line ends. A line end at the very end
starts no further line. -/
def lines (t : Text) : List Text := linesFrom [] t

/-- Turns every carriage return, with or without a line feed after it, into
a line feed. -/
def normalizeNewlines : Text → Text
  | [] => []
  | '\r' :: '\n' :: rest => '\n' :: normalizeNewlines rest
  | c :: rest => (if c = '\r' then '\n' else c) :: normalizeNewlines rest

end SourceAtlas.Text
