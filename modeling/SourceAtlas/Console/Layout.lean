/-
Laying out a plain text on the console: characters that move the cursor are
dropped, tabs become spaces up to the next tab stop, and lines that do not
fit are broken between words. A word that fits on no line is cut. This is how
the `rich` package lays texts out (see `Console.Markup`).

Consumed by `Console.Markup`.
-/
import SourceAtlas.Console.Width
import SourceAtlas.Pattern.Search

namespace SourceAtlas.Console

open Pattern

/-- Characters that are never shown: bell, backspace, vertical tab, form feed
and carriage return. -/
def isCursorMove (c : Char) : Bool :=
  c.toNat == 7 || c.toNat == 8 || c.toNat == 11 || c.toNat == 12
    || c.toNat == 13

/-- Drops the characters that are never shown. -/
def dropCursorMoves (t : Text) : Text := t.filter fun c => !isCursorMove c

-- ================================================================ tabs

/-- The distance between tab stops. -/
def tabStop : Nat := 8

/-- Joins the parts between tabs, the first of which starts at a column. A
tab takes at least one column. -/
def joinAtStops : Nat → List Text → Text
  | _, [] => []
  | _, [part] => part
  | start, part :: rest =>
    let reached := start + width part + 1
    let spaces := (tabStop - reached % tabStop) % tabStop
    part ++ List.replicate (1 + spaces) ' '
      ++ joinAtStops (reached + spaces) rest

/-- The line with spaces in place of tabs. -/
def expandTabs (line : Text) : Text := joinAtStops 0 (Text.split '\t' line)

-- ============================================================ breaking

/-- Words with the blanks after them; the first one also has those before
it. -/
def paddedWords (line : Text) : List Text :=
  ((blanks ++ many1 (fun c => !Text.isBlank c) ++ blanks).findAll line).map
    (·.text)

/-- `cut` with the piece being filled, last character first, and the columns
it takes. -/
def cutFrom (limit : Nat) : Text → Nat → Text → List Text
  | piece, _, [] => [piece.reverse]
  | piece, used, c :: rest =>
    if limit < used + columns c
      then piece.reverse :: cutFrom limit [c] (columns c) rest
    else cutFrom limit (c :: piece) (used + columns c) rest

/-- Pieces of a word, each as long as the limit allows. -/
def cut (limit : Nat) (word : Text) : List Text := cutFrom limit [] 0 word

/-- Fills lines with words. `current` is the line being filled, `used` the
columns it takes, and `started` tells whether it holds a word. -/
def fill (limit : Nat) : Text → Nat → Bool → List Text → List Text
  | current, _, _, [] => [current]
  | current, used, started, word :: rest =>
    let size := width (Text.trimEnd Text.isBlank word)
    if used + size ≤ limit
      then fill limit (current ++ word) (used + width word) true rest
    else if limit < size then
      let pieces := cut limit word
      let last := pieces.getLast?.getD []
      (if started then [current] else []) ++ pieces.dropLast
        ++ fill limit last (width last) true rest
    else current :: fill limit word (width word) true rest

/-- The lines that a line is broken into. -/
def breakLine (limit : Nat) (line : Text) : List Text :=
  match paddedWords line with
  | [] => [line]
  | words => fill limit [] 0 false words

/-- The lines of a text on a console of the given width. -/
def layout (limit : Nat) (t : Text) : List Text :=
  (Text.split '\n' t).flatMap fun line => breakLine limit (expandTabs line)

end SourceAtlas.Console
