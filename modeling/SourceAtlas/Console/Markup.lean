/-
Markup of console texts. A word in square brackets is a tag: it opens a
style, or closes one with a slash before the name, or with the slash alone
the latest one that is open. Backslashes before a tag make it plain text. A
tag whose name starts with an at sign stands for an action, whose parameters
have to be constants.

Tags are left out of what is shown. What remains of them is whether they
make sense: a text whose tags do not is not shown at all. A name between colons
stands for an emoji, and may say at its end whether the emoji is shown as text
or as a picture; a name that is not in the table stands for itself.

The modules of the console stand for the `rich` package, which is no part of
the program: they are one way to show a markup text, by which the program can
be run. What is proved of commands is proved for any way to show one
(`Packages.render`), and this one is `Packages.standard`'s.

Consumed by the command line.
-/
import SourceAtlas.Console.Constant
import SourceAtlas.Console.EmojiTable
import SourceAtlas.Console.Layout
import SourceAtlas.Console.Style
import SourceAtlas.Pattern.Search
import SourceAtlas.Text.Case

namespace SourceAtlas.Console

open Pattern

-- =============================================================== emoji

/-- The names with their emoji. -/
def emojiEntries : List (Text × Text) :=
  (Text.words emojiTable.toList).filterMap (Text.cut? ['='])

/-- The emoji of a name, in any case. -/
def emoji? (name : Text) : Option Text := emojiEntries.lookup (Text.smalls name)

/-- A code: a name between colons, with the kind of picture after a hyphen. -/
def emojiCode : Pattern :=
  lit ":" ++ group .name (run (fun c => !Text.isBlank c) .least)
    ++ opt (lit "-" ++ group .body (anyOf ["emoji", "text"])) ++ lit ":"

/-- The character that selects a kind of picture. -/
def pictureMark : Option Text → Text
  | some kind => [Char.ofNat (if kind = "text".toList then 0xfe0e else 0xfe0f)]
  | none => []

/-- What a code stands for. -/
def emojiOfCode (m : Match) : Text :=
  match emoji? (m.get .name) with
  | some emoji => emoji ++ pictureMark (m.get? .body)
  | none => m.text

/-- The text with its emoji codes replaced. -/
def replaceEmoji (t : Text) : Text := emojiCode.replaceAll emojiOfCode t

/-- Why a text cannot be shown. -/
inductive MarkupError where
  /-- A closing tag without a name where no tag is open. -/
  | nothingToClose
  /-- A closing tag for a tag that is not open. -/
  | notOpen (name : Text)
  /-- Parameters of an action that are no constant. -/
  | badParameters (parameters : Text)
  /-- A color with a component that is no number. -/
  | badColor
  deriving DecidableEq, Repr

-- ============================================================== pieces

/-- A tag: its name and what stands after the equals sign. -/
structure Tag where
  name : Text
  parameters : Option Text
  deriving DecidableEq, Repr

/-- The tag that is written between the brackets. -/
def Tag.ofText (t : Text) : Tag :=
  match Text.cut? ['='] t with
  | some (name, parameters) => ⟨name, some parameters⟩
  | none => ⟨t, none⟩

/-- The style definition that a tag stands for. -/
def Tag.definition (tag : Tag) : Text :=
  match tag.parameters with
  | some parameters => tag.name ++ ' ' :: parameters
  | none => tag.name

/-- A piece of markup. -/
inductive Piece where
  | plain (t : Text)
  | tag (t : Tag)
  deriving DecidableEq, Repr

/-- A tag with the backslashes before it. -/
def tagPattern : Pattern :=
  many (· == '\x5c') ++ lit "["
    ++ group .body (char
      (fun c => c.isLower || c == '#' || c == '/' || c == '@')
      ++ run (except ['[']) .least)
    ++ lit "]"

/-- What a tag with its backslashes stands for: every two of them for one,
and a last single one makes the tag plain. -/
def piecesOfTag (m : Match) : List Piece :=
  let slashes := (m.text.takeWhile (· == '\x5c')).length
  [.plain (List.replicate (slashes / 2) '\x5c'), if slashes % 2 = 1
    then .plain (m.text.drop slashes) else .tag (.ofText (m.get .body))]

/-- The pieces of a text that starts at an offset, given the tags in it. -/
def piecesFrom : Nat → Text → List Match → List Piece
  | _, t, [] => [.plain t]
  | offset, t, m :: rest =>
    .plain (t.take (m.start - offset)) :: piecesOfTag m
      ++ piecesFrom (m.start + m.text.length) m.rest rest

/-- The pieces of a text. -/
def pieces (t : Text) : List Piece := piecesFrom 0 t (tagPattern.findAll t)

/-- What is shown of a plain piece: a backslash before a bracket that starts
no tag is left out. -/
def shownPlain (t : Text) : Text :=
  dropCursorMoves (replaceEmoji
    (Text.join ['['] (Text.splitSeq ['\x5c', '['] t)))

-- ================================================================ tags

/-- The normal form of the name of a tag. -/
def normalName (name : Text) : Except MarkupError Text :=
  (Style.normalize name).mapError fun _ => .badColor

/-- The latest open tag with the given name, or of all if the name is empty,
and the others. -/
def closeTag (name : Text) (opened : List Tag) :
    Except MarkupError (Tag × List Tag) :=
  if name.isEmpty then
    match opened with
    | tag :: rest => .ok (tag, rest)
    | [] => .error .nothingToClose
  else do
    let wanted ← normalName name
    match opened.find? (·.name == wanted) with
    | some tag => return (tag, opened.eraseP (·.name == wanted))
    | none => .error (.notOpen name)

/-- The name of an action with its arguments in parentheses. -/
def actionPattern : Pattern :=
  run (fun c => Text.isWord c || c == '.') .least
    ++ opt (group .body (lit "(" ++ run inLine .least ++ lit ")"))

/-- The part of the parameters of an action that has to be a constant. -/
def actionArguments (parameters : Text) : Text :=
  let bare := Text.trim parameters
  match actionPattern.matchWhole bare with
  | some m => (m.get? .body).getD "()".toList
  | none => bare

/-- Checks the parameters of a closed tag that stands for an action. -/
def checkAction (tag : Tag) : Except MarkupError Unit :=
  match tag.parameters with
  | none => .ok ()
  | some parameters =>
    if parameters.isEmpty
        || Constant.isConstant (actionArguments parameters) then .ok ()
    else .error (.badParameters parameters)

/-- Checks the colors of a style definition; one that denotes no style has
no effect. -/
def checkColors (definition : Text) : Except MarkupError Unit :=
  (normalName definition).map fun _ => ()

-- =========================================================== rendering

/-- How far the pieces have been read: what is shown, last piece first, the
tags that are open, latest first, and the definitions of those closed. -/
structure Progress where
  shown : List Text := []
  opened : List Tag := []
  definitions : List Text := []
  deriving DecidableEq, Repr

/-- Reads one more piece. -/
def Progress.step (p : Progress) : Piece → Except MarkupError Progress
  | .plain t => .ok { p with shown := shownPlain t :: p.shown }
  | .tag ⟨'/' :: name, _⟩ => do
    let (tag, opened) ← closeTag (Text.trim name) p.opened
    if ['@'].isPrefixOf tag.name then
      checkAction tag
      return { p with opened }
    else
      return { p with
        opened
        definitions := tag.definition :: p.definitions }
  | .tag ⟨name, parameters⟩ => do
    let normal ← normalName name
    return { p with opened := ⟨normal, parameters⟩ :: p.opened }

/-- What is shown of a text, as one text. -/
def plain (t : Text) : Except MarkupError Text := do
  let p ← (pieces t).foldlM Progress.step {}
  (p.definitions ++ p.opened.map Tag.definition).forM checkColors
  return p.shown.reverse.flatten

/-- The columns of the console. -/
def consoleWidth : Nat := 200

/-- The lines in which a text is shown. -/
def render (t : Text) : Except MarkupError (List Text) :=
  (plain t).map (layout consoleWidth)

end SourceAtlas.Console
