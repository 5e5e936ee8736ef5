/-
Import specifiers: what a source text asks for, in the order in which it
asks, without duplicates. Each language has a few import forms; a find is
the offset of the statement and the specifier it names.

Consumed by import resolution.
-/
import SourceAtlas.SourceFile
import SourceAtlas.Ordered
import SourceAtlas.Pattern.Search
import SourceAtlas.UseTree

namespace SourceAtlas.Import

open Pattern

/-- A specifier and the offset of the statement that names it. -/
abbrev Find := Nat × Text

/-- The specifiers of a list of finds by offset; finds at one offset keep
their order. -/
def inOrder (finds : List Find) : List Text :=
  Text.dedupe ((Ordered.sortBy (fun a b => decide (a.1 ≤ b.1)) finds).map (·.2))

-- ============================================================= scripts

/-- The forms of script imports. -/
def scriptForms : List Pattern :=
  [wordEdge ++ lit "from" ++ blanks ++ plainLiteral .path,
   indent ++ lit "import" ++ blanks ++ plainLiteral .path,
   wordEdge ++ lit "require" ++ blanks ++ lit "(" ++ blanks
     ++ plainLiteral .path ++ blanks ++ lit ")",
   wordEdge ++ lit "import" ++ blanks ++ lit "(" ++ blanks
     ++ plainLiteral .path ++ blanks ++ lit ")"]

/-- The finds of all forms. -/
def scriptFinds (text : Text) : List Find :=
  scriptForms.flatMap fun form =>
    (form.findAll text).map fun m => (m.start, m.get .path)

/-- The specifiers of a script, by offset and then by text. -/
def scriptSpecifiers (text : Text) : List Text :=
  let le (a b : Find) : Bool := a.1 < b.1 || (a.1 == b.1 && Text.le a.2 b.2)
  Text.dedupe ((Ordered.sortBy le (scriptFinds text)).map (·.2))

-- ============================================================== Python

/-- At least one space or tab. -/
def inlineBlanks1 : Pattern := many1 Text.isInline

/-- A word character or a dot. -/
def isDotted (c : Char) : Bool := Text.isWord c || c == '.'

/-- `from … import …`: the leading dots, the module and the clause, which in
parentheses may span lines. -/
def fromImport : Pattern :=
  indent ++ lit "from" ++ inlineBlanks1 ++ group .dots (many (· == '.'))
    ++ group .moduleName (many isDotted) ++ inlineBlanks1 ++ lit "import"
    ++ inlineBlanks1 ++ group .clause
      (alt (lit "(" ++ many (except [')']) ++ lit ")") (many1 inLine))

/-- A module with an optional alias. -/
def moduleItem : Pattern :=
  many1 isDotted ++ opt
    (inlineBlanks1 ++ lit "as" ++ inlineBlanks1 ++ many1 Text.isWord)

/-- `import …`: a list of modules on one line. -/
def plainImport : Pattern :=
  indent ++ lit "import" ++ inlineBlanks1
    ++ group .clause (moduleItem
      ++ star (many Text.isInline ++ lit "," ++ many Text.isInline
        ++ moduleItem))

/-- A comment to the end of its line. -/
def hashComment : Pattern := lit "#" ++ many inLine

/-- A parenthesis. -/
def isParenthesis (c : Char) : Bool := c == '(' || c == ')'

/-- The name that one item of an import clause brings in. -/
def clauseName? (item : Text) : Option Text :=
  let name :=
    Text.trimBoth isParenthesis
      (Text.trim (Text.before " as " (Text.trim item)))
  if ((many1 Text.isWord).matchWhole name).isSome then some name else none

/-- The names that an import clause brings in. -/
def clauseNames (clause : Text) : List Text :=
  let bare := Text.trim (hashComment.replaceAll (fun _ => []) clause)
  let bare :=
    Text.trim (Text.trimBoth (fun c => isParenthesis c || c == '\x5c') bare)
  (Text.split ',' bare).filterMap clauseName?

/-- The modules of a plain import. -/
def plainFinds (m : Match) : List Find :=
  (Text.split ',' (m.get .clause)).filterMap fun item =>
    (Text.words item).head?.map fun name => (m.start, name)

/-- The module of a `from` import, or the names it takes from the dots
alone. -/
def fromFinds (m : Match) : List Find :=
  let dots := m.get .dots
  let name := m.get .moduleName
  if !name.isEmpty then [(m.start, dots ++ name)]
  else if dots.isEmpty then []
  else (clauseNames (m.get .clause)).map fun n => (m.start, dots ++ n)

/-- The specifiers of a Python file. -/
def pythonSpecifiers (text : Text) : List Text :=
  inOrder ((plainImport.findAll text).flatMap plainFinds
    ++ (fromImport.findAll text).flatMap fromFinds)

-- ================================================================== Go

/-- A non-empty literal in double quotes. -/
def doubleQuoted : Pattern :=
  only '\x22' ++ group .path (many1 (except ['\x22'])) ++ only '\x22'

/-- A single import with an optional name. -/
def singleImport : Pattern :=
  anchor .lineStart ++ lit "import" ++ inlineBlanks1
    ++ opt (many1 isDotted ++ inlineBlanks1) ++ doubleQuoted

/-- A block of imports. -/
def importBlock : Pattern :=
  anchor .lineStart ++ lit "import" ++ many Text.isInline ++ lit "("
    ++ group .body (run (fun _ => true) .least) ++ anchor .lineStart ++ lit ")"

/-- The specifiers of a Go file. -/
def goSpecifiers (text : Text) : List Text :=
  inOrder ((singleImport.findAll text).map (fun m => (m.start, m.get .path))
    ++ (importBlock.findAll text).flatMap fun b =>
      (doubleQuoted.findAll (b.get .body)).map fun m => (b.start, m.get .path))

-- ================================================================ Rust

/-- A visibility marker with the blanks after it, or nothing. -/
def maybePublic : Pattern :=
  opt (lit "pub" ++ opt (lit "(" ++ many (except [')']) ++ lit ")")
    ++ inlineBlanks1)

/-- A use declaration. -/
def useDeclaration : Pattern :=
  indent ++ maybePublic ++ lit "use" ++ inlineBlanks1
    ++ group .body (many1 (except [';'])) ++ lit ";"

/-- The declaration of a module in a file of its own. -/
def moduleDeclaration : Pattern :=
  indent ++ maybePublic ++ lit "mod" ++ inlineBlanks1
    ++ group .name (many1 Text.isWord) ++ many Text.isInline ++ lit ";"

/-- First segments of paths inside the crate. -/
def crateHeads : List Text := ["crate".toList, "self".toList, "super".toList]

/-- Whether a path stays inside the crate. -/
def inCrate (path : Text) : Bool := crateHeads.contains (Text.before "::" path)

/-- The specifiers of a Rust file. -/
def rustSpecifiers (text : Text) : List Text :=
  inOrder ((useDeclaration.findAll text).flatMap (fun m =>
      ((UseTree.paths [] (m.get .body)).filter inCrate).map fun path =>
        (m.start, path))
    ++ (moduleDeclaration.findAll text).map fun m =>
      (m.start, "self::".toList ++ m.get .name))

/-- The specifiers of a text. -/
def specifiers (text : Text) : Language → List Text
  | .script => scriptSpecifiers text
  | .python => pythonSpecifiers text
  | .go => goSpecifiers text
  | .rust => rustSpecifiers text

end SourceAtlas.Import
