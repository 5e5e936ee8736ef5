/-
The symbols that a file exports, by language: declarations after `export` and
names listed in `export { … }` of a script; what `__all__` lists of a Python
module, and otherwise its public functions and classes; the capitalised members
of a Go package, declared alone or in groups; the public items of a Rust file
and the names that its public use declarations bring out again.

Consumed by extraction and by the type scanner.
-/
import SourceAtlas.Ordered
import SourceAtlas.Pattern.Search
import SourceAtlas.SourceFile
import SourceAtlas.UseTree

namespace SourceAtlas.Export

open Pattern

-- ============================================================= scripts

/-- First characters of a script identifier. -/
def isScriptNameStart (c : Char) : Bool := isNameStart c || c == '$'

/-- Further characters of a script identifier. -/
def isScriptName (c : Char) : Bool := Text.isWord c || c == '$'

/-- A script identifier. -/
def scriptIdentifier : Pattern :=
  group .name (char isScriptNameStart ++ many isScriptName)

/-- A keyword that may be missing, with the blanks after it. -/
def maybeWord (word : Text) : Pattern := opt (lit word ++ blanks1)

/-- An exported declaration. -/
def scriptDeclaration : Pattern :=
  indent ++ lit "export" ++ blanks1 ++ maybeWord "default"
    ++ maybeWord "declare"
    ++ maybeWord "async" ++ maybeWord "abstract"
    ++ oneOf [lit "const" ++ blanks1 ++ lit "enum", lit "const",
      lit "let", lit "var",
        lit "function" ++ opt (blanks ++ lit "*"), lit "class", lit "type",
        lit "interface",
        lit "enum", lit "namespace"]
    ++ blanks1 ++ scriptIdentifier

/-- An export list. -/
def exportList : Pattern :=
  indent ++ lit "export" ++ blanks1 ++ maybeWord "type" ++ only '\x7b'
    ++ group .body (many (except ['\x7d'])) ++ only '\x7d'

/-- A comment in a script. -/
def scriptComment : Pattern :=
  alt (lit "/*" ++ run (fun _ => true) .least ++ lit "*/")
    (lit "//" ++ many inLine)

/-- The name before `as` in one item of an export list. -/
def listedName? (item : Text) : Option Text :=
  let item := Text.trim (scriptComment.replaceAll (fun _ => []) item)
  let item :=
    if "type ".toList.isPrefixOf item then Text.trim (item.drop 5) else item
  (Text.words item).head?.filter fun name =>
    name != "default".toList && (scriptIdentifier.matchWhole name).isSome

/-- The names before `as` in an export list. -/
def listedNames (body : Text) : List Text :=
  (Text.split ',' body).filterMap listedName?

/-- The exported symbols, strictly increasing. -/
def scriptSymbols (text : Text) : List Text :=
  let declared := (scriptDeclaration.findAll text).map (·.get .name)
  let listed :=
    (exportList.findAll text).flatMap fun m => listedNames (m.get .body)
  Ordered.ofList (declared ++ listed)

-- ============================================================== Python

/-- An assignment to `__all__` at the start of a line. -/
def allAssignment : Pattern :=
  anchor .lineStart ++ lit "__all__" ++ blanks
    ++ opt (lit ":" ++ many (except ['=', '\n'])) ++ opt (lit "+") ++ lit "="
    ++ blanks ++ char (among ['[', '('])
    ++ group .body (many (except [']', ')'])) ++ char (among [']', ')'])

/-- A function or class at the top level. -/
def topLevelDefinition : Pattern :=
  anchor .lineStart
    ++ oneOf [lit "async" ++ blanks1 ++ lit "def", lit "def", lit "class"]
    ++ blanks1 ++ identifier .name

/-- The names that the assignments to `__all__` list, if there are any. -/
def declaredAll? (text : Text) : Option (List Text) :=
  match allAssignment.findAll text with
  | [] => none
  | found => some (Text.dedupe (found.flatMap fun m =>
      ((escapedLiteral .name).findAll (m.get .body)).map (·.get .name)))

/-- The exported symbols, strictly increasing. -/
def pythonSymbols (text : Text) : List Text :=
  match declaredAll? text with
  | some names => Ordered.ofList names
  | none => Ordered.ofList
      (((topLevelDefinition.findAll text).map (·.get .name)).filter fun name =>
        !(['_'].isPrefixOf name))

-- ================================================================== Go

/-- The keywords that declare package members other than functions. -/
def goKeyword : Pattern := anyOf ["type", "var", "const"]

/-- A capitalised declaration at the start of a line. -/
def goDeclaration : Pattern :=
  anchor .lineStart ++ alt
    (lit "func" ++ blanks1 ++ capitalized .name ++ blanks
      ++ char (among ['[', '('])) (goKeyword ++ blanks1 ++ capitalized .name)

/-- A group of declarations in parentheses. -/
def goGroup : Pattern :=
  anchor .lineStart ++ goKeyword ++ blanks ++ lit "(" ++ blanks ++ only '\n'
    ++ group .body (run (fun _ => true) .least) ++ anchor .lineStart ++ lit ")"

/-- A capitalised name at the start of an indented line. -/
def goGroupItem : Pattern :=
  anchor .lineStart ++ blanks1 ++ capitalized .name ++ wordEdge

/-- The exported symbols, strictly increasing. -/
def goSymbols (text : Text) : List Text :=
  let alone := (goDeclaration.findAll text).map (·.get .name)
  let grouped := (goGroup.findAll text).flatMap fun m =>
    (goGroupItem.findAll (m.get .body)).map (·.get .name)
  Ordered.ofList (alone ++ grouped)

-- ================================================================ Rust

/-- A public item. -/
def rustDeclaration : Pattern :=
  indent ++ lit "pub" ++ blanks1 ++ maybeWord "async" ++ maybeWord "unsafe"
    ++ opt (lit "extern" ++ blanks1 ++ only '\x22' ++ many (except ['\x22'])
      ++ only '\x22' ++ blanks1)
    ++ oneOf [lit "fn", lit "struct", lit "enum", lit "trait", lit "type",
      lit "const", lit "static" ++ opt (blanks1 ++ lit "mut"), lit "mod",
      lit "union"]
    ++ blanks1 ++ identifier .name

/-- A public use declaration. -/
def publicUse : Pattern :=
  indent ++ lit "pub" ++ blanks1 ++ lit "use" ++ blanks1
    ++ group .body (many1 (except [';'])) ++ lit ";"

/-- The exported symbols, strictly increasing. -/
def rustSymbols (text : Text) : List Text :=
  let declared := (rustDeclaration.findAll text).map (·.get .name)
  let used :=
    (publicUse.findAll text).flatMap fun m => UseTree.names (m.get .body)
  Ordered.ofList (declared ++ used)

-- ======================================================= all languages

/-- The exported symbols of a text, strictly increasing. -/
def symbols (text : Text) : Language → List Text
  | .script => scriptSymbols text
  | .python => pythonSymbols text
  | .go => goSymbols text
  | .rust => rustSymbols text

/-- Whether exports of test files are left out. -/
def skipsTests : Language → Bool
  | .rust => false
  | _ => true

end SourceAtlas.Export
