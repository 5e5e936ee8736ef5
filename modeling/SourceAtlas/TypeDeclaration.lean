/-
Type declarations: the name of each type that a file declares, with the line
of its first declaration.

Consumed by extraction.
-/
import SourceAtlas.Export
import SourceAtlas.SourceFile

namespace SourceAtlas.TypeDeclaration

open Pattern Export

/-- Types of TypeScript. -/
def scriptType : Pattern :=
  anchor .lineStart ++ maybeWord "export" ++ maybeWord "default"
    ++ maybeWord "declare"
    ++ maybeWord "abstract"
    ++ oneOf [lit "type", lit "interface", lit "enum",
      lit "const" ++ blanks1 ++ lit "enum",
        lit "class"]
    ++ blanks1 ++ asciiCapitalized .name

/-- Classes of Python, and names bound to a type that a call makes. -/
def pythonType : Pattern :=
  anchor .lineStart
    ++ alt (lit "class" ++ blanks1 ++ asciiCapitalized .name)
      (asciiCapitalized .name ++ blanks ++ lit "=" ++ blanks
        ++ opt (lit "typing.")
        ++ anyOf ["TypedDict", "NamedTuple", "NewType"] ++ blanks ++ lit "(")

/-- Types of Go. -/
def goType : Pattern :=
  anchor .lineStart ++ lit "type" ++ blanks1 ++ identifier .name ++ wordEdge

/-- A visibility marker, possibly with a scope in parentheses. -/
def visibility : Pattern :=
  lit "pub" ++ opt (lit "(" ++ many (except [')']) ++ lit ")")

/-- Types of Rust. -/
def rustType : Pattern :=
  indent ++ opt (visibility ++ blanks1)
    ++ anyOf ["struct", "enum", "trait", "type", "union"] ++ blanks1
    ++ capitalized .name

/-- The declarations of a language. -/
def pattern : Language → Pattern
  | .script => scriptType
  | .python => pythonType
  | .go => goType
  | .rust => rustType

/-- Every declaration: the name and its line. -/
def occurrences (language : Language) (text : Text) : List (Text × Nat) :=
  ((pattern language).findAll text).filterMap fun m =>
    (m.capture? .name).map fun c => (c.text, text.lineAt c.start)

/-- The pairs whose name occurs in no pair before them. -/
def firstPerName : List (Text × Nat) → List (Text × Nat)
  | [] => []
  | (name, line) :: rest =>
    (name, line) :: (firstPerName rest).filter fun (other, _) => other != name

/-- The declared names, each with the line of its first declaration. -/
def declarations (language : Language) (text : Text) : List (Text × Nat) :=
  firstPerName (occurrences language text)

end SourceAtlas.TypeDeclaration
