/-
Slash-separated paths as texts: joining, normal forms, the last component
and its extension, and containment in the project root. Paths that are given
and shown keep what they name only: empty parts and dots vanish from them,
double dots stay.

Consumed by the survey, alias expansion, import resolution and the graph
renderers; plain paths by the artifact store, the snapshot and the command
line.
-/
import SourceAtlas.Text.Basic

namespace SourceAtlas.Path

/-- The components between the slashes. -/
def components (p : Text) : List Text := Text.split '/' p

/-- The path below `base` that `p` names; an absolute `p` names itself. -/
def join (base p : Text) : Text :=
  if ['/'].isPrefixOf p then p
  else if base.isEmpty || ['/'].isSuffixOf base then base ++ p
  else base ++ '/' :: p

-- ========================================================= normal form

/-- One component on the stack of those that remain, latest first. A `..`
takes back the component before it; with none to take back it stays, unless
the path is absolute. -/
def pushComponent (absolute : Bool) (stack : List Text) (part : Text) :
    List Text :=
  if part = [] || part = ['.'] then stack
  else if part = ['.', '.'] then
    match stack with
    | [] => if absolute then [] else [part]
    | top :: below => if top = ['.', '.'] then part :: stack else below
  else part :: stack

/-- How many slashes the normal form starts with: two stay two, any other
positive number becomes one. -/
def leadingSlashes : Text → Nat
  | '/' :: '/' :: '/' :: _ => 1
  | '/' :: '/' :: _ => 2
  | '/' :: _ => 1
  | _ => 0

/-- The path without empty and `.` components and with every `..` resolved
that has a component before it. -/
def normal (p : Text) : Text :=
  let slashes := leadingSlashes p
  let stack := (components p).foldl (pushComponent (slashes != 0)) []
  let out := List.replicate slashes '/' ++ Text.join ['/'] stack.reverse
  if out.isEmpty then ['.'] else out

/-- The normal form of a path relative to a root, or none if the path is
empty or absolute, names the root itself, or leaves it. -/
def clean? (p : Text) : Option Text :=
  if p.isEmpty || ['/'].isPrefixOf p then none
  else
    let out := normal p
    if out = ['.'] || out = ['.', '.'] || ['.', '.', '/'].isPrefixOf out then
      none
    else some out

-- ================================================== parts of one path

/-- What follows the last slash. -/
def base (p : Text) : Text := Text.afterLast ['/'] p

/-- What precedes the last slash, or nothing if there is none. -/
def parent (p : Text) : Text := ((Text.cutLast? ['/'] p).map (·.1)).getD []

/-- The directory part: what precedes the slashes before the last component;
slashes alone stay. -/
def directory (p : Text) : Text :=
  match Text.cutLast? ['/'] p with
  | none => []
  | some (head, _) =>
    if head.all (· == '/') then head ++ ['/'] else Text.trimEnd (· == '/') head

/-- The path before its extension, and the extension with its dot. Dots at
the start of the last component start no extension. -/
def splitExtension (p : Text) : Text × Text :=
  let name := base p
  match Text.cutLast? ['.'] name with
  | some (stem, ext) =>
    if stem.any (· != '.')
      then (p.take (p.length - (ext.length + 1)), '.' :: ext) else (p, [])
  | none => (p, [])

/-- The extension with its dot. -/
def extension (p : Text) : Text := (splitExtension p).2

/-- The last component without its extension. -/
def stem (p : Text) : Text := (splitExtension (base p)).1

end SourceAtlas.Path

namespace SourceAtlas

/-- A path: how many slashes it starts with, and its parts. -/
structure PlainPath where
  slashes : Nat
  parts : List Text
  deriving DecidableEq, Repr

namespace PlainPath

/-- The path that a text denotes. -/
def ofText (t : Text) : PlainPath :=
  ⟨Path.leadingSlashes t,
    (Path.components t).filter fun part => !part.isEmpty && part != ['.']⟩

/-- Whether the path starts at the top of the file system. -/
def isAbsolute (p : PlainPath) : Bool := p.slashes != 0

/-- The path `q` as seen from `p`. -/
def join (p q : PlainPath) : PlainPath :=
  if q.isAbsolute then q else ⟨p.slashes, p.parts ++ q.parts⟩

/-- How the path is shown. -/
def text (p : PlainPath) : Text :=
  let shown := List.replicate p.slashes '/' ++ Text.join ['/'] p.parts
  if shown.isEmpty then ['.'] else shown

/-- The names that lead to the path from the top of the file system, for one
who stands at `here`. -/
def fromTop (here : List Text) (p : PlainPath) : List Text :=
  if p.isAbsolute then p.parts else here ++ p.parts

end PlainPath

end SourceAtlas
