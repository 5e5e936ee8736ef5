/-
Rust use trees: `a::{b, c::{D, E as F}}`. Two readings of the same text: the
full paths of the leaves, for import resolution, and the last names of the
leaves, for re-exports. Both squeeze blanks, cut the outer braces and split
the inside at the commas that stand outside all braces.

The readings recurse on fuel, which the length of the text bounds: the inside
of the braces is shorter than the tree.
-/
import SourceAtlas.Text.Blank

namespace SourceAtlas.UseTree

/-- The pieces that end at a comma outside all braces, and what follows the
last of them. The depth counts open braces and may fall below zero; `current`
holds the piece being read, last character first. -/
def pieces : Int → Text → Text → List Text × Text
  | _, current, [] => ([], current.reverse)
  | depth, current, c :: rest =>
    let depth :=
      if c = '\x7b' then depth + 1 else if c = '\x7d' then depth - 1 else depth
    if c = ',' ∧ depth = 0 then
      let (items, last) := pieces depth [] rest
      (current.reverse :: items, last)
    else pieces depth (c :: current) rest

/-- The items between the commas outside all braces; a blank last item is
dropped. -/
def items (inner : Text) : List Text :=
  let (done, last) := pieces 0 [] inner
  if (Text.trim last).isEmpty then done else done ++ [last]

/-- What stands before the first opening brace. -/
def head (tree : Text) : Text := tree.takeWhile (· != '\x7b')

/-- What stands between the first opening and the last closing brace. -/
def inside (tree : Text) : Text :=
  match Text.cutLast? ['\x7d'] tree with
  | some (before, _) => (before.dropWhile (· != '\x7b')).drop 1
  | none => []

/-- The path of a leaf without its alias. -/
def leafPath (tree : Text) : Text := Text.trim (Text.before " as " tree)

-- ============================================================ full paths

/-- The path of one leaf below `above`. A star names what is above it, and so
does `self`. -/
def leafPaths (above tree : Text) : List Text :=
  let path := leafPath tree
  let path :=
    if "::*".toList.isSuffixOf path then path.take (path.length - 3) else path
  if path = "self".toList then
    if above.isEmpty then [] else [Text.trimEnd (· == ':') above]
  else if path.isEmpty then [] else [above ++ path]

/-- `paths` with a bound on the nesting of braces. -/
def pathsWithin : Nat → Text → Text → List Text
  | 0, _, _ => []
  | fuel + 1, above, tree =>
    let tree := Text.squeeze tree
    if tree.contains '\x7b' then
      let found := (pieces 0 [] (inside tree ++ [','])).1
      (found.filter fun item => !(Text.trim item).isEmpty).flatMap
        (pathsWithin fuel (above ++ head tree))
    else leafPaths above tree

/-- The full paths of the leaves, from left to right, below `above`. -/
def paths (above tree : Text) : List Text :=
  pathsWithin (tree.length + 1) above tree

-- ================================================================= names

/-- Last segments that name nothing of their own. -/
def reserved : List Text :=
  ["*".toList, "self".toList, "super".toList, "crate".toList]

/-- The last name of one leaf. -/
def leafNames (tree : Text) : List Text :=
  let last := Text.trim (Text.afterLast "::" (leafPath tree))
  if last.isEmpty || reserved.contains last then [] else [last]

/-- `names` with a bound on the nesting of braces. -/
def namesWithin : Nat → Text → List Text
  | 0, _ => []
  | fuel + 1, tree =>
    let tree := Text.squeeze tree
    if tree.contains '\x7b'
      then (items (inside tree)).flatMap (namesWithin fuel)
    else leafNames tree

/-- The last names of the leaves, from left to right. -/
def names (tree : Text) : List Text := namesWithin (tree.length + 1) tree

end SourceAtlas.UseTree
